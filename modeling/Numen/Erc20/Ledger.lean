import Numen.Erc20.Allowances

/-!
# The log as a ledger

Over any run of calls the transfers and withdrawals in the log account for every
balance, up to the existential deposits of accounts that were opened on the way.
The openings are not in the log: an account is opened when funds move to it that
did not exist before.
-/

namespace Numen
namespace Erc20

open Foundation
open Accounts

/-!
## Reading the log
-/

def Event.debit (host : Host) (who : AccountId) : Event -> Nat
  | transfer source _ value =>
      if host.toAccountId source = who then value.toNat else 0
  | withdrawal src _ value =>
      if host.toAccountId src = who then value.toNat else 0
  | approval _ _ _ => 0
  | deposit _ _ => 0

def Event.credit (host : Host) (who : AccountId) : Event -> Nat
  | transfer _ target value =>
      if host.toAccountId target = who then value.toNat else 0
  | withdrawal _ dest value => if dest = who then value.toNat else 0
  | approval _ _ _ => 0
  | deposit _ _ => 0

def debits (host : Host) (who : AccountId) (events : List Event) : Nat :=
  (events.map (Event.debit host who)).sum

def credits (host : Host) (who : AccountId) (events : List Event) : Nat :=
  (events.map (Event.credit host who)).sum

/-- `target`, if it has to be opened before `value` can move to it. -/
def newAccount (host : Host) (s : State) (target : AccountId) (value : Nat) :
    List AccountId :=
  if 0 < value ∧ host.accountExists target s = false then [target] else []

/-- Whoever did not exist in `s` when an event moved funds to them. -/
def Event.opens (host : Host) (s : State) : Event -> List AccountId
  | transfer _ target value =>
      newAccount host s (host.toAccountId target) value.toNat
  | withdrawal _ dest value => newAccount host s dest value.toNat
  | approval _ _ _ => []
  | deposit _ _ => []

/-- The events between two worlds account for the difference of their balances,
with one existential deposit for each account opened. -/
structure Accounted (host : Host) (w after : World) (events : List Event)
    (opened : List AccountId) : Prop where
  logs : after.logs = w.logs ++ events
  free : forall who,
    after.ledger.free who + debits host who events =
      w.ledger.free who + credits host who events +
        host.pallets.minimumBalance * opened.count who
  totalIssuance : after.ledger.totalIssuance =
    w.ledger.totalIssuance + host.pallets.minimumBalance * opened.length

section Accounts

variable {host : Host}

theorem Accounted.refl (w : World) : Accounted host w w [] [] where
  logs := (List.append_nil _).symm
  free := fun _ => rfl
  totalIssuance := rfl

theorem Accounted.trans {u v w : World} {first second : List Event}
    {opened opened' : List AccountId} (h : Accounted host u v first opened)
    (h' : Accounted host v w second opened') :
    Accounted host u w (first ++ second) (opened ++ opened') where
  logs := by rw [h'.logs, h.logs, List.append_assoc]
  free := by
    intro who
    have hfirst := h.free who
    have hsecond := h'.free who
    unfold debits credits at *
    rw [List.map_append, List.map_append, List.sum_append, List.sum_append,
      List.count_append, Nat.mul_add]
    lia
  totalIssuance := by
    rw [h'.totalIssuance, h.totalIssuance, List.length_append, Nat.mul_add,
      Nat.add_assoc]

/-!
## Moving funds
-/

theorem transfer_issuance (hlawful : host.Lawful) {source target : AccountId}
    {amount : Nat} {s t : State}
    (h : host.pallets.transfer source target amount Preservation.preserve s =
      Except.ok t) :
    t.totalIssuance = s.totalIssuance ∧
      t.inactiveIssuance = s.inactiveIssuance := by
  by_cases hself : source = target
  · subst hself
    have hsame := hlawful.transfer_self _ _ _ _ h
    exact ⟨hsame.totalIssuance, hsame.inactiveIssuance⟩
  · rcases hlawful.transfer_ok _ _ _ _ _ hself h with ⟨hmoved, _⟩
    exact ⟨hmoved.totalIssuance, hmoved.inactiveIssuance⟩

theorem deposit_issuance (hlawful : host.Lawful) {tx : Transaction}
    {w after : World} {output : Output}
    (hdeployed : host.accountExists (proxyAccount host) w.ledger = true)
    (hinput : tx.input = Call.deposit)
    (h : transact host tx w = Except.ok (output, after)) :
    after.ledger.totalIssuance = w.ledger.totalIssuance ∧
      after.ledger.inactiveIssuance = w.ledger.inactiveIssuance := by
  rcases transact_cases h with ⟨ledger, hvalue, _, hcase⟩
  rw [hinput] at hcase
  cases hcase with
  | view hview => cases hview
  | @deposit account refunded hcaller _ hrefund =>
      change tx.sender = some account at hcaller
      rw [hcaller] at hvalue
      rcases transfer_issuance hlawful hrefund with ⟨htotal, hinactive⟩
      by_cases hself : account = proxyAccount host
      · rw [hself] at hvalue
        have hsame := hlawful.transferValue_self _ _ _ _ hvalue
        exact ⟨htotal.trans hsame.totalIssuance,
          hinactive.trans hsame.inactiveIssuance⟩
      · have hsent := hlawful.transferValue_ok _ _ _ _ _ hself hdeployed hvalue
        exact ⟨htotal.trans hsent.totalIssuance,
          hinactive.trans hsent.inactiveIssuance⟩

end Accounts

end Erc20
end Numen
