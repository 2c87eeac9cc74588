import Numen.Erc20.Transfers

/-!
# Allowances

What a spender takes from an owner is paid from the allowance the owner set
last.  The tab of a pair records, over the calls that succeeded, the value set
last and what was taken since; the stored allowance is the difference.
-/

namespace Numen
namespace Erc20

open Foundation
open Accounts

def Transaction.actor (host : Host) (tx : Transaction) : Option H160 :=
  tx.sender.map host.toAddress

/-- How a call that succeeds concerns what a spender may take. -/
inductive Concern where
  | sets (value : U256)
  | spends (value : U256)
  | nothing
deriving DecidableEq

/-- What a call has to do with the allowance `owner` gives `spender`. -/
def Transaction.concern (host : Host) (owner spender : H160)
    (tx : Transaction) : Concern :=
  match tx.input with
  | Call.approve other value =>
      if tx.actor host = some owner ∧ other = spender then Concern.sets value
      else Concern.nothing
  | Call.permit permit =>
      if permit.owner = owner ∧ permit.spender = spender then
        Concern.sets permit.value
      else Concern.nothing
  | Call.transferFrom source _ value =>
      if source = owner ∧ tx.actor host = some spender then
        Concern.spends value
      else Concern.nothing
  | _ => Concern.nothing

/-- The value set last, and the sum of what was taken since. -/
structure Tab where
  granted : Nat
  spent : Nat
deriving DecidableEq

def Tab.enter (host : Host) (owner spender : H160) (tab : Tab)
    (tx : Transaction) : Tab :=
  match tx.concern host owner spender with
  | Concern.sets value => { granted := value.toNat, spent := 0 }
  | Concern.spends value => { tab with spent := tab.spent + value.toNat }
  | Concern.nothing => tab

def succeeded (host : Host) : World -> List Transaction -> List Transaction
  | _, [] => []
  | w, tx :: rest =>
      if (transact host tx w).isOk then
        tx :: succeeded host (step host w tx) rest
      else
        succeeded host (step host w tx) rest

def tabAfter (host : Host) (owner spender : H160) (w : World)
    (txs : List Transaction) : Tab :=
  (succeeded host w txs).foldl (Tab.enter host owner spender)
    { granted := (w.allowance owner spender).toNat, spent := 0 }

/-!
## One call
-/

section OneCall

variable {host : Host} {tx : Transaction} {w after : World} {output : Output}

theorem transact_allowance {owner spender : H160} (hne : owner ≠ spender)
    (h : transact host tx w = Except.ok (output, after)) :
    match tx.concern host owner spender with
    | Concern.sets value => after.allowance owner spender = value
    | Concern.spends value =>
        (after.allowance owner spender).toNat + value.toNat =
          (w.allowance owner spender).toNat
    | Concern.nothing =>
        after.allowance owner spender = w.allowance owner spender := by
  rcases transact_cases h with ⟨ledger, _, _, hcase⟩
  unfold Transaction.concern Transaction.actor
  generalize tx.input = input at hcase
  cases hcase with
  | view hview =>
      cases input with
      | approve _ _ => cases hview
      | permit _ => cases hview
      | transferFrom _ _ _ => cases hview
      | _ => rfl
  | @approve account other value hcaller =>
      change tx.sender = _ at hcaller
      rw [hcaller]
      by_cases hpair : some (host.toAddress account) = some owner ∧
          other = spender
      · dsimp only [Option.map_some]
        rw [if_pos hpair]
        have howner := Option.some.inj hpair.left
        exact (World.allowance_setAllowance _ _ _ _ _ _).trans
          (if_pos ⟨howner.symm, hpair.right.symm⟩)
      · dsimp only [Option.map_some]
        rw [if_neg hpair]
        refine (World.allowance_setAllowance _ _ _ _ _ _).trans (if_neg ?_)
        rintro ⟨rfl, rfl⟩
        exact hpair ⟨rfl, rfl⟩
  | transfer _ _ =>
      rfl
  | @transferOwn account target value _ hcaller _ =>
      change tx.sender = _ at hcaller
      rw [hcaller]
      dsimp only [Option.map_some]
      rw [if_neg]
      · rfl
      · -- the owner spends for nobody else
        rintro ⟨rfl, hactor⟩
        exact hne (Option.some.inj hactor)
  | @transferFrom account source target value left _ hcaller _ hsub _ =>
      change tx.sender = _ at hcaller
      rw [hcaller]
      by_cases hpair : source = owner ∧
          some (host.toAddress account) = some spender
      · dsimp only [Option.map_some]
        rw [if_pos hpair]
        have hspender := Option.some.inj hpair.right
        have hleft : World.allowance _ owner spender = left :=
          (World.allowance_setAllowance (w.setLedger ledger) source
            (host.toAddress account) left owner spender).trans
              (if_pos ⟨hpair.left.symm, hspender.symm⟩)
        have hsum := checkedSub_eq_some hsub
        rw [hpair.left, hspender] at hsum
        rw [← hleft] at hsum
        exact hsum
      · dsimp only [Option.map_some]
        rw [if_neg hpair]
        refine (World.allowance_setAllowance (w.setLedger ledger) _ _ _ _
          _).trans (if_neg ?_)
        rintro ⟨rfl, rfl⟩
        exact hpair ⟨rfl, rfl⟩
  | withdraw _ _ =>
      rfl
  | deposit _ _ _ =>
      rfl
  | @permit permit _ _ =>
      by_cases hpair : permit.owner = owner ∧ permit.spender = spender
      · dsimp only
        rw [if_pos hpair]
        exact (World.allowance_setAllowance _ _ _ _ _ _).trans
          (if_pos ⟨hpair.left.symm, hpair.right.symm⟩)
      · dsimp only
        rw [if_neg hpair]
        refine (World.allowance_setAllowance _ _ _ _ _ _).trans (if_neg ?_)
        rintro ⟨rfl, rfl⟩
        exact hpair ⟨rfl, rfl⟩

theorem Tab.enter_balanced {owner spender : H160} (hne : owner ≠ spender)
    {tab : Tab}
    (hbalanced : (w.allowance owner spender).toNat + tab.spent = tab.granted)
    (h : transact host tx w = Except.ok (output, after)) :
    (after.allowance owner spender).toNat +
        (tab.enter host owner spender tx).spent =
      (tab.enter host owner spender tx).granted := by
  have hallowance := transact_allowance hne h
  unfold enter
  cases hconcern : tx.concern host owner spender with
  | sets value =>
      rw [hconcern] at hallowance
      exact congrArg BitVec.toNat hallowance
  | spends value =>
      rw [hconcern] at hallowance
      dsimp only at hallowance ⊢
      lia
  | nothing =>
      rw [hconcern] at hallowance
      dsimp only at hallowance ⊢
      rw [hallowance]
      exact hbalanced

end OneCall

/-!
## A sequence of calls
-/

theorem succeeded_cons_ok {host : Host} {tx : Transaction} {w after : World}
    {output : Output} (rest : List Transaction)
    (h : transact host tx w = Except.ok (output, after)) :
    succeeded host w (tx :: rest) = tx :: succeeded host after rest := by
  rw [succeeded, h, step_of_ok h]
  rfl

theorem succeeded_cons_error {host : Host} {tx : Transaction} {w : World}
    {error : Error} (rest : List Transaction)
    (h : transact host tx w = Except.error error) :
    succeeded host w (tx :: rest) = succeeded host w rest := by
  rw [succeeded, h, step_of_error h]
  rfl

theorem tab_balanced {host : Host} {owner spender : H160}
    (hne : owner ≠ spender) (txs : List Transaction) (w : World) (tab : Tab)
    (hbalanced :
      (w.allowance owner spender).toNat + tab.spent = tab.granted) :
    ((txs.foldl (step host) w).allowance owner spender).toNat +
        ((succeeded host w txs).foldl (Tab.enter host owner spender)
          tab).spent =
      ((succeeded host w txs).foldl (Tab.enter host owner spender)
        tab).granted := by
  induction txs generalizing w tab with
  | nil =>
      exact hbalanced
  | cons tx rest ih =>
      rw [List.foldl_cons]
      cases hresult : transact host tx w with
      | error error =>
          rw [succeeded_cons_error rest hresult, step_of_error hresult]
          exact ih w tab hbalanced
      | ok result =>
          rw [succeeded_cons_ok rest hresult, step_of_ok hresult]
          exact ih result.2 (tab.enter host owner spender tx)
            (Tab.enter_balanced hne hbalanced hresult)

/-!
## Balances
-/

/-- The calls that may take from an owner: its own, and spendings of others that
its allowance covers. -/
def MayTake (host : Host) (owner : H160) (w : World) (tx : Transaction) :
    Prop :=
  (tx.actor host = some owner ∧
    ((exists target value, tx.input = Call.transfer target value) ∨
      (exists dest value, tx.input = Call.withdraw dest value) ∨
      (exists source target value,
        tx.input = Call.transferFrom source target value))) ∨
  (exists spender target value,
    tx.actor host = some spender ∧ spender ≠ owner ∧
    tx.input = Call.transferFrom owner target value ∧
    value.toNat ≤ (w.allowance owner spender).toNat)

section Balances

variable {host : Host} {tx : Transaction} {w after : World} {output : Output}

theorem deposit_free (hlawful : host.Lawful)
    (hdeployed : host.accountExists (proxyAccount host) w.ledger = true)
    (hinput : tx.input = Call.deposit)
    (h : transact host tx w = Except.ok (output, after)) (who : AccountId) :
    after.ledger.free who = w.ledger.free who := by
  rcases transact_cases h with ⟨ledger, hvalue, _, hcase⟩
  rw [hinput] at hcase
  cases hcase with
  | view hview => cases hview
  | @deposit account refunded hcaller _ hrefund =>
      change tx.sender = some account at hcaller
      change host.pallets.transfer (proxyAccount host) account tx.value.toNat
        Preservation.preserve ledger = Except.ok refunded at hrefund
      show refunded.free who = w.ledger.free who
      rw [hcaller] at hvalue
      by_cases hself : account = proxyAccount host
      · rw [hself] at hvalue hrefund
        rw [(hlawful.transfer_self _ _ _ _ hrefund).free,
          (hlawful.transferValue_self _ _ _ _ hvalue).free]
      · have hsent := hlawful.transferValue_ok _ _ _ _ _ hself hdeployed
          hvalue
        have hback := (hlawful.transfer_ok _ _ _ _ _ (Ne.symm hself)
          hrefund).left
        by_cases haccount : who = account
        · rw [haccount, hback.free_target, hsent.free_source]
        · by_cases hproxy : who = proxyAccount host
          · have htaken := hback.free_source
            rw [hsent.free_target] at htaken
            rw [hproxy]
            lia
          · rw [State.free_congr (hback.others who hproxy haccount),
              State.free_congr (hsent.others who haccount hproxy)]

theorem mayTake_of_free_lt (hlawful : host.Lawful)
    (hdeployed : host.accountExists (proxyAccount host) w.ledger = true)
    {owner : H160} (h : transact host tx w = Except.ok (output, after))
    (hless : after.ledger.free (host.toAccountId owner) <
      w.ledger.free (host.toAccountId owner)) :
    MayTake host owner w tx := by
  by_cases hdeposit : tx.input = Call.deposit
  · rw [deposit_free hlawful hdeployed hdeposit h] at hless
    exact absurd hless (Nat.lt_irrefl _)
  · rcases transact_cases h with ⟨ledger, hvalue, hpayable, hcase⟩
    have hledger := ledger_of_not_deposit hlawful hvalue hpayable hdeposit
    -- whoever loses is the source of the movement
    have hsource : forall source target value,
        moveFunds host source target value ledger =
          Except.ok after.ledger ->
        host.toAccountId owner = source := by
      intro source target value hmove
      refine Classical.byContradiction (fun hne => ?_)
      have hle := moveFunds_free_le hlawful hmove hne
      rw [hledger] at hle
      exact Nat.not_le.mpr hless hle
    have hunchanged : after.ledger ≠ ledger := by
      intro heq
      rw [heq, hledger] at hless
      exact Nat.lt_irrefl _ hless
    have hactor : forall account, tx.sender = some account ->
        host.toAccountId owner = account -> tx.actor host = some owner := by
      intro account hsender haccount
      unfold Transaction.actor
      rw [hsender, ← haccount]
      exact congrArg some (hlawful.toAddress_toAccountId owner)
    generalize hinput : tx.input = input at hcase
    cases hcase with
    | view _ =>
        exact absurd rfl hunchanged
    | approve _ =>
        exact absurd rfl hunchanged
    | permit _ _ =>
        exact absurd rfl hunchanged
    | deposit _ _ _ =>
        exact absurd hinput hdeposit
    | transfer hcaller hmove =>
        exact Or.inl ⟨hactor _ hcaller (hsource _ _ _ hmove),
          Or.inl ⟨_, _, hinput⟩⟩
    | withdraw hcaller hmove =>
        exact Or.inl ⟨hactor _ hcaller (hsource _ _ _ hmove),
          Or.inr (Or.inl ⟨_, _, hinput⟩)⟩
    | @transferOwn account target value _ hcaller hmove =>
        have haddress := congrArg host.toAddress (hsource _ _ _ hmove)
        rw [hlawful.toAddress_toAccountId,
          hlawful.toAddress_toAccountId] at haddress
        refine Or.inl ⟨?_, Or.inr (Or.inr ⟨_, _, _, hinput⟩)⟩
        unfold Transaction.actor
        change tx.sender = some account at hcaller
        rw [hcaller, haddress]
        rfl
    | @transferFrom account source target value left _ hcaller hother hsub
        hmove =>
        have haddress := congrArg host.toAddress (hsource _ _ _ hmove)
        rw [hlawful.toAddress_toAccountId,
          hlawful.toAddress_toAccountId] at haddress
        subst haddress
        change tx.sender = some account at hcaller
        have hsum := checkedSub_eq_some hsub
        refine Or.inr ⟨host.toAddress account, target, value, ?_,
          Ne.symm hother, hinput, ?_⟩
        · unfold Transaction.actor
          rw [hcaller]
          rfl
        · change left.toNat + value.toNat =
            (w.allowance owner (host.toAddress account)).toNat at hsum
          lia

end Balances

/-- Allowances bound what a spender can take.  After any sequence of calls the
allowance and what was spent since it was set add up to what was set; a call
that neither sets nor spends it leaves it alone; only the owner's own calls and
spendings its allowance covers lower an owner's balance; and a deposit changes
no balance, since it hands back the value it was sent. -/
theorem allowance_bounds_spending {host : Host} (hlawful : host.Lawful) :
    (forall w txs owner spender, owner ≠ spender ->
      ((txs.foldl (step host) w).allowance owner spender).toNat +
          (tabAfter host owner spender w txs).spent =
        (tabAfter host owner spender w txs).granted) ∧
    (forall w tx owner spender, owner ≠ spender ->
      tx.concern host owner spender = Concern.nothing ->
        (step host w tx).allowance owner spender =
          w.allowance owner spender) ∧
    (forall w tx owner,
      host.accountExists (proxyAccount host) w.ledger = true ->
      (step host w tx).ledger.free (host.toAccountId owner) <
          w.ledger.free (host.toAccountId owner) ->
        MayTake host owner w tx) ∧
    (forall w tx who,
      host.accountExists (proxyAccount host) w.ledger = true ->
      tx.input = Call.deposit ->
        (step host w tx).ledger.free who = w.ledger.free who) := by
  refine ⟨?_, ?_, ?_, ?_⟩
  · intro w txs owner spender hne
    exact tab_balanced hne txs w _ rfl
  · intro w tx owner spender hne hconcern
    cases hresult : transact host tx w with
    | error _ => rw [step_of_error hresult]
    | ok result =>
        have hallowance := transact_allowance hne hresult
        rw [hconcern] at hallowance
        rw [step_of_ok hresult]
        exact hallowance
  · intro w tx owner hdeployed hless
    cases hresult : transact host tx w with
    | error _ =>
        rw [step_of_error hresult] at hless
        exact absurd hless (Nat.lt_irrefl _)
    | ok result =>
        rw [step_of_ok hresult] at hless
        exact mayTake_of_free_lt hlawful hdeployed hresult hless
  · intro w tx who hdeployed hinput
    cases hresult : transact host tx w with
    | error _ => rw [step_of_error hresult]
    | ok result =>
        rw [step_of_ok hresult]
        exact deposit_free hlawful hdeployed hinput hresult who

/-- Alice lets Bob spend ten.  Bob takes four, fails to take seven more, and
keeps an allowance of six. -/
theorem bob_spends_four_of_ten :
    let host := referenceHost 1
    let w := tokenWorld { providers := 1, data := { free := 5 } }
    let txs := [callBy aliceAddress (Call.approve bobAddress 10),
      callBy bobAddress (Call.transferFrom aliceAddress bobAddress 4),
      callBy bobAddress (Call.transferFrom aliceAddress bobAddress 7)]
    tabAfter host aliceAddress bobAddress w txs =
        { granted := 10, spent := 4 } ∧
      ((txs.foldl (step host) w).allowance aliceAddress bobAddress).toNat +
        4 = 10 := by
  intro host w txs
  have htab : tabAfter host aliceAddress bobAddress w txs =
      { granted := 10, spent := 4 } := by
    decide +kernel
  have hlaws := allowance_bounds_spending
    (referenceHost_lawful (Nat.zero_lt_succ 0))
  have hsum := hlaws.left w txs aliceAddress bobAddress (by decide)
  rw [htab] at hsum
  exact ⟨htab, hsum⟩

end Erc20
end Numen
