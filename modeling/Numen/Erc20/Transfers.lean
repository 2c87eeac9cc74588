import Numen.Erc20.Effects
import Numen.Erc20.Reference

/-!
# What a transfer moves

A balance as the token shows it leaves out the existential deposit.  A transfer
therefore arrives whole only if the receiving account has its deposit already or
gets one on the way, and only an account that does not exist gets one.
-/

namespace Numen
namespace Erc20

open Foundation
open Accounts

/-!
## Moving funds
-/

inductive MoveCase (host : Host) (source target : AccountId) (value : U256)
    (s : State) : State -> Prop where
  | nothing :
      value.toNat = 0 ->
      MoveCase host source target value s s
  | known {t : State} :
      0 < value.toNat ->
      host.accountExists target s = true ->
      host.pallets.transfer source target value.toNat Preservation.preserve
        s = Except.ok t ->
      MoveCase host source target value s t
  | opened {minted t : State} :
      0 < value.toNat ->
      host.accountExists target s = false ->
      host.pallets.mintInto target host.pallets.minimumBalance s =
        Except.ok minted ->
      host.pallets.transfer source target value.toNat Preservation.preserve
        (host.pallets.deactivate host.pallets.minimumBalance minted) =
          Except.ok t ->
      MoveCase host source target value s t

section Moves

variable {host : Host} {source target : AccountId} {value : U256}
variable {s t : State}

theorem moveFunds_cases
    (h : moveFunds host source target value s = Except.ok t) :
    MoveCase host source target value s t := by
  rcases except_bind_eq_ok h with ⟨amount, hamount, h⟩
  rcases toBalance_ok hamount with ⟨rfl, _⟩
  split at h
  · rename_i hzero
    cases h
    exact MoveCase.nothing hzero
  · rename_i hvalue
    have hpos := Nat.pos_of_ne_zero hvalue
    rcases except_bind_eq_ok h with ⟨ready, hready, htransfer⟩
    unfold openAccount at hready
    split at hready
    · rename_i hexists
      cases hready
      exact MoveCase.known hpos hexists (orRevert_ok htransfer)
    · rename_i hexists
      rcases except_bind_eq_ok hready with ⟨minted, hminted, hready⟩
      cases hready
      exact MoveCase.opened hpos (Bool.eq_false_iff.mpr hexists)
        (orFail_ok hminted) (orRevert_ok htransfer)

theorem transfer_free_le (hlawful : host.Lawful) {amount : Nat}
    (h : host.pallets.transfer source target amount Preservation.preserve s =
      Except.ok t) {who : AccountId} (hwho : who ≠ source) :
    s.free who ≤ t.free who := by
  by_cases hself : source = target
  · subst hself
    rw [(hlawful.transfer_self _ _ _ _ h).free who]
  · rcases hlawful.transfer_ok _ _ _ _ _ hself h with ⟨hmoved, _⟩
    by_cases htarget : who = target
    · rw [htarget, hmoved.free_target]
      exact Nat.le_add_right _ _
    · rw [State.free_congr (hmoved.others who hwho htarget)]

theorem deactivate_account (hlawful : host.Lawful) (amount : Nat)
    (s : State) : (host.pallets.deactivate amount s).account = s.account := by
  rw [hlawful.deactivate_eq]
  rfl

theorem moveFunds_free_le (hlawful : host.Lawful)
    (h : moveFunds host source target value s = Except.ok t)
    {who : AccountId} (hwho : who ≠ source) : s.free who ≤ t.free who := by
  cases moveFunds_cases h with
  | nothing _ =>
      exact Nat.le_refl _
  | known _ _ htransfer =>
      exact transfer_free_le hlawful htransfer hwho
  | @opened minted _ _ _ hmint htransfer =>
      have hminted := hlawful.mintInto_ok _ _ _ _ hmint
      refine Nat.le_trans ?_ (transfer_free_le hlawful htransfer hwho)
      rw [State.free_congr (congrFun (deactivate_account hlawful _ _) who)]
      by_cases htarget : who = target
      · rw [htarget, hminted.free_credited]
        exact Nat.le_add_right _ _
      · rw [State.free_congr (hminted.others who htarget)]

end Moves

/-!
## Arriving whole
-/

/-- An account none of whose balance is locked, frozen, held or reserved. -/
structure Unencumbered (s : State) (who : AccountId) : Prop where
  locks : s.locks who = []
  freezes : s.freezes who = []
  reserved : (s.account who).data.reserved = 0
  frozen : (s.account who).data.frozen = 0

/-- `value` leaves the shown balance of `source` and arrives whole in that of
`target`. -/
structure ArrivesWhole (host : Host) (source target : AccountId)
    (value : Nat) (s t : State) : Prop where
  falls : shownBalance host source t + value = shownBalance host source s
  rises : shownBalance host target t = shownBalance host target s + value
  kept : host.pallets.minimumBalance ≤ t.free source
  totalIssuance : t.totalIssuance = s.totalIssuance +
    if 0 < value ∧ host.accountExists target s = false then
      host.pallets.minimumBalance
    else
      0
  activeIssuance : t.activeIssuance = s.activeIssuance
  others : forall who, who ≠ source -> who ≠ target -> t.free who = s.free who

section Whole

variable {host : Host} {source target : AccountId} {value : Nat}
variable {s t : State}

theorem shownBalance_eq (hlawful : host.Lawful) {who : AccountId} {s : State}
    (hfrozen : (s.account who).data.frozen = 0) :
    shownBalance host who s = s.free who - host.pallets.minimumBalance := by
  unfold shownBalance
  rw [hlawful.reducibleBalance_preserve, hfrozen, Nat.zero_sub,
    Nat.max_eq_right (Nat.zero_le _)]

theorem transfer_falls (hlawful : host.Lawful) (hne : source ≠ target)
    (hpos : 0 < value) (hfrozen : (s.account source).data.frozen = 0)
    (h : host.pallets.transfer source target value Preservation.preserve s =
      Except.ok t) :
    shownBalance host source t + value = shownBalance host source s ∧
      host.pallets.minimumBalance ≤ t.free source := by
  rcases hlawful.transfer_ok _ _ _ _ _ hne h with ⟨hmoved, hcovered⟩
  change value ≤ shownBalance host source s at hcovered
  have hfree := hmoved.free_source
  rw [shownBalance_eq hlawful hfrozen] at hcovered ⊢
  rw [shownBalance_eq hlawful (hmoved.frozen_source.trans hfrozen)]
  lia

/-- A transfer to an account that exists arrives whole unless the account has to
make up its deposit from it. -/
theorem arrivesWhole_known (hlawful : host.Lawful) (hne : source ≠ target)
    (hpos : 0 < value) (hexists : host.accountExists target s = true)
    (hsource : (s.account source).data.frozen = 0)
    (htarget : (s.account target).data.frozen = 0)
    (h : host.pallets.transfer source target value Preservation.preserve s =
      Except.ok t) :
    ArrivesWhole host source target value s t <->
      host.pallets.minimumBalance ≤ s.free target := by
  rcases transfer_falls hlawful hne hpos hsource h with ⟨hfalls, hkept⟩
  rcases hlawful.transfer_ok _ _ _ _ _ hne h with ⟨hmoved, _⟩
  have hshown : shownBalance host target t = shownBalance host target s +
      value <-> host.pallets.minimumBalance ≤ s.free target := by
    rw [shownBalance_eq hlawful htarget,
      shownBalance_eq hlawful (hmoved.frozen_target.trans htarget),
      hmoved.free_target]
    lia
  constructor
  · intro hwhole
    exact hshown.mp hwhole.rises
  · intro hdeposit
    refine ⟨hfalls, hshown.mpr hdeposit, hkept, ?_, ?_, ?_⟩
    · rw [if_neg (by simp [hexists]), hmoved.totalIssuance]
      rfl
    · unfold State.activeIssuance
      rw [hmoved.totalIssuance, hmoved.inactiveIssuance]
    · intro who hs ht
      exact State.free_congr (hmoved.others who hs ht)

theorem arrivesWhole_opened (hlawful : host.Lawful) {minted : State}
    (hne : source ≠ target) (hpos : 0 < value)
    (hexists : host.accountExists target s = false)
    (hsource : (s.account source).data.frozen = 0)
    (hmint : host.pallets.mintInto target host.pallets.minimumBalance s =
      Except.ok minted)
    (h : host.pallets.transfer source target value Preservation.preserve
      (host.pallets.deactivate host.pallets.minimumBalance minted) =
        Except.ok t) :
    ArrivesWhole host source target value s t := by
  have hminted := hlawful.mintInto_ok _ _ _ _ hmint
  have hempty := hlawful.account_of_not_exists _ _ hexists
  have haccount : forall who,
      (host.pallets.deactivate host.pallets.minimumBalance minted).account
        who = minted.account who :=
    congrFun (deactivate_account hlawful _ _)
  have hsame : minted.account source = s.account source :=
    hminted.others source hne
  have hfrozen : ((host.pallets.deactivate host.pallets.minimumBalance
      minted).account source).data.frozen = 0 := by
    rw [haccount, hsame, hsource]
  have hbefore : shownBalance host source
      (host.pallets.deactivate host.pallets.minimumBalance minted) =
        shownBalance host source s := by
    rw [shownBalance_eq hlawful hfrozen, shownBalance_eq hlawful hsource,
      State.free_congr ((haccount source).trans hsame)]
  rcases transfer_falls hlawful hne hpos hfrozen h with ⟨hfalls, hkept⟩
  rcases hlawful.transfer_ok _ _ _ _ _ hne h with ⟨hmoved, _⟩
  have hfree : t.free target = host.pallets.minimumBalance + value := by
    rw [hmoved.free_target, State.free_congr (haccount target),
      hminted.free_credited]
    unfold State.free
    rw [hempty, Nat.zero_add]
  have htarget : (t.account target).data.frozen = 0 := by
    rw [hmoved.frozen_target, haccount,
      congrArg AccountData.frozen hminted.credited, hempty]
  have hnothing : shownBalance host target s = 0 := by
    rw [shownBalance_eq hlawful (by rw [hempty])]
    unfold State.free
    rw [hempty, Nat.zero_sub]
  refine ⟨hfalls.trans hbefore, ?_, hkept, ?_, ?_, ?_⟩
  · rw [shownBalance_eq hlawful htarget, hfree, hnothing]
    lia
  · rw [if_pos ⟨hpos, hexists⟩, hmoved.totalIssuance, hlawful.deactivate_eq,
      ← hminted.totalIssuance]
    rfl
  · -- the new deposit is counted as inactive, so it cancels
    unfold State.activeIssuance
    rw [hmoved.totalIssuance, hmoved.inactiveIssuance, hlawful.deactivate_eq]
    unfold State.setInactive
    dsimp only
    rw [hminted.totalIssuance, hminted.inactiveIssuance]
    lia
  · intro who hs ht
    rw [State.free_congr (hmoved.others who hs ht),
      State.free_congr (haccount who),
      State.free_congr (hminted.others who ht)]

theorem arrivesWhole_zero :
    ArrivesWhole host source target 0 s s <->
      host.pallets.minimumBalance ≤ s.free source := by
  constructor
  · intro hwhole
    exact hwhole.kept
  · intro hkept
    exact ⟨rfl, rfl, hkept, by simp, rfl, fun _ _ _ => rfl⟩

theorem moveFunds_arrivesWhole_iff (hlawful : host.Lawful)
    (hne : source ≠ target) {value : U256}
    (hsource : (s.account source).data.frozen = 0)
    (htarget : (s.account target).data.frozen = 0)
    (h : moveFunds host source target value s = Except.ok t) :
    ArrivesWhole host source target value.toNat s t <->
      (0 < value.toNat ∨ host.pallets.minimumBalance ≤ s.free source) ∧
      (value.toNat = 0 ∨ host.accountExists target s = false ∨
        host.pallets.minimumBalance ≤ s.free target) := by
  cases moveFunds_cases h with
  | nothing hzero =>
      rw [hzero, arrivesWhole_zero]
      simp
  | known hpos hexists htransfer =>
      rw [arrivesWhole_known hlawful hne hpos hexists hsource htarget
        htransfer]
      simp [hpos, Nat.ne_of_gt hpos, hexists]
  | opened hpos hexists hmint htransfer =>
      refine ⟨fun _ => ⟨Or.inl hpos, Or.inr (Or.inl hexists)⟩, ?_⟩
      intro _
      exact arrivesWhole_opened hlawful hne hpos hexists hsource hmint
        htransfer

end Whole

/-!
## Transfers of the token
-/

/-- The account a transfer takes from, the account it gives to and what it
moves. -/
def Transaction.movement (host : Host) (tx : Transaction) :
    Option (AccountId × AccountId × U256) :=
  match tx.input with
  | Call.transfer target value =>
      tx.sender.map (fun account => (account, host.toAccountId target, value))
  | Call.transferFrom source target value =>
      some (host.toAccountId source, host.toAccountId target, value)
  | _ => none

theorem transact_movement {host : Host} (hlawful : host.Lawful)
    {tx : Transaction} {w after : World} {output : Output}
    {source target : AccountId} {value : U256}
    (h : transact host tx w = Except.ok (output, after))
    (hmovement : tx.movement host = some (source, target, value)) :
    moveFunds host source target value w.ledger = Except.ok after.ledger := by
  rcases transact_cases h with ⟨ledger, hvalue, hpayable, hcase⟩
  have hfree := ledger_of_not_deposit hlawful hvalue hpayable
  unfold Transaction.movement at hmovement
  generalize hinput : tx.input = input at hcase hmovement hfree
  cases hcase with
  | view hview =>
      cases input with
      | transfer _ _ => cases hview
      | transferFrom _ _ _ => cases hview
      | _ => cases hmovement
  | transfer hcaller hmove =>
      change tx.sender = _ at hcaller
      rw [hcaller] at hmovement
      cases hmovement
      rw [← hfree Call.noConfusion]
      exact hmove
  | transferOwn hcaller hmove =>
      cases hmovement
      rw [← hfree Call.noConfusion]
      exact hmove
  | transferFrom hcaller _ _ hmove =>
      cases hmovement
      rw [← hfree Call.noConfusion]
      exact hmove
  | approve _ => cases hmovement
  | withdraw _ _ => cases hmovement
  | deposit _ _ _ => cases hmovement
  | permit _ _ => cases hmovement

/-- A successful transfer arrives whole exactly if it moves nothing, opens the
receiving account or finds its existential deposit there.  An account that
exists without a balance makes up the deposit from what it receives. -/
theorem transfer_arrives_whole_iff {host : Host} (hlawful : host.Lawful)
    {tx : Transaction} {w after : World} {output : Output}
    {source target : AccountId} {value : U256}
    (h : transact host tx w = Except.ok (output, after))
    (hmovement : tx.movement host = some (source, target, value))
    (hne : source ≠ target) (hsource : Unencumbered w.ledger source)
    (htarget : Unencumbered w.ledger target) :
    ArrivesWhole host source target value.toNat w.ledger after.ledger <->
      (0 < value.toNat ∨
        host.pallets.minimumBalance ≤ w.ledger.free source) ∧
      (value.toNat = 0 ∨ host.accountExists target w.ledger = false ∨
        host.pallets.minimumBalance ≤ w.ledger.free target) :=
  moveFunds_arrivesWhole_iff hlawful hne hsource.frozen htarget.frozen
    (transact_movement hlawful h hmovement)

/-- Bob owns five units and receives seven more. -/
theorem funded_account_receives_seven_whole :
    ArrivesWhole (referenceHost 1) (accountAt aliceAddress)
      (accountAt bobAddress) 7
      (tokenWorld { providers := 1, data := { free := 5 } }).ledger
      (step (referenceHost 1)
        (tokenWorld { providers := 1, data := { free := 5 } })
        (callBy aliceAddress (Call.transfer bobAddress 7))).ledger := by
  have hok : (transact (referenceHost 1)
      (callBy aliceAddress (Call.transfer bobAddress 7))
      (tokenWorld { providers := 1, data := { free := 5 } })).isOk = true := by
    decide +kernel
  rcases transact_of_isOk hok with ⟨output, h⟩
  have hiff := transfer_arrives_whole_iff
    (referenceHost_lawful (Nat.zero_lt_succ 0)) h rfl (by decide)
    ⟨rfl, rfl, by decide +kernel, by decide +kernel⟩
    ⟨rfl, rfl, by decide +kernel, by decide +kernel⟩
  exact hiff.mpr ⟨Or.inl (by decide),
    Or.inr (Or.inr (by decide +kernel))⟩

/-- Bob signed once and was drained since.  Of the seven units Alice sends, Bob
shows six. -/
theorem drained_account_receives_one_less :
    (transact (referenceHost 1)
        (callBy aliceAddress (Call.transfer bobAddress 7))
        (tokenWorld { nonce := 1, providers := 1 })).isOk = true ∧
      Unencumbered (tokenWorld { nonce := 1, providers := 1 }).ledger
        (accountAt aliceAddress) ∧
      Unencumbered (tokenWorld { nonce := 1, providers := 1 }).ledger
        (accountAt bobAddress) ∧
      shownBalance (referenceHost 1) (accountAt bobAddress)
        (tokenWorld { nonce := 1, providers := 1 }).ledger = 0 ∧
      shownBalance (referenceHost 1) (accountAt bobAddress)
        (step (referenceHost 1) (tokenWorld { nonce := 1, providers := 1 })
          (callBy aliceAddress (Call.transfer bobAddress 7))).ledger = 6 ∧
      ¬ ArrivesWhole (referenceHost 1) (accountAt aliceAddress)
        (accountAt bobAddress) 7
        (tokenWorld { nonce := 1, providers := 1 }).ledger
        (step (referenceHost 1) (tokenWorld { nonce := 1, providers := 1 })
          (callBy aliceAddress (Call.transfer bobAddress 7))).ledger := by
  have hbefore : shownBalance (referenceHost 1) (accountAt bobAddress)
      (tokenWorld { nonce := 1, providers := 1 }).ledger = 0 := by
    decide +kernel
  have hafter : shownBalance (referenceHost 1) (accountAt bobAddress)
      (step (referenceHost 1) (tokenWorld { nonce := 1, providers := 1 })
        (callBy aliceAddress (Call.transfer bobAddress 7))).ledger = 6 := by
    decide +kernel
  refine ⟨by decide +kernel, ⟨rfl, rfl, by decide +kernel, by decide +kernel⟩,
    ⟨rfl, rfl, by decide +kernel, by decide +kernel⟩, hbefore, hafter, ?_⟩
  intro hwhole
  have hrises := hwhole.rises
  rw [hbefore, hafter] at hrises
  cases hrises

end Erc20
end Numen
