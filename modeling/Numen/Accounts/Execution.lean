import Numen.Accounts.Curves

/-!
# Every admitted claim goes through

A claim pays inside the call, so one that is admitted and then fails would be
free block space.  Admission looks at two balances, two nonces and the number of
schedules; the call then removes schedules, opens an account, transfers, adds
schedules and withdraws.  Each of these is shown to find its conditions met.
-/

namespace Numen
namespace Accounts

open Foundation

variable {pallets : Pallets}

/-- What the balances and vesting pallets keep true of an account. -/
structure Consistent (pallets : Pallets) (s : State) (who : AccountId) :
    Prop where
  issued : s.free who ≤ s.totalIssuance
  /-- Dust goes, unless something is reserved. -/
  noDust : (s.account who).data.reserved = 0 ->
    s.free who = 0 ∨ pallets.minimumBalance ≤ s.free who
  frozen : (s.account who).data.frozen = frozenBy (s.locks who) (s.freezes who)
  /-- Vesting locks only what it has schedules for. -/
  vestingLock : ∀ lock ∈ s.locks who, isVesting lock = true ->
    (s.vesting who).isSome = true
  consumer : ownConsumer (s.account who).data ≤ (s.account who).consumers

/-- Only frozen or reserved funds refer to the account, or something other than
its balance provides for it. -/
def Releasable (pallets : Pallets) (info : AccountInfo) : Prop :=
  info.consumers ≤ ownConsumer info.data ∨
    ownProvider pallets.minimumBalance info < info.providers

theorem Consistent.after_nonce {legacy account : AccountId} {s t : State}
    (hs : Consistent pallets s legacy) (h : NonceChange account s t)
    (hne : legacy ≠ account) : Consistent pallets t legacy := by
  have hrecord := h.untouched legacy hne
  constructor
  · rw [State.free_congr hrecord, h.totalIssuance]
    exact hs.issued
  · rw [State.free_congr hrecord, hrecord]
    exact hs.noDust
  · rw [hrecord, h.locks, h.freezes]
    exact hs.frozen
  · rw [h.locks, h.vesting]
    exact hs.vestingLock
  · rw [hrecord]
    exact hs.consumer

theorem movable_iff (s : State) (legacy : AccountId) :
    movable s legacy = true <->
      (s.account legacy).data.reserved = 0 ∧ s.freezes legacy = [] ∧
        ∀ lock ∈ s.locks legacy, isVesting lock = true := by
  unfold movable isVesting
  simp only [Bool.and_eq_true, decide_eq_true_eq, List.isEmpty_iff,
    List.all_eq_true, and_assoc]

/-!
## Withdrawing the old balance
-/

theorem Cleared.unfrozen {legacy : AccountId} {s t : State}
    (h : Cleared legacy s t) (hs : Consistent pallets s legacy)
    (hmovable : movable s legacy = true) :
    (t.account legacy).data.frozen = 0 := by
  rcases (movable_iff s legacy).mp hmovable with ⟨_, hfreezes, hvesting⟩
  cases hstored : s.vesting legacy with
  | none =>
      have hlocks : s.locks legacy = [] := by
        refine List.eq_nil_iff_forall_not_mem.mpr ?_
        intro lock hlock
        have hsome := hs.vestingLock lock hlock (hvesting lock hlock)
        rw [hstored] at hsome
        cases hsome
      rw [h.idle hstored, hs.frozen, hlocks, hfreezes]
      rfl
  | some schedules =>
      rcases h.locks (by rw [hstored]; rfl) with ⟨hlocks, hfrozen⟩
      have hnone : (s.locks legacy).filter (fun lock => !isVesting lock) =
          [] := by
        refine List.filter_eq_nil_iff.mpr ?_
        intro lock hlock
        rw [hvesting lock hlock]
        exact Bool.false_ne_true
      rw [hfrozen, hlocks, hnone, h.frame.right.left, hfreezes]
      rfl

theorem Cleared.canDecProvider_eq {legacy : AccountId} {s t : State}
    (h : Cleared legacy s t) (hs : Consistent pallets s legacy)
    (hmovable : movable s legacy = true) (hfunded : s.free legacy ≠ 0)
    (hreleasable : Releasable pallets (s.account legacy)) :
    canDecProvider (t.account legacy) = true := by
  have hreserved := ((movable_iff s legacy).mp hmovable).left
  have hconsumers := h.consumers hs.consumer
  have hown : ownConsumer (t.account legacy).data = 0 :=
    if_pos ⟨h.unfrozen hs hmovable, h.change.reserved.trans hreserved⟩
  have hprovider : ownProvider pallets.minimumBalance (s.account legacy) =
      1 := by
    rcases hs.noDust hreserved with hzero | hdeposit
    · exact absurd hzero hfunded
    · exact if_pos hdeposit
  refine decide_eq_true ?_
  rcases hreleasable with honly | hother
  · exact Or.inl (by lia)
  · rw [h.change.providers]
    exact Or.inr (by lia)

theorem Cleared.canWithdraw {legacy : AccountId} {s t u : State}
    (h : Cleared legacy s t) (hs : Consistent pallets s legacy)
    (hmovable : movable s legacy = true) (hfunded : s.free legacy ≠ 0)
    (hreleasable : Releasable pallets (s.account legacy))
    (hrecord : u.account legacy = t.account legacy)
    (hissued : s.totalIssuance ≤ u.totalIssuance) :
    CanWithdraw pallets.minimumBalance u legacy (u.free legacy) := by
  have hfree : u.free legacy = s.free legacy :=
    (State.free_congr hrecord).trans h.change.free
  have hprovider : canDecProvider (u.account legacy) = true := by
    rw [hrecord]
    exact h.canDecProvider_eq hs hmovable hfunded hreleasable
  have hfrozen : (u.account legacy).data.frozen = 0 := by
    rw [hrecord]
    exact h.unfrozen hs hmovable
  refine ⟨?_, ?_, fun _ => hprovider⟩
  · rw [hfree]
    exact Nat.le_trans hs.issued hissued
  · unfold reducible
    dsimp only
    rw [hprovider, hfrozen, Bool.not_true, Bool.and_false, if_neg (by decide),
      Nat.zero_sub]
    exact Nat.le_refl (u.account legacy).data.free

/-!
## The other calls
-/

theorem openAccount_total (hpallets : pallets.Documented)
    {account : AccountId} {s : State}
    (hissuance : s.totalIssuance + openingDeposit pallets s account ≤ u128Max)
    (hbalance : s.totalBalance account + openingDeposit pallets s account ≤
      u128Max) :
    exists t, openAccount pallets account s = Except.ok t := by
  unfold openAccount
  by_cases hempty : s.totalBalance account = 0
  · unfold openingDeposit at hissuance hbalance
    rw [if_pos hempty] at hissuance hbalance
    rw [if_pos hempty]
    have hcan : CanDeposit pallets.minimumBalance s account
        pallets.minimumBalance := by
      unfold State.totalBalance at hbalance
      refine ⟨Nat.le_add_left _ _, ?_⟩
      unfold State.free
      lia
    rcases hpallets.mintInto_total account _ s hissuance hcan with
      ⟨minted, hminted⟩
    rw [hminted]
    exact ⟨_, rfl⟩
  · rw [if_neg hempty]
    exact ⟨s, rfl⟩

theorem openAccount_reserved (hpallets : pallets.Documented)
    {account : AccountId} {s t : State}
    (h : openAccount pallets account s = Except.ok t) :
    (t.account account).data.reserved = (s.account account).data.reserved := by
  unfold openAccount at h
  split at h
  · rcases except_bind_eq_ok h with ⟨minted, hminted, hreturn⟩
    rw [hpallets.deactivate_eq] at hreturn
    cases hreturn
    exact hpallets.mintInto_reserved account _ s minted hminted
  · cases h
    rfl

theorem addSchedules_total (hpallets : pallets.Documented) {who : AccountId}
    (now : Nat) (schedules : List VestingInfo) {s : State}
    (hroom : scheduleCount s who + schedules.length ≤
      pallets.maxVestingSchedules) :
    exists t, addSchedules pallets who now schedules s = Except.ok t := by
  induction schedules generalizing s with
  | nil => exact ⟨s, rfl⟩
  | cons schedule rest ih =>
      rw [List.length_cons] at hroom
      unfold addSchedules
      split
      · exact ih (by lia)
      · rename_i hrunning
        have hlocked := hpallets.locked_ne_zero hrunning
        have hrate : schedule.rate ≠ 0 := by
          unfold VestingInfo.rate
          lia
        rcases hpallets.addVestingSchedule_total who
          ⟨schedule.locked, schedule.rate, schedule.startingBlock⟩ s hlocked
          hrate (by lia) with ⟨next, hnext⟩
        have hwritten := hpallets.addVestingSchedule_written who
          ⟨schedule.locked, schedule.rate, schedule.startingBlock⟩ s next
          hlocked hnext
        -- finished schedules may go, so the list grows by at most one
        have hcount : scheduleCount next who ≤ scheduleCount s who + 1 := by
          change (schedulesOf next who).length ≤ (schedulesOf s who).length + 1
          rw [hwritten.schedulesOf_eq]
          refine Nat.le_trans (List.length_filter_le _ _) ?_
          rw [List.length_append, List.length_singleton]
        rw [hnext, except_ok_bind]
        exact ih (by lia)

theorem payFee_total (hpallets : pallets.Documented) {account : AccountId}
    {fee : Nat} {s : State}
    (h : fee ≠ 0 -> pallets.minimumBalance ≤ s.free account) :
    exists credit t, payFee pallets account fee s =
      Except.ok (credit, t) := by
  unfold payFee
  by_cases hfee : fee = 0
  · rw [if_pos hfee]
    exact ⟨none, s, rfl⟩
  · rw [if_neg hfee]
    rcases hpallets.withdraw_total account fee s (h hfee) with
      ⟨⟨paid, t⟩, hpaid⟩
    rw [hpaid]
    exact ⟨some paid, t, rfl⟩

/-!
## The move
-/

theorem Cleared.transfer_total (hpallets : pallets.Documented)
    {legacy account : AccountId} (hne : legacy ≠ account) {s cleared : State}
    (h : Cleared legacy s cleared) (hs : Consistent pallets s legacy)
    (hmovable : movable s legacy = true) (hfunded : s.free legacy ≠ 0)
    (hreleasable : Releasable pallets (s.account legacy))
    (hissuance : s.totalIssuance + openingDeposit pallets s account ≤ u128Max)
    (hbalance : s.totalBalance account + s.free legacy +
      openingDeposit pallets s account ≤ u128Max) :
    exists opened moved, openAccount pallets account cleared =
        Except.ok opened ∧
      pallets.transfer legacy account (s.free legacy) Preservation.expendable
        opened = Except.ok moved ∧
      scheduleCount moved account = scheduleCount s account := by
  have hsame := h.change.totalBalance_eq account
  have hopening : openingDeposit pallets cleared account =
      openingDeposit pallets s account := by
    unfold openingDeposit
    rw [hsame]
  rcases openAccount_total (s := cleared) hpallets
    (by rw [h.change.totalIssuance, hopening]; exact hissuance)
    (by rw [hsame, hopening]; lia) with ⟨opened, hopened⟩
  have hopen := openAccount_change hpallets.toLawful hopened
  rcases openAccount_ok hpallets.toLawful hopened with
    ⟨hopenFree, hopenTotal, _⟩
  have hrecord := hopen.untouched legacy hne
  have hfree : opened.free legacy = s.free legacy :=
    (State.free_congr hrecord).trans h.change.free
  have hwithdraw := h.canWithdraw hs hmovable hfunded hreleasable hrecord
    (by rw [hopenTotal, h.change.totalIssuance]; lia)
  have hcan : CanDeposit pallets.minimumBalance opened account
      (opened.free legacy) := by
    have hreserved := ((movable_iff s legacy).mp hmovable).left
    have hminimum : pallets.minimumBalance ≤ s.free legacy :=
      (hs.noDust hreserved).resolve_left hfunded
    have hbefore : cleared.free account +
        (cleared.account account).data.reserved = s.totalBalance account :=
      hsame
    refine ⟨by lia, ?_⟩
    rw [openAccount_reserved hpallets hopened, hopenFree, hfree, hopening]
    lia
  rcases hpallets.transfer_total legacy account opened hne hwithdraw hcan
    with ⟨moved, hmoved⟩
  have htransfer := (hpallets.transfer_ok legacy account opened moved hne
    hmoved).left
  refine ⟨opened, moved, hopened, by rw [← hfree]; exact hmoved, ?_⟩
  unfold scheduleCount
  rw [htransfer.vesting, hopen.vesting,
    (h.change.untouched account hne.symm).right]

theorem moveBalance_total (hpallets : pallets.Documented)
    {legacy account : AccountId} (hne : legacy ≠ account) {s : State}
    (hs : Consistent pallets s legacy) (hmovable : movable s legacy = true)
    (hreleasable : Releasable pallets (s.account legacy))
    (hissuance : s.totalIssuance +
      movingDeposit pallets s account (s.free legacy) ≤ u128Max)
    (hbalance : s.totalBalance account + s.free legacy +
      movingDeposit pallets s account (s.free legacy) ≤ u128Max)
    (hroom : scheduleCount s legacy + scheduleCount s account ≤
      pallets.maxVestingSchedules) :
    exists t, moveBalance pallets legacy account s =
      Except.ok (s.free legacy, t) := by
  unfold moveBalance
  dsimp only
  by_cases hzero : s.free legacy = 0
  · rw [if_pos hzero]
    exact ⟨s, rfl⟩
  · rw [if_neg hzero]
    have hdeposit : movingDeposit pallets s account (s.free legacy) =
        openingDeposit pallets s account := by
      unfold movingDeposit openingDeposit
      simp [Nat.pos_of_ne_zero hzero]
    rw [hdeposit] at hissuance hbalance
    rcases removeSchedules_cleared hpallets legacy
      (scheduleCount s legacy + 1) (Nat.lt_succ_self _) with
      ⟨cleared, hloop, hcleared⟩
    rcases hcleared.transfer_total hpallets hne hs hmovable hzero hreleasable
      hissuance hbalance with ⟨opened, moved, hopened, hmoved, hcount⟩
    have hfits : scheduleCount moved account + (schedulesOf s legacy).length ≤
        pallets.maxVestingSchedules := by
      rw [hcount, Nat.add_comm]
      exact hroom
    rcases addSchedules_total hpallets s.block (schedulesOf s legacy) hfits
      with ⟨vested, hvested⟩
    refine ⟨vested, ?_⟩
    rw [hloop, except_ok_bind, hopened, except_ok_bind, hmoved, except_ok_bind]
    change (addSchedules pallets account s.block (schedulesOf s legacy) moved >>=
      _) = _
    rw [hvested]
    rfl

theorem moveLegacy_total (hpallets : pallets.Documented) {address : H160}
    (hne : legacyAccount pallets address ≠ reviveAccount address)
    {s : State} (hs : Consistent pallets s (legacyAccount pallets address))
    (hreleasable : Releasable pallets
      (s.account (legacyAccount pallets address)))
    (hissuance : s.totalIssuance +
      movingDeposit pallets s (reviveAccount address)
        (claimedAmount s (legacyAccount pallets address)) ≤ u128Max)
    (hbalance : s.totalBalance (reviveAccount address) +
      claimedAmount s (legacyAccount pallets address) +
      movingDeposit pallets s (reviveAccount address)
        (claimedAmount s (legacyAccount pallets address)) ≤ u128Max)
    (hroom : scheduleCount s (legacyAccount pallets address) +
      scheduleCount s (reviveAccount address) ≤ pallets.maxVestingSchedules) :
    exists t, moveLegacy pallets address s = Except.ok t := by
  have hcarry := carryNonce_change hpallets.toLawful
    (legacyAccount pallets address) (reviveAccount address) s
  have hmove : exists result, moveMovable pallets
      (legacyAccount pallets address) (reviveAccount address)
      (carryNonce pallets (legacyAccount pallets address)
        (reviveAccount address) s).2 = Except.ok result := by
    generalize (carryNonce pallets (legacyAccount pallets address)
      (reviveAccount address) s).2 = carried at hcarry
    have hrecord := hcarry.untouched _ hne
    have hsame := movable_congr hrecord hcarry.locks hcarry.freezes
    unfold moveMovable
    by_cases hmovable : movable s (legacyAccount pallets address) = true
    · have hfree := State.free_congr hrecord
      have htotal : carried.totalBalance (reviveAccount address) =
          s.totalBalance (reviveAccount address) := by
        unfold State.totalBalance
        rw [hcarry.data]
      have hdeposit : forall amount, movingDeposit pallets carried
          (reviveAccount address) amount =
            movingDeposit pallets s (reviveAccount address) amount := by
        intro amount
        unfold movingDeposit
        rw [htotal]
      have hclaimed : claimedAmount s (legacyAccount pallets address) =
          s.free (legacyAccount pallets address) := if_pos hmovable
      rw [hclaimed] at hissuance hbalance
      rw [hsame, if_pos hmovable]
      rcases moveBalance_total hpallets hne (hs.after_nonce hcarry hne)
        (hsame.trans hmovable) (by rw [hrecord]; exact hreleasable)
        (by rw [hdeposit, hfree, hcarry.totalIssuance]; exact hissuance)
        (by rw [hdeposit, hfree, htotal]; exact hbalance)
        (by unfold scheduleCount at hroom ⊢; rw [hcarry.vesting]; exact hroom)
        with ⟨t, ht⟩
      exact ⟨_, ht⟩
    · rw [hsame, if_neg hmovable]
      exact ⟨_, rfl⟩
  rcases hmove with ⟨⟨amount, moved⟩, hmoved⟩
  unfold moveLegacy
  dsimp only
  rw [hmoved, except_ok_bind]
  exact ⟨_, rfl⟩

/-!
## Claims
-/

theorem authorizeClaim_room {address : H160} {s : State}
    {validity : ValidTransaction}
    (h : authorizeClaim pallets address s = Except.ok validity) :
    scheduleCount s (legacyAccount pallets address) +
      scheduleCount s (reviveAccount address) ≤
        pallets.maxVestingSchedules := by
  unfold authorizeClaim at h
  dsimp only at h
  split at h
  · cases h
  · split at h
    · cases h
    · rename_i hroom
      exact Nat.not_lt.mp hroom

theorem feeDue_pos (hlawful : pallets.Lawful) {s : State}
    {legacy : AccountId} (h : feeDue pallets s legacy ≠ 0) :
    movable s legacy = true ∧ s.free legacy ≠ 0 := by
  have hle := (feeDue_le hlawful s legacy).right.right
  unfold claimedAmount at hle
  split at hle
  · rename_i hmovable
    exact ⟨hmovable, by lia⟩
  · lia

/-- A claim that is admitted executes: if nothing but the vesting lock refers to
the old account, or something besides its balance provides for it, and neither
the new account's balance nor the issuance overflows. -/
theorem admitted_claim_executes (hpallets : pallets.Documented)
    {address : H160}
    (hne : legacyAccount pallets address ≠ reviveAccount address)
    {s : State} (hs : Consistent pallets s (legacyAccount pallets address))
    (hreleasable : Releasable pallets
      (s.account (legacyAccount pallets address)))
    (hissuance : s.totalIssuance +
      movingDeposit pallets s (reviveAccount address)
        (claimedAmount s (legacyAccount pallets address)) ≤ u128Max)
    (hbalance : s.totalBalance (reviveAccount address) +
      claimedAmount s (legacyAccount pallets address) +
      movingDeposit pallets s (reviveAccount address)
        (claimedAmount s (legacyAccount pallets address)) ≤ u128Max)
    {validity : ValidTransaction}
    (hadmitted : authorizeClaim pallets address s = Except.ok validity) :
    exists billed t, claim pallets Origin.authorized address s =
      Except.ok (billed, t) := by
  rcases moveLegacy_total hpallets hne hs hreleasable hissuance hbalance
    (authorizeClaim_room hadmitted) with ⟨moved, hmoved⟩
  have hmoney := moveLegacy_ok hpallets.toLawful hne hmoved
  have hfee : feeDue pallets s (legacyAccount pallets address) ≠ 0 ->
      pallets.minimumBalance ≤ moved.free (reviveAccount address) := by
    intro hdue
    rcases feeDue_pos hpallets.toLawful hdue with ⟨hmovable, hfunded⟩
    have hreserved := ((movable_iff s _).mp hmovable).left
    have hminimum := (hs.noDust hreserved).resolve_left hfunded
    have hclaimed : claimedAmount s (legacyAccount pallets address) =
        s.free (legacyAccount pallets address) := if_pos hmovable
    rw [hmoney.account_free, hclaimed]
    lia
  rcases payFee_total hpallets hfee with ⟨credit, paid, hpaid⟩
  unfold claim settleClaim
  dsimp only
  rw [hmoved]
  simp only [ensureAuthorized, except_ok_bind]
  rw [hpaid, except_ok_bind]
  exact ⟨_, _, rfl⟩

/-- `firstState` with the references the pallets count: the vesting lock holds
one, and only the balance provides for the account. -/
def countedState : State :=
  firstState.setAccount (legacyAccount (reference 10 5) firstAddress)
    { firstRecord with consumers := 1, providers := 1 }

theorem admitted_claim_of_vesting_account_executes :
    authorizeClaim (reference 10 5) firstAddress countedState =
        Except.ok ⟨"EvmClaims", firstAddress, true⟩ ∧
      exists billed t, claim (reference 10 5) Origin.authorized firstAddress
        countedState = Except.ok (billed, t) := by
  have hadmitted : authorizeClaim (reference 10 5) firstAddress countedState =
      Except.ok ⟨"EvmClaims", firstAddress, true⟩ := by
    decide +kernel
  have hconsistent : Consistent (reference 10 5) countedState
      (legacyAccount (reference 10 5) firstAddress) :=
    ⟨by decide +kernel, by decide +kernel, by decide +kernel,
      by decide +kernel, by decide +kernel⟩
  exact ⟨hadmitted, admitted_claim_executes (reference_documented (by decide) 5)
    (by decide +kernel) hconsistent (Or.inl (by decide +kernel))
    (by decide +kernel) (by decide +kernel) hadmitted⟩

end Accounts
end Numen
