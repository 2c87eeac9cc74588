import Numen.Accounts.Conservation

/-!
# A claim keeps every vesting curve

The old account's schedules are removed one by one, and each that still runs is
added to the new account.  The pallet drops finished schedules on every write;
they lock nothing at any later block, so no curve changes.
-/

namespace Numen
namespace Accounts

open Foundation

variable {pallets : Pallets}

/-!
## Removing the old schedules
-/

/-- The loop took all schedules of `who`, and with them its vesting lock and the
reference that lock held. -/
structure Cleared (who : AccountId) (s t : State) : Prop where
  change : VestingChange who s t
  vesting : t.vesting who = none
  frame : t.block = s.block ∧ t.freezes = s.freezes ∧ t.events = s.events
  locks_of_ne : forall other, other ≠ who -> t.locks other = s.locks other
  locks : (s.vesting who).isSome = true ->
    t.locks who = (s.locks who).filter (fun lock => !isVesting lock) ∧
      (t.account who).data.frozen = frozenBy (t.locks who) (t.freezes who)
  consumers :
    ownConsumer (s.account who).data ≤ (s.account who).consumers ->
      (t.account who).consumers + ownConsumer (s.account who).data =
        (s.account who).consumers + ownConsumer (t.account who).data
  idle : s.vesting who = none -> t = s

theorem Cleared.refl {who : AccountId} {s : State}
    (h : s.vesting who = none) : Cleared who s s where
  change := VestingChange.refl who s
  vesting := h
  frame := ⟨rfl, rfl, rfl⟩
  locks_of_ne := fun _ _ => rfl
  locks := by
    intro hsome
    rw [h] at hsome
    cases hsome
  consumers := fun _ => rfl
  idle := fun _ => rfl

theorem VestingWritten.locks_eq (hpallets : pallets.Documented)
    {who : AccountId} {schedules : List VestingInfo} {s t : State}
    (h : VestingWritten pallets who schedules s t)
    (hnone : t.vesting who = none) :
    t.locks who = (s.locks who).filter fun lock => !isVesting lock := by
  have hrunning : running pallets s.block schedules = [] := by
    rw [← h.schedulesOf_eq]
    unfold schedulesOf
    rw [hnone]
    rfl
  have htotal : lockedTotal pallets schedules s.block = 0 := by
    rw [← hpallets.lockedTotal_running schedules (Nat.le_refl s.block),
      hrunning]
    rfl
  have hvesting := h.vestingLocks
  rw [htotal] at hvesting
  rw [← h.otherLocks]
  refine (List.filter_eq_self.mpr ?_).symm
  intro lock hlock
  have hnot := List.filter_eq_nil_iff.mp hvesting lock hlock
  simpa using hnot

theorem Cleared.after_write (hpallets : pallets.Documented) {who : AccountId}
    {schedules : List VestingInfo} {s next t : State}
    (hwritten : VestingWritten pallets who schedules s next)
    (hchange : VestingChange who s next) (h : Cleared who next t)
    (hsome : (s.vesting who).isSome = true) : Cleared who s t where
  change := hchange.trans h.change
  vesting := h.vesting
  frame := by
    rcases h.frame with ⟨hblock, hfreezes, hevents⟩
    exact ⟨hblock.trans hwritten.block, hfreezes.trans hwritten.freezes,
      hevents.trans hwritten.events⟩
  locks_of_ne := by
    intro other hne
    exact (h.locks_of_ne other hne).trans (hwritten.locks_of_ne other hne)
  locks := by
    intro _
    cases hnext : next.vesting who with
    | none =>
        rw [h.idle hnext]
        exact ⟨hwritten.locks_eq hpallets hnext, hwritten.frozen⟩
    | some rest =>
        have hlocks := h.locks (by rw [hnext]; rfl)
        exact ⟨hlocks.left.trans hwritten.otherLocks, hlocks.right⟩
  consumers := by
    intro hheld
    have hfirst := hwritten.consumers hheld
    have hsecond := h.consumers (by lia)
    lia
  idle := by
    intro hnone
    rw [hnone] at hsome
    cases hsome

theorem removeSchedules_of_none {who : AccountId} (fuel : Nat) {s : State}
    (h : s.vesting who = none) :
    removeSchedules pallets who fuel s = Except.ok s := by
  cases fuel with
  | zero =>
      unfold removeSchedules
      rw [h]
      rfl
  | succ fuel =>
      unfold removeSchedules
      rw [h]
      rfl

theorem removeSchedules_cleared (hpallets : pallets.Documented)
    (who : AccountId) (fuel : Nat) {s : State}
    (hfuel : scheduleCount s who < fuel) :
    exists t, removeSchedules pallets who fuel s = Except.ok t ∧
      Cleared who s t := by
  induction fuel generalizing s with
  | zero => lia
  | succ fuel ih =>
      cases hvesting : s.vesting who with
      | none =>
          exact ⟨s, removeSchedules_of_none _ hvesting, Cleared.refl hvesting⟩
      | some schedules =>
          have hsome : (s.vesting who).isSome = true := by
            rw [hvesting]
            rfl
          rcases hpallets.removeVestingSchedule_written who s schedules
            hvesting with ⟨next, hremoved, hwritten⟩
          rcases hpallets.removeVestingSchedule_ok who s next hremoved with
            ⟨hchange, hshrinks⟩
          have hloop : removeSchedules pallets who (fuel + 1) s =
              removeSchedules pallets who fuel next := by
            conv => lhs; unfold removeSchedules
            rw [if_pos hsome, hremoved]
            rfl
          have hrest : exists t, removeSchedules pallets who fuel next =
              Except.ok t ∧ Cleared who next t := by
            cases hnext : next.vesting who with
            | none =>
                exact ⟨next, removeSchedules_of_none _ hnext,
                  Cleared.refl hnext⟩
            | some rest =>
                have hless := hshrinks hsome (by rw [hnext]; rfl)
                exact ih (by lia)
          rcases hrest with ⟨t, ht, hcleared⟩
          exact ⟨t, hloop.trans ht,
            hcleared.after_write hpallets hwritten hchange hsome⟩

/-!
## Adding them to the new account
-/

/-- The vesting lock of `who` is what its schedules lock at this block. -/
def LockCurrent (pallets : Pallets) (who : AccountId) (s : State) : Prop :=
  (s.locks who).filter isVesting =
    vestingLock (lockedTotal pallets (schedulesOf s who) s.block)

theorem VestingWritten.lockCurrent (hpallets : pallets.Documented)
    {who : AccountId} {schedules : List VestingInfo} {s t : State}
    (h : VestingWritten pallets who schedules s t) :
    LockCurrent pallets who t := by
  unfold LockCurrent
  rw [h.vestingLocks, h.schedulesOf_eq, h.block,
    hpallets.lockedTotal_running _ (Nat.le_refl s.block)]

theorem Pallets.Documented.locked_ne_zero (hpallets : pallets.Documented)
    {schedule : VestingInfo} {now : Nat}
    (h : pallets.lockedAt schedule now ≠ 0) : schedule.locked ≠ 0 := by
  rw [hpallets.lockedAt_eq] at h
  lia

structure Carried (pallets : Pallets) (who : AccountId)
    (schedules : List VestingInfo) (s t : State) : Prop where
  frame : t.block = s.block ∧ t.events = s.events
  curve : forall b, s.block ≤ b ->
    lockedTotal pallets (schedulesOf t who) b =
      lockedTotal pallets (schedulesOf s who) b +
        lockedTotal pallets schedules b
  lock : LockCurrent pallets who s ∨
      (∃ schedule ∈ schedules, pallets.lockedAt schedule s.block ≠ 0) ->
    LockCurrent pallets who t

theorem addSchedules_carried (hpallets : pallets.Documented) {who : AccountId}
    {now : Nat} (schedules : List VestingInfo) {s t : State}
    (hnow : now = s.block)
    (h : addSchedules pallets who now schedules s = Except.ok t) :
    Carried pallets who schedules s t := by
  induction schedules generalizing s with
  | nil =>
      cases h
      refine ⟨⟨rfl, rfl⟩, fun _ _ => rfl, ?_⟩
      rintro (hcurrent | ⟨schedule, hschedule, _⟩)
      · exact hcurrent
      · cases hschedule
  | cons schedule rest ih =>
      subst hnow
      unfold addSchedules at h
      split at h
      · rename_i hfinished
        have hrest := ih rfl h
        refine ⟨hrest.frame, ?_, ?_⟩
        · intro b hb
          have hlater := hpallets.lockedAt_antitone schedule hb
          have hcurve := hrest.curve b hb
          unfold lockedTotal at hcurve ⊢
          rw [List.map_cons, List.sum_cons]
          lia
        · rintro (hcurrent | ⟨running, hrunning, hlocked⟩)
          · exact hrest.lock (Or.inl hcurrent)
          · rcases List.mem_cons.mp hrunning with rfl | htail
            · exact absurd hfinished hlocked
            · exact hrest.lock (Or.inr ⟨running, htail, hlocked⟩)
      · rename_i hrunning
        rcases except_bind_eq_ok h with ⟨next, hadded, hrest⟩
        have hlocked := hpallets.locked_ne_zero hrunning
        have hwritten := hpallets.addVestingSchedule_written who
          ⟨schedule.locked, schedule.rate, schedule.startingBlock⟩ s next
          hlocked hadded
        have hcarried := ih hwritten.block.symm hrest
        refine ⟨⟨hcarried.frame.left.trans hwritten.block,
          hcarried.frame.right.trans hwritten.events⟩, ?_, ?_⟩
        · intro b hb
          have hcurve := hcarried.curve b (by rw [hwritten.block]; exact hb)
          rw [hcurve, hwritten.schedulesOf_eq,
            hpallets.lockedTotal_running _ hb, lockedTotal_append,
            Nat.add_assoc]
          unfold lockedTotal
          rw [List.map_singleton, List.sum_singleton, List.map_cons,
            List.sum_cons, hpallets.lockedAt_rate]
        · intro _
          exact hcarried.lock (Or.inl (hwritten.lockCurrent hpallets))

/-!
## The other calls of a claim
-/

theorem carryNonce_accountsOnly (hpallets : pallets.Documented)
    (legacy account : AccountId) (s : State) :
    AccountsOnly s (carryNonce pallets legacy account s).2 := by
  unfold carryNonce
  dsimp only
  split
  · exact AccountsOnly.refl s
  · split
    · rw [hpallets.incProviders_eq]
      exact ⟨⟨rfl, rfl, rfl, rfl⟩, rfl⟩
    · exact ⟨⟨rfl, rfl, rfl, rfl⟩, rfl⟩

theorem openAccount_accountsOnly (hpallets : pallets.Documented)
    {account : AccountId} {s t : State}
    (h : openAccount pallets account s = Except.ok t) : AccountsOnly s t := by
  have hvesting := (openAccount_change hpallets.toLawful h).vesting
  unfold openAccount at h
  split at h
  · rcases except_bind_eq_ok h with ⟨minted, hminted, hreturn⟩
    have hframe := hpallets.mintInto_frame _ _ _ _ hminted
    rw [hpallets.deactivate_eq] at hreturn
    cases hreturn
    exact ⟨⟨hframe.block, hframe.locks, hframe.freezes, hframe.events⟩,
      hvesting⟩
  · cases h
    exact AccountsOnly.refl _

theorem dropEmpty_accountsOnly (legacy : AccountId) (s : State) :
    AccountsOnly s (dropEmpty legacy s) := by
  unfold dropEmpty
  split
  · exact ⟨⟨rfl, rfl, rfl, rfl⟩, rfl⟩
  · exact AccountsOnly.refl s

theorem payFee_accountsOnly (hpallets : pallets.Documented)
    {account : AccountId} {fee : Nat} {credit : Option Nat} {s t : State}
    (h : payFee pallets account fee s = Except.ok (credit, t)) :
    AccountsOnly s t := by
  unfold payFee at h
  split at h
  · cases h
    exact AccountsOnly.refl _
  · rcases except_bind_eq_ok h with ⟨⟨paid, after⟩, hwithdrawn, h⟩
    cases h
    exact ⟨hpallets.withdraw_frame _ _ _ _ _ _ _ _ hwithdrawn,
      (hpallets.withdraw_ok _ _ _ _ _ hwithdrawn).left.vesting⟩

theorem handOn_accountsOnly (hpallets : pallets.Documented)
    (credit : Option Nat) (s : State) :
    AccountsOnly s (handOn pallets credit s) := by
  cases credit with
  | none => exact AccountsOnly.refl s
  | some paid =>
      exact ⟨hpallets.onClaimFee_frame paid s,
        (hpallets.onClaimFee_change paid s).vesting⟩

theorem ClaimCalls.accountsOnly (hpallets : pallets.Documented)
    {address : H160} {amount : Nat} {credit : Option Nat}
    {s moved paid t : State}
    (h : ClaimCalls pallets address s amount moved credit paid t) :
    AccountsOnly (report pallets address s amount moved) t := by
  rw [h.hand]
  exact (payFee_accountsOnly hpallets h.pay).trans
    (handOn_accountsOnly hpallets credit paid)

/-- What moving a balance does to the schedules and locks of both accounts. -/
structure CurvesMoved (pallets : Pallets) (legacy account : AccountId)
    (s t : State) : Prop where
  block : t.block = s.block
  events : t.events = s.events
  emptied : t.vesting legacy = none
  curve : forall b, s.block ≤ b ->
    lockedTotal pallets (schedulesOf t account) b =
      lockedTotal pallets (schedulesOf s account) b +
        lockedTotal pallets (schedulesOf s legacy) b
  lock : (∃ schedule ∈ schedulesOf s legacy,
      pallets.lockedAt schedule s.block ≠ 0) ->
    LockCurrent pallets account t

theorem MoveCalls.curvesMoved (hpallets : pallets.Documented)
    {legacy account : AccountId} (hne : legacy ≠ account)
    {s cleared opened moved t : State}
    (h : MoveCalls pallets legacy account s cleared opened moved t) :
    CurvesMoved pallets legacy account s t := by
  rcases removeSchedules_cleared hpallets legacy (scheduleCount s legacy + 1)
    (Nat.lt_succ_self (scheduleCount s legacy)) with ⟨_, hloop, hcleared⟩
  cases Except.ok.inj (hloop.symm.trans h.clear)
  have hstages := h.stages hpallets.toLawful hne
  have hopen := openAccount_accountsOnly hpallets h.opens
  have htransfer : AccountsOnly opened moved :=
    ⟨hpallets.transfer_frame _ _ _ _ _ _ hstages.transfer,
      (hpallets.transfer_ok legacy account opened moved hne
        hstages.transfer).left.vesting⟩
  have hbetween := hopen.trans htransfer
  have hblock : moved.block = s.block :=
    hbetween.block.trans hcleared.frame.left
  have hcarried := addSchedules_carried hpallets (schedulesOf s legacy)
    hblock.symm h.vest
  have hschedules : schedulesOf moved account = schedulesOf s account := by
    unfold schedulesOf
    rw [hbetween.vesting, (hcleared.change.untouched account hne.symm).right]
  constructor
  · exact hcarried.frame.left.trans hblock
  · exact (hcarried.frame.right.trans hbetween.events).trans
      hcleared.frame.right.right
  · rw [(hstages.vest.untouched legacy hne).right, hbetween.vesting]
    exact hcleared.vesting
  · intro b hb
    rw [hcarried.curve b (by lia), hschedules]
  · intro hrunning
    rw [← hblock] at hrunning
    exact hcarried.lock (Or.inr hrunning)

theorem CurvesMoved.after {legacy account : AccountId} {s s' t : State}
    (h : CurvesMoved pallets legacy account s' t) (hs : AccountsOnly s s') :
    CurvesMoved pallets legacy account s t := by
  have hschedules : forall who, schedulesOf s' who = schedulesOf s who := by
    intro who
    unfold schedulesOf
    rw [hs.vesting]
  constructor
  · exact h.block.trans hs.block
  · exact h.events.trans hs.events
  · exact h.emptied
  · intro b hb
    rw [h.curve b (by rw [hs.block]; exact hb), hschedules, hschedules]
  · intro hrunning
    refine h.lock ?_
    rw [hschedules, hs.block]
    exact hrunning

theorem claim_curvesMoved (hpallets : pallets.Documented) {address : H160}
    (hne : legacyAccount pallets address ≠ reviveAccount address)
    {origin : Origin} {s t : State} {billed : Nat}
    (hmovable : movable s (legacyAccount pallets address) = true)
    (hfunded : s.free (legacyAccount pallets address) ≠ 0)
    (h : claim pallets origin address s = Except.ok (billed, t)) :
    exists moved, CurvesMoved pallets (legacyAccount pallets address)
        (reviveAccount address) s moved ∧
      t.vesting = moved.vesting ∧ t.locks = moved.locks := by
  rcases claim_calls h with ⟨amount, moved, credit, paid, hcalls⟩
  have hchange := carryNonce_change hpallets.toLawful
    (legacyAccount pallets address) (reviveAccount address) s
  have hrecord := hchange.untouched (legacyAccount pallets address) hne
  have hmove := hcalls.move
  unfold moveMovable at hmove
  rw [movable_congr hrecord hchange.locks hchange.freezes,
    if_pos hmovable] at hmove
  rcases (moveBalance_calls hmove).right with
    ⟨hzero, _⟩ | ⟨_, cleared, opened, transferred, hmoves⟩
  · rw [State.free_congr hrecord] at hzero
    exact absurd hzero hfunded
  · have hcurves := hmoves.curvesMoved hpallets hne
    have hrest := hcalls.accountsOnly hpallets
    have hdrop := dropEmpty_accountsOnly (legacyAccount pallets address) moved
    exact ⟨moved, hcurves.after (carryNonce_accountsOnly hpallets _ _ s),
      hrest.vesting.trans hdrop.vesting, hrest.locks.trans hdrop.locks⟩

theorem lockedTotal_pos {schedules : List VestingInfo} {b : Nat}
    (h : ∃ schedule ∈ schedules, pallets.lockedAt schedule b ≠ 0) :
    lockedTotal pallets schedules b ≠ 0 := by
  rcases h with ⟨schedule, hschedule, hlocked⟩
  intro hzero
  exact hlocked (List.sum_eq_zero_iff_forall_eq_nat.mp hzero _
    (List.mem_map_of_mem hschedule))

/-- After a claim that moved a balance, the new account's schedules lock at
every later block what both accounts' schedules would have locked; the old
account has none, the loop that removed them ends, and if one of them was still
running, the new account's vesting lock is what its schedules now lock. -/
theorem claim_keeps_vesting_curves (hpallets : pallets.Documented)
    {address : H160}
    (hne : legacyAccount pallets address ≠ reviveAccount address)
    {origin : Origin} {s t : State} {billed : Nat}
    (hmovable : movable s (legacyAccount pallets address) = true)
    (hfunded : s.free (legacyAccount pallets address) ≠ 0)
    (h : claim pallets origin address s = Except.ok (billed, t)) :
    let legacy := legacyAccount pallets address
    let account := reviveAccount address
    (forall b, s.block ≤ b ->
      lockedTotal pallets (schedulesOf t account) b =
        lockedTotal pallets (schedulesOf s account) b +
          lockedTotal pallets (schedulesOf s legacy) b) ∧
      t.vesting legacy = none ∧
      (forall fuel, scheduleCount s legacy < fuel ->
        exists cleared, removeSchedules pallets legacy fuel
            (carryNonce pallets legacy account s).2 = Except.ok cleared ∧
          cleared.vesting legacy = none) ∧
      ((∃ schedule ∈ schedulesOf s legacy,
          pallets.lockedAt schedule s.block ≠ 0) ->
        (t.locks account).filter isVesting =
          [⟨vestingId, lockedTotal pallets (schedulesOf t account) s.block⟩]) := by
  intro legacy account
  rcases claim_curvesMoved hpallets hne hmovable hfunded h with
    ⟨moved, hcurves, hvesting, hlocks⟩
  have hafter : schedulesOf t account = schedulesOf moved account := by
    unfold schedulesOf
    rw [hvesting]
  have hcurve : forall b, s.block ≤ b ->
      lockedTotal pallets (schedulesOf t account) b =
        lockedTotal pallets (schedulesOf s account) b +
          lockedTotal pallets (schedulesOf s legacy) b := by
    intro b hb
    rw [hafter]
    exact hcurves.curve b hb
  refine ⟨hcurve, ?_, ?_, ?_⟩
  · rw [hvesting]
    exact hcurves.emptied
  · intro fuel hfuel
    have hcount : scheduleCount (carryNonce pallets legacy account s).2
        legacy < fuel := by
      unfold scheduleCount at hfuel ⊢
      rwa [(carryNonce_accountsOnly hpallets legacy account s).vesting]
    rcases removeSchedules_cleared hpallets legacy fuel hcount with
      ⟨cleared, hloop, hcleared⟩
    exact ⟨cleared, hloop, hcleared.vesting⟩
  · intro hrunning
    have hpositive : lockedTotal pallets (schedulesOf t account) s.block ≠
        0 := by
      have hlegacy := lockedTotal_pos hrunning
      have htotal := hcurve s.block (Nat.le_refl s.block)
      lia
    have hlock := hcurves.lock hrunning
    unfold LockCurrent at hlock
    rw [hlocks, hlock, hcurves.block, ← hafter]
    exact if_neg hpositive

/-- The old account has a second schedule, which is over; the new one holds 50
and has a schedule of its own. -/
def vestedState : State :=
  let legacy := legacyAccount (reference 10 5) firstAddress
  let account := reviveAccount firstAddress
  { firstState with
    account := Function.update firstState.account account
      { providers := 1, data := { free := 50, frozen := 10 } }
    locks := Function.update firstState.locks account [⟨vestingId, 10⟩]
    vesting := Function.update
      (Function.update firstState.vesting account (some [⟨20, 1, 0⟩])) legacy
      (some [⟨40, 1, 0⟩, ⟨5, 1, 0⟩])
    totalIssuance := 150 }

theorem carried_schedule_keeps_its_curve :
    (claim (reference 10 5) Origin.authorized firstAddress
        vestedState).isOk = true ∧
      exists billed t, claim (reference 10 5) Origin.authorized firstAddress
          vestedState = Except.ok (billed, t) ∧
        (t.locks (reviveAccount firstAddress)).filter isVesting =
          [⟨vestingId, 40⟩] ∧
        lockedTotal (reference 10 5)
          (schedulesOf t (reviveAccount firstAddress)) 15 = 30 := by
  have hok : (claim (reference 10 5) Origin.authorized firstAddress
      vestedState).isOk = true := by
    decide +kernel
  refine ⟨hok, ?_⟩
  rcases except_of_isOk hok with ⟨⟨billed, t⟩, hclaim⟩
  rcases claim_keeps_vesting_curves (reference_documented (by decide) 5)
    (by decide +kernel) (by decide +kernel) (by decide +kernel) hclaim with
    ⟨hcurve, _, _, hlock⟩
  have hnow : lockedTotal (reference 10 5)
      (schedulesOf t (reviveAccount firstAddress)) 10 = 40 :=
    (hcurve 10 (by decide)).trans (by decide +kernel)
  have hlater := hcurve 15 (by decide)
  have hlocks := hlock ⟨⟨40, 1, 0⟩, by decide +kernel, by decide⟩
  refine ⟨billed, t, hclaim, ?_, hlater.trans (by decide +kernel)⟩
  rw [hlocks]
  show [(⟨vestingId, lockedTotal _ _ 10⟩ : BalanceLock)] = _
  rw [hnow]

end Accounts
end Numen
