import Numen.Accounts.Claims

/-!
# What the neighbouring pallets do in full

`Lawful` says what a successful call changes.  Whether a claim goes through, and
what becomes of its vesting schedules, also depends on when the balances and
vesting pallets accept a call, on locks and on references.  `Documented` adds
that part of their behaviour.
-/

namespace Numen
namespace Accounts

open Foundation

/-!
## Balances
-/

/-- Whether an account can do without one of its providers. -/
def canDecProvider (info : AccountInfo) : Bool :=
  decide (info.consumers = 0 ∨ 1 < info.providers)

/-- `reducible_balance`. -/
def reducible (deposit : Nat) (who : AccountId) (preservation : Preservation)
    (fortitude : Fortitude) (s : State) : Nat :=
  let info := s.account who
  let frozen :=
    match fortitude with
    | Fortitude.polite => info.data.frozen - info.data.reserved
    | Fortitude.force => 0
  let kept :=
    match preservation with
    | Preservation.preserve => true
    | Preservation.protect =>
        decide (info.data.free ≠ 0 ∧ info.providers = 1)
    | Preservation.expendable =>
        decide (info.data.free ≠ 0) && !canDecProvider info
  info.data.free - if kept then max frozen deposit else frozen

/-- The consumer reference that reserved or frozen funds hold. -/
def ownConsumer (data : AccountData) : Nat :=
  if data.frozen = 0 ∧ data.reserved = 0 then 0 else 1

def frozenBy (locks : List BalanceLock) (freezes : List Nat) : Nat :=
  (locks.map BalanceLock.amount ++ freezes).foldl max 0

/-- `can_withdraw` allows `amount`, which may be the whole balance. -/
structure CanWithdraw (deposit : Nat) (s : State) (who : AccountId)
    (amount : Nat) : Prop where
  issued : amount ≤ s.totalIssuance
  liquid : amount ≤
    reducible deposit who Preservation.expendable Fortitude.polite s
  provider : s.free who - amount < deposit ->
    canDecProvider (s.account who) = true

structure CanDeposit (deposit : Nat) (s : State) (who : AccountId)
    (amount : Nat) : Prop where
  minimum : deposit ≤ s.free who + amount
  fits : s.free who + amount + (s.account who).data.reserved ≤ u128Max

/-- Neither the block nor locks, freezes and claims are touched. -/
structure Frame (s t : State) : Prop where
  block : t.block = s.block
  locks : t.locks = s.locks
  freezes : t.freezes = s.freezes
  events : t.events = s.events

theorem Frame.refl (s : State) : Frame s s :=
  ⟨rfl, rfl, rfl, rfl⟩

theorem Frame.trans {s t u : State} (hst : Frame s t) (htu : Frame t u) :
    Frame s u :=
  ⟨htu.block.trans hst.block, htu.locks.trans hst.locks,
    htu.freezes.trans hst.freezes, htu.events.trans hst.events⟩

structure AccountsOnly (s t : State) : Prop extends Frame s t where
  vesting : t.vesting = s.vesting

theorem AccountsOnly.refl (s : State) : AccountsOnly s s :=
  ⟨Frame.refl s, rfl⟩

theorem AccountsOnly.trans {s t u : State} (hst : AccountsOnly s t)
    (htu : AccountsOnly t u) : AccountsOnly s u :=
  ⟨hst.toFrame.trans htu.toFrame, htu.vesting.trans hst.vesting⟩

/-!
## Vesting
-/

def running (pallets : Pallets) (now : Nat) (schedules : List VestingInfo) :
    List VestingInfo :=
  schedules.filter fun schedule => pallets.lockedAt schedule now ≠ 0

def lockedTotal (pallets : Pallets) (schedules : List VestingInfo) (b : Nat) :
    Nat :=
  (schedules.map fun schedule => pallets.lockedAt schedule b).sum

def stored (schedules : List VestingInfo) : Option (List VestingInfo) :=
  if schedules.isEmpty then none else some schedules

def isVesting (lock : BalanceLock) : Bool :=
  decide (lock.id = vestingId)

def vestingLock (amount : Nat) : List BalanceLock :=
  if amount = 0 then [] else [⟨vestingId, amount⟩]

/-- `schedules` were written as those of `who`: the finished ones are dropped,
and the lock is what the others still lock. -/
structure VestingWritten (pallets : Pallets) (who : AccountId)
    (schedules : List VestingInfo) (s t : State) : Prop where
  block : t.block = s.block
  freezes : t.freezes = s.freezes
  events : t.events = s.events
  vesting : t.vesting who = stored (running pallets s.block schedules)
  locks_of_ne : forall other, other ≠ who -> t.locks other = s.locks other
  otherLocks : (t.locks who).filter (fun lock => !isVesting lock) =
    (s.locks who).filter fun lock => !isVesting lock
  vestingLocks : (t.locks who).filter isVesting =
    vestingLock (lockedTotal pallets schedules s.block)
  frozen : (t.account who).data.frozen = frozenBy (t.locks who) (t.freezes who)
  consumers :
    ownConsumer (s.account who).data ≤ (s.account who).consumers ->
      (t.account who).consumers + ownConsumer (s.account who).data =
        (s.account who).consumers + ownConsumer (t.account who).data

/-- Documented behaviour of the neighbouring pallets, in full. -/
structure Pallets.Documented (pallets : Pallets) : Prop extends
    pallets.Lawful where
  reducibleBalance_eq : forall who preservation fortitude s,
    pallets.reducibleBalance who preservation fortitude s =
      reducible pallets.minimumBalance who preservation fortitude s
  mintInto_frame : forall who amount s t,
    pallets.mintInto who amount s = Except.ok t -> Frame s t
  mintInto_reserved : forall who amount s t,
    pallets.mintInto who amount s = Except.ok t ->
      (t.account who).data.reserved = (s.account who).data.reserved
  mintInto_total : forall who amount s,
    s.totalIssuance + amount ≤ u128Max ->
    CanDeposit pallets.minimumBalance s who amount ->
    exists t, pallets.mintInto who amount s = Except.ok t
  transfer_frame : forall source target amount preservation s t,
    pallets.transfer source target amount preservation s = Except.ok t ->
      Frame s t
  transfer_total : forall source target s, source ≠ target ->
    CanWithdraw pallets.minimumBalance s source (s.free source) ->
    CanDeposit pallets.minimumBalance s target (s.free source) ->
    exists t, pallets.transfer source target (s.free source)
      Preservation.expendable s = Except.ok t
  withdraw_frame : forall who amount precision preservation fortitude s paid t,
    pallets.withdraw who amount precision preservation fortitude s =
      Except.ok (paid, t) -> Frame s t
  /-- Taking what can be taken from an account that stays alive. -/
  withdraw_total : forall who amount s, pallets.minimumBalance ≤ s.free who ->
    exists result, pallets.withdraw who amount Precision.bestEffort
      Preservation.preserve Fortitude.polite s = Except.ok result
  withdraw_preserves : forall who amount s paid t,
    pallets.minimumBalance ≤ s.free who ->
    pallets.withdraw who amount Precision.bestEffort Preservation.preserve
        Fortitude.polite s = Except.ok (paid, t) ->
      pallets.minimumBalance ≤ t.free who
  onClaimFee_frame : forall amount s, Frame s (pallets.onClaimFee amount s)
  /-- The fee is paid out. -/
  onClaimFee_le : forall amount s who,
    s.free who ≤ (pallets.onClaimFee amount s).free who
  lockedAt_eq : forall schedule b, pallets.lockedAt schedule b =
    schedule.locked - schedule.rate * (b - schedule.startingBlock)
  /-- The first schedule goes, if there is one. -/
  removeVestingSchedule_written : forall who s schedules,
    s.vesting who = some schedules ->
    exists t, pallets.removeVestingSchedule who 0 s = Except.ok t ∧
      VestingWritten pallets who schedules.tail s t
  addVestingSchedule_written : forall who schedule s t,
    schedule.locked ≠ 0 ->
    pallets.addVestingSchedule who schedule s = Except.ok t ->
      VestingWritten pallets who (schedulesOf s who ++ [schedule]) s t
  addVestingSchedule_total : forall who schedule s,
    schedule.locked ≠ 0 -> schedule.perBlock ≠ 0 ->
    scheduleCount s who < pallets.maxVestingSchedules ->
    exists t, pallets.addVestingSchedule who schedule s = Except.ok t

section Vesting

variable {pallets : Pallets}

theorem getD_stored (schedules : List VestingInfo) :
    (stored schedules).getD [] = schedules := by
  unfold stored
  split
  · rename_i hempty
    exact (List.isEmpty_iff.mp hempty).symm
  · rfl

theorem VestingWritten.schedulesOf_eq {who : AccountId}
    {schedules : List VestingInfo} {s t : State}
    (h : VestingWritten pallets who schedules s t) :
    schedulesOf t who = running pallets s.block schedules := by
  unfold schedulesOf
  rw [h.vesting, getD_stored]

theorem Pallets.Documented.lockedAt_antitone (hpallets : pallets.Documented)
    (schedule : VestingInfo) {b c : Nat} (hbc : b ≤ c) :
    pallets.lockedAt schedule c ≤ pallets.lockedAt schedule b := by
  have hmul : schedule.rate * (b - schedule.startingBlock) ≤
      schedule.rate * (c - schedule.startingBlock) :=
    Nat.mul_le_mul_left _ (by lia)
  rw [hpallets.lockedAt_eq, hpallets.lockedAt_eq]
  lia

theorem Pallets.Documented.lockedAt_rate (hpallets : pallets.Documented)
    (schedule : VestingInfo) (b : Nat) :
    pallets.lockedAt ⟨schedule.locked, schedule.rate, schedule.startingBlock⟩
      b = pallets.lockedAt schedule b := by
  have hrate : max schedule.rate 1 = schedule.rate := by
    unfold VestingInfo.rate
    lia
  rw [hpallets.lockedAt_eq, hpallets.lockedAt_eq]
  show schedule.locked - max schedule.rate 1 * _ = _
  rw [hrate]

theorem Pallets.Documented.lockedTotal_running (hpallets : pallets.Documented)
    (schedules : List VestingInfo) {now b : Nat} (hb : now ≤ b) :
    lockedTotal pallets (running pallets now schedules) b =
      lockedTotal pallets schedules b := by
  unfold lockedTotal running
  induction schedules with
  | nil => rfl
  | cons schedule rest ih =>
      by_cases hfinished : pallets.lockedAt schedule now = 0
      · have hlater : pallets.lockedAt schedule b = 0 := by
          have hle := hpallets.lockedAt_antitone schedule hb
          lia
        rw [List.filter_cons_of_neg (by simpa using hfinished), ih,
          List.map_cons, List.sum_cons, hlater, Nat.zero_add]
      · rw [List.filter_cons_of_pos (by simpa using hfinished),
          List.map_cons, List.sum_cons, List.map_cons, List.sum_cons, ih]

theorem lockedTotal_append (first second : List VestingInfo) (b : Nat) :
    lockedTotal pallets (first ++ second) b =
      lockedTotal pallets first b + lockedTotal pallets second b := by
  unfold lockedTotal
  rw [List.map_append, List.sum_append]

end Vesting

end Accounts
end Numen
