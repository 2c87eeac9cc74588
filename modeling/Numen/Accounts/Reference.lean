import Numen.Accounts.Semantics

/-!
# A ledger that obeys the laws

The balances and vesting pallets reduced to what the laws of `Pallets` speak
of.  It shows that the laws can hold together, and runs the claims pallet on
concrete states.
-/

namespace Numen
namespace Accounts

open Foundation

/-!
## Balances
-/

/-- A record with another free balance, counting the provider reference the
balance holds. -/
def AccountInfo.withFree (deposit : Nat) (before : AccountInfo) (free : Nat) :
    AccountInfo :=
  let after := { before with data := { before.data with free := free } }
  if ownProvider deposit before = 1 ∧ ownProvider deposit after = 0 ∧
      before.providers ≤ 1 ∧ before.sufficients = 0 then
    {}
  else
    { after with
      providers := before.providers + ownProvider deposit after -
        ownProvider deposit before }

/-- A free balance is zero or at least the existential deposit. -/
def changeFree (deposit : Nat) (who : AccountId) (free : Nat) (s : State) :
    Except DispatchError State :=
  if free = 0 ∨ deposit ≤ free then
    Except.ok (s.setAccount who ((s.account who).withFree deposit free))
  else
    Except.error (DispatchError.pallet "BelowMinimum")

def mint (deposit : Nat) (who : AccountId) (amount : Nat) (s : State) :
    Except DispatchError State := do
  let t <- changeFree deposit who (s.free who + amount) s
  return { t with totalIssuance := t.totalIssuance + amount }

def transferFree (deposit : Nat) (source target : AccountId) (amount : Nat)
    (preservation : Preservation) (s : State) : Except DispatchError State :=
  if source = target then
    Except.ok s
  else if reducible deposit source preservation Fortitude.polite s <
      amount then
    Except.error (DispatchError.pallet "FundsUnavailable")
  else do
    let debited <- changeFree deposit source (s.free source - amount) s
    changeFree deposit target (s.free target + amount) debited

def withdrawFree (deposit : Nat) (who : AccountId) (amount : Nat)
    (precision : Precision) (preservation : Preservation)
    (fortitude : Fortitude) (s : State) :
    Except DispatchError (Nat × State) :=
  let paid := min amount (reducible deposit who preservation fortitude s)
  if precision = Precision.exact ∧ paid < amount then
    Except.error (DispatchError.pallet "FundsUnavailable")
  else do
    let t <- changeFree deposit who (s.free who - paid) s
    return (paid, t)

/-!
## Vesting
-/

def stillLocked (schedule : VestingInfo) (now : Nat) : Nat :=
  schedule.locked - schedule.rate * (now - schedule.startingBlock)

/-- Freeze what the largest lock demands, counting the consumer reference that
frozen funds hold. -/
def AccountInfo.withFrozen (before : AccountInfo) (frozen : Nat) :
    AccountInfo :=
  let data := { before.data with frozen := frozen }
  { before with
    data := data
    consumers := before.consumers + ownConsumer data -
      ownConsumer before.data }

/-- Write the schedules that still lock something, and the lock they add up
to. -/
def writeVesting (who : AccountId) (schedules : List VestingInfo)
    (s : State) : State :=
  let running :=
    schedules.filter (fun schedule => stillLocked schedule s.block ≠ 0)
  let locked :=
    (schedules.map (fun schedule => stillLocked schedule s.block)).sum
  let locks := (s.locks who).filter (fun lock => !isVesting lock) ++
    vestingLock locked
  let t := s.setAccount who
    ((s.account who).withFrozen (frozenBy locks (s.freezes who)))
  { t with
    locks := Function.update s.locks who locks
    vesting := Function.update s.vesting who (stored running) }

def removeSchedule (who : AccountId) (index : Nat) (s : State) :
    Except DispatchError State :=
  match s.vesting who with
  | none => Except.error (DispatchError.pallet "NotVesting")
  | some schedules =>
      Except.ok (writeVesting who (schedules.eraseIdx index) s)

def addSchedule (limit : Nat) (who : AccountId) (schedule : VestingInfo)
    (s : State) : Except DispatchError State :=
  let schedules := schedulesOf s who
  if schedule.locked = 0 then
    Except.ok s
  else if schedule.perBlock = 0 then
    Except.error (DispatchError.pallet "InvalidScheduleParams")
  else if schedules.length < limit then
    Except.ok (writeVesting who (schedules ++ [schedule]) s)
  else
    Except.error (DispatchError.pallet "AtMaxVestingSchedules")

/-- The reference ledger.  Its hash pads the preimage with zeros, and the fee
of a claim is burned. -/
def reference (deposit claimFee : Nat) : Pallets where
  blake2 := fun preimage => preimage.append (Bytes.replicate 8 0)
  claimFee := claimFee
  maxVestingSchedules := 28
  minimumBalance := deposit
  reducibleBalance := reducible deposit
  mintInto := mint deposit
  deactivate := fun amount s =>
    s.setInactive (min (s.inactiveIssuance + amount) s.totalIssuance)
  transfer := transferFree deposit
  withdraw := withdrawFree deposit
  onClaimFee := fun amount s =>
    { s with totalIssuance := s.totalIssuance - amount }
  lockedAt := stillLocked
  removeVestingSchedule := removeSchedule
  addVestingSchedule := addSchedule 28
  incProviders := fun who s =>
    s.setAccount who
      { s.account who with providers := (s.account who).providers + 1 }

/-!
## The laws
-/

variable {deposit : Nat}

theorem BalanceChange.pair {first second : AccountId} {s t u : State}
    (hne : first ≠ second)
    (hfirst : BalanceChange deposit (fun a => a = first) s t)
    (hsecond : BalanceChange deposit (fun a => a = second) t u) :
    BalanceChange deposit (fun a => a = first ∨ a = second) s u where
  untouched := by
    intro who hwho
    rw [hsecond.untouched who (fun h => hwho (Or.inr h)),
      hfirst.untouched who (fun h => hwho (Or.inl h))]
  record := by
    intro who
    by_cases hself : who = second
    · have hchange := hsecond.record who
      rw [hfirst.untouched who (fun h => hne (h.symm.trans hself))] at hchange
      exact hchange
    · rw [hsecond.untouched who hself]
      exact hfirst.record who
  vesting := hsecond.vesting.trans hfirst.vesting

theorem AccountInfo.recordChange_withFree (hdeposit : 0 < deposit)
    (info : AccountInfo) (free : Nat) :
    RecordChange deposit info (info.withFree deposit free) := by
  have hempty : ownProvider deposit {} = 0 := if_neg (Nat.not_le.mpr hdeposit)
  unfold withFree
  dsimp only
  split
  · rename_i hgone
    unfold RecordChange
    rw [if_pos ⟨hgone.left, hempty, hgone.right.right⟩]
    exact ⟨rfl, rfl, rfl⟩
  · rename_i hstays
    unfold RecordChange
    exact (if_neg hstays).mpr ⟨rfl, rfl, rfl⟩

theorem AccountInfo.free_withFree (info : AccountInfo) {free : Nat}
    (hallowed : free = 0 ∨ deposit ≤ free) :
    (info.withFree deposit free).data.free = free := by
  unfold withFree
  dsimp only
  split
  · -- a record that goes has given up its reference, so nothing was left
    rename_i hgone
    rcases hallowed with hzero | hle
    · exact hzero.symm
    · have hnone := hgone.right.left
      unfold ownProvider at hnone
      rw [if_pos hle] at hnone
      cases hnone
  · rfl

theorem changeFree_ok (hdeposit : 0 < deposit) {who : AccountId} {free : Nat}
    {s t : State} (h : changeFree deposit who free s = Except.ok t) :
    BalanceChange deposit (fun a => a = who) s t ∧ t.free who = free ∧
      t.totalIssuance = s.totalIssuance ∧
      t.inactiveIssuance = s.inactiveIssuance := by
  unfold changeFree at h
  split at h
  · rename_i hallowed
    cases h
    refine ⟨⟨?_, ?_, rfl⟩, ?_, rfl, rfl⟩
    · intro other hne
      exact State.account_setAccount_of_ne _ _ hne
    · intro other
      by_cases hself : other = who
      · rw [hself, State.account_setAccount_self]
        exact AccountInfo.recordChange_withFree hdeposit _ free
      · rw [State.account_setAccount_of_ne _ _ hself]
        exact RecordChange.refl deposit _
    · unfold State.free
      rw [State.account_setAccount_self]
      exact AccountInfo.free_withFree _ hallowed
  · cases h

theorem BalanceChange.with_totalIssuance {touched : AccountId -> Prop}
    {s t : State} (h : BalanceChange deposit touched s t) (amount : Nat) :
    BalanceChange deposit touched s { t with totalIssuance := amount } :=
  ⟨h.untouched, h.record, h.vesting⟩

theorem reducible_le (who : AccountId) (preservation : Preservation)
    (fortitude : Fortitude) (s : State) :
    reducible deposit who preservation fortitude s ≤ s.free who :=
  Nat.sub_le _ _

theorem transferFree_ok (hdeposit : 0 < deposit) {source target : AccountId}
    (hne : source ≠ target) {s t : State}
    (h : transferFree deposit source target (s.free source)
      Preservation.expendable s = Except.ok t) :
    BalanceChange deposit (fun a => a = source ∨ a = target) s t ∧
      t.free source = 0 ∧
      t.free target = s.free target + s.free source ∧
      t.totalIssuance = s.totalIssuance ∧
      t.inactiveIssuance = s.inactiveIssuance := by
  unfold transferFree at h
  rw [if_neg hne] at h
  split at h
  · cases h
  · rcases except_bind_eq_ok h with ⟨debited, hdebited, hcredited⟩
    rcases changeFree_ok hdeposit hdebited with
      ⟨hdebit, hsource, htotal, hinactive⟩
    rcases changeFree_ok hdeposit hcredited with
      ⟨hcredit, htarget, htotal', hinactive'⟩
    refine ⟨hdebit.pair hne hcredit, ?_, htarget, htotal'.trans htotal,
      hinactive'.trans hinactive⟩
    rw [State.free_congr (hcredit.untouched source hne), hsource,
      Nat.sub_self]

theorem withdrawFree_calls {who : AccountId} {amount paid : Nat}
    {precision : Precision} {preservation : Preservation}
    {fortitude : Fortitude} {s t : State}
    (h : withdrawFree deposit who amount precision preservation fortitude s =
      Except.ok (paid, t)) :
    paid = min amount (reducible deposit who preservation fortitude s) ∧
      changeFree deposit who (s.free who - paid) s = Except.ok t := by
  unfold withdrawFree at h
  dsimp only at h
  split at h
  · cases h
  · rcases except_bind_eq_ok h with ⟨after, hafter, h⟩
    cases h
    exact ⟨rfl, hafter⟩

theorem withdrawFree_ok (hdeposit : 0 < deposit) {who : AccountId}
    {amount paid : Nat} {precision : Precision} {preservation : Preservation}
    {fortitude : Fortitude} {s t : State}
    (h : withdrawFree deposit who amount precision preservation fortitude s =
      Except.ok (paid, t)) :
    BalanceChange deposit (fun a => a = who) s t ∧ paid ≤ amount ∧
      t.free who + paid = s.free who ∧ t.totalIssuance = s.totalIssuance ∧
      t.inactiveIssuance = s.inactiveIssuance := by
  rcases withdrawFree_calls h with ⟨hpaid, hafter⟩
  rcases changeFree_ok hdeposit hafter with
    ⟨hchange, hfree, htotal, hinactive⟩
  have hreducible : reducible deposit who preservation fortitude s ≤
      s.free who := reducible_le who preservation fortitude s
  refine ⟨hchange, by lia, ?_, htotal, hinactive⟩
  rw [hfree]
  exact Nat.sub_add_cancel (by lia)

theorem writeVesting_change (who : AccountId) (schedules : List VestingInfo)
    (s : State) : VestingChange who s (writeVesting who schedules s) := by
  unfold writeVesting AccountInfo.withFrozen
  refine ⟨?_, by simp, by simp, by simp, by simp, by simp, rfl, rfl⟩
  intro other hne
  exact ⟨State.account_setAccount_of_ne _ _ hne,
    Function.update_of_ne hne _ _⟩

theorem scheduleCount_writeVesting_le (who : AccountId)
    (schedules : List VestingInfo) (s : State) :
    scheduleCount (writeVesting who schedules s) who ≤ schedules.length := by
  unfold scheduleCount writeVesting
  dsimp only
  rw [Function.update_self, getD_stored]
  exact List.length_filter_le _ _

theorem removeSchedule_eq {who : AccountId} {s : State}
    {schedules : List VestingInfo} (h : s.vesting who = some schedules)
    (index : Nat) : removeSchedule who index s =
      Except.ok (writeVesting who (schedules.eraseIdx index) s) := by
  unfold removeSchedule
  rw [h]

theorem removeSchedule_ok {who : AccountId} {s t : State}
    (h : removeSchedule who 0 s = Except.ok t) :
    VestingChange who s t ∧
      ((t.vesting who).isSome = true ->
        scheduleCount t who < scheduleCount s who) := by
  cases hvesting : s.vesting who with
  | none =>
      unfold removeSchedule at h
      rw [hvesting] at h
      cases h
  | some schedules =>
      rw [removeSchedule_eq hvesting] at h
      cases h
      refine ⟨writeVesting_change who _ s, ?_⟩
      have hcount : scheduleCount s who = schedules.length := by
        unfold scheduleCount
        rw [hvesting]
        rfl
      cases schedules with
      | nil =>
          intro hsome
          unfold writeVesting at hsome
          simp [stored] at hsome
      | cons first rest =>
          intro _
          have hle := scheduleCount_writeVesting_le who
            ((first :: rest).eraseIdx 0) s
          rw [hcount]
          exact Nat.lt_succ_of_le hle

theorem addSchedule_ok {limit : Nat} {who : AccountId}
    {schedule : VestingInfo} {s t : State}
    (h : addSchedule limit who schedule s = Except.ok t) :
    VestingChange who s t := by
  unfold addSchedule at h
  dsimp only at h
  split at h
  · cases h
    exact VestingChange.refl who _
  · split at h
    · cases h
    · split at h
      · cases h
        exact writeVesting_change who _ s
      · cases h

theorem reference_lawful (hdeposit : 0 < deposit) (claimFee : Nat) :
    (reference deposit claimFee).Lawful where
  minimumBalance_pos := hdeposit
  reducibleBalance_le := reducible_le
  mintInto_ok := by
    intro who amount s t h
    rcases except_bind_eq_ok h with ⟨minted, hminted, h⟩
    cases h
    rcases changeFree_ok hdeposit hminted with
      ⟨hchange, hfree, htotal, hinactive⟩
    refine ⟨hchange.with_totalIssuance _, hfree, ?_, hinactive⟩
    show minted.totalIssuance + amount = _
    rw [htotal]
  deactivate_eq := fun _ _ => rfl
  transfer_ok := fun _ _ _ _ hne h => transferFree_ok hdeposit hne h
  withdraw_ok := by
    intro who amount s paid t h
    change withdrawFree deposit who amount Precision.bestEffort
      Preservation.preserve Fortitude.polite s = Except.ok (paid, t) at h
    exact withdrawFree_ok hdeposit h
  onClaimFee_change := fun _ _ => BalanceChange.of_account_eq rfl rfl
  removeVestingSchedule_ok := fun _ _ _ h =>
    ⟨(removeSchedule_ok h).left, fun _ => (removeSchedule_ok h).right⟩
  addVestingSchedule_ok := fun _ _ _ _ h => addSchedule_ok h
  incProviders_eq := fun _ _ => rfl

/-!
## Acceptance, locks and references
-/

theorem changeFree_frame {who : AccountId} {free : Nat} {s t : State}
    (h : changeFree deposit who free s = Except.ok t) : Frame s t := by
  unfold changeFree at h
  split at h
  · cases h
    exact ⟨rfl, rfl, rfl, rfl⟩
  · cases h

theorem transferFree_frame {source target : AccountId} {amount : Nat}
    {preservation : Preservation} {s t : State}
    (h : transferFree deposit source target amount preservation s =
      Except.ok t) : Frame s t := by
  unfold transferFree at h
  split at h
  · cases h
    exact Frame.refl s
  · split at h
    · cases h
    · rcases except_bind_eq_ok h with ⟨debited, hdebited, hcredited⟩
      exact (changeFree_frame hdebited).trans (changeFree_frame hcredited)

theorem withdrawFree_frame {who : AccountId} {amount paid : Nat}
    {precision : Precision} {preservation : Preservation}
    {fortitude : Fortitude} {s t : State}
    (h : withdrawFree deposit who amount precision preservation fortitude s =
      Except.ok (paid, t)) : Frame s t := by
  exact changeFree_frame (withdrawFree_calls h).right

theorem reducible_preserve_le (who : AccountId) (s : State)
    (h : deposit ≤ s.free who) :
    reducible deposit who Preservation.preserve Fortitude.polite s + deposit ≤
      s.free who := by
  unfold State.free at h ⊢
  unfold reducible
  dsimp only
  rw [if_pos rfl]
  lia

theorem AccountInfo.reserved_withFree (info : AccountInfo) {free : Nat}
    (hle : info.data.free ≤ free) :
    (info.withFree deposit free).data.reserved = info.data.reserved := by
  unfold AccountInfo.withFree
  dsimp only
  split
  · rename_i hgone
    rcases hgone with ⟨hbefore, hafter, _⟩
    unfold ownProvider at hbefore hafter
    dsimp only at hafter
    lia
  · rfl

theorem mint_reserved {who : AccountId} {amount : Nat} {s t : State}
    (h : mint deposit who amount s = Except.ok t) :
    (t.account who).data.reserved = (s.account who).data.reserved := by
  rcases except_bind_eq_ok h with ⟨credited, hcredited, h⟩
  cases h
  unfold changeFree at hcredited
  split at hcredited
  · cases hcredited
    change ((s.setAccount who _).account who).data.reserved = _
    rw [State.account_setAccount_self]
    exact AccountInfo.reserved_withFree _ (Nat.le_add_right _ amount)
  · cases hcredited

theorem mint_total {who : AccountId} {amount : Nat} {s : State}
    (h : CanDeposit deposit s who amount) :
    exists t, mint deposit who amount s = Except.ok t := by
  have hchange : changeFree deposit who (s.free who + amount) s =
      Except.ok _ := if_pos (Or.inr h.minimum)
  unfold mint
  rw [hchange, except_ok_bind]
  exact ⟨_, rfl⟩

theorem transferFree_total {source target : AccountId} (hne : source ≠ target)
    {s : State} (hwithdraw : CanWithdraw deposit s source (s.free source))
    (hdeposit : CanDeposit deposit s target (s.free source)) :
    exists t, transferFree deposit source target (s.free source)
      Preservation.expendable s = Except.ok t := by
  have hdebit : changeFree deposit source (s.free source - s.free source) s =
      Except.ok _ := if_pos (Or.inl (Nat.sub_self _))
  have hcredit : forall t, changeFree deposit target
      (s.free target + s.free source) t = Except.ok _ := fun t =>
    if_pos (Or.inr hdeposit.minimum)
  unfold transferFree
  rw [if_neg hne, if_neg (Nat.not_lt.mpr hwithdraw.liquid), hdebit,
    except_ok_bind, hcredit]
  exact ⟨_, rfl⟩

theorem withdrawFree_preserves (who : AccountId) (amount : Nat) {s : State}
    (h : deposit ≤ s.free who) :
    exists paid t, withdrawFree deposit who amount Precision.bestEffort
      Preservation.preserve Fortitude.polite s = Except.ok (paid, t) ∧
        deposit ≤ t.free who := by
  have hkept := reducible_preserve_le who s h
  have hleft : deposit ≤ s.free who - min amount (reducible deposit who
      Preservation.preserve Fortitude.polite s) := by
    lia
  have hchange : changeFree deposit who (s.free who - min amount
      (reducible deposit who Preservation.preserve Fortitude.polite s)) s =
        Except.ok _ := if_pos (Or.inr hleft)
  unfold withdrawFree
  dsimp only
  rw [if_neg (fun hexact => nomatch hexact.left), hchange, except_ok_bind]
  refine ⟨_, _, rfl, ?_⟩
  have hfree := AccountInfo.free_withFree (s.account who) (Or.inr hleft)
  unfold State.free
  rw [State.account_setAccount_self]
  exact Nat.le_trans hleft (Nat.le_of_eq hfree.symm)

theorem writeVesting_written (claimFee : Nat) (who : AccountId)
    (schedules : List VestingInfo) (s : State) :
    VestingWritten (reference deposit claimFee) who schedules s
      (writeVesting who schedules s) := by
  have hlocks : (writeVesting who schedules s).locks who =
      (s.locks who).filter (fun lock => !isVesting lock) ++
        vestingLock (lockedTotal (reference deposit claimFee) schedules
          s.block) := Function.update_self _ _ _
  have haccount : (writeVesting who schedules s).account who =
      (s.account who).withFrozen
        (frozenBy ((writeVesting who schedules s).locks who)
          (s.freezes who)) := by
    rw [hlocks]
    exact State.account_setAccount_self _ _ _
  have hvestingLock : forall amount, (vestingLock amount).filter isVesting =
      vestingLock amount ∧
      (vestingLock amount).filter (fun lock => !isVesting lock) = [] := by
    intro amount
    unfold vestingLock
    split
    · exact ⟨rfl, rfl⟩
    · exact ⟨rfl, rfl⟩
  refine ⟨rfl, rfl, rfl, Function.update_self _ _ _, ?_, ?_, ?_, ?_, ?_⟩
  · intro other hne
    exact Function.update_of_ne hne _ _
  · rw [hlocks, List.filter_append, List.filter_filter,
      (hvestingLock _).right, List.append_nil]
    simp
  · rw [hlocks, List.filter_append, List.filter_filter,
      (hvestingLock _).left]
    simp
  · rw [haccount]
    rfl
  · intro hheld
    rw [haccount]
    unfold AccountInfo.withFrozen
    dsimp only
    lia

theorem addSchedule_written (claimFee : Nat) {limit : Nat} {who : AccountId}
    {schedule : VestingInfo} {s t : State} (hlocked : schedule.locked ≠ 0)
    (h : addSchedule limit who schedule s = Except.ok t) :
    VestingWritten (reference deposit claimFee) who
      (schedulesOf s who ++ [schedule]) s t := by
  unfold addSchedule at h
  dsimp only at h
  rw [if_neg hlocked] at h
  split at h
  · cases h
  · split at h
    · cases h
      exact writeVesting_written claimFee who _ s
    · cases h

theorem addSchedule_total {limit : Nat} {who : AccountId}
    {schedule : VestingInfo} {s : State} (hlocked : schedule.locked ≠ 0)
    (hrate : schedule.perBlock ≠ 0) (hroom : scheduleCount s who < limit) :
    exists t, addSchedule limit who schedule s = Except.ok t := by
  have hlength : (schedulesOf s who).length < limit := hroom
  unfold addSchedule
  dsimp only
  rw [if_neg hlocked, if_neg hrate, if_pos hlength]
  exact ⟨_, rfl⟩

theorem reference_documented (hdeposit : 0 < deposit) (claimFee : Nat) :
    (reference deposit claimFee).Documented where
  toLawful := reference_lawful hdeposit claimFee
  reducibleBalance_eq := fun _ _ _ _ => rfl
  mintInto_frame := by
    intro who amount s t h
    rcases except_bind_eq_ok h with ⟨minted, hminted, h⟩
    cases h
    have hframe := changeFree_frame hminted
    exact ⟨hframe.block, hframe.locks, hframe.freezes, hframe.events⟩
  mintInto_reserved := fun _ _ _ _ h => mint_reserved h
  mintInto_total := fun _ _ _ _ h => mint_total h
  transfer_frame := fun _ _ _ _ _ _ h => transferFree_frame h
  transfer_total := fun _ _ _ hne hwithdraw hdeposit =>
    transferFree_total hne hwithdraw hdeposit
  withdraw_frame := fun _ _ _ _ _ _ _ _ h => withdrawFree_frame h
  withdraw_total := by
    intro who amount s h
    rcases withdrawFree_preserves who amount h with ⟨paid, t, ht, _⟩
    exact ⟨(paid, t), ht⟩
  withdraw_preserves := by
    intro who amount s paid t h hwithdrawn
    rcases withdrawFree_preserves who amount h with ⟨paid', t', ht, hle⟩
    have hsame := Except.ok.inj (ht.symm.trans hwithdrawn)
    cases hsame
    exact hle
  onClaimFee_frame := fun _ _ => ⟨rfl, rfl, rfl, rfl⟩
  onClaimFee_le := fun _ _ _ => Nat.le_refl _
  lockedAt_eq := fun _ _ => rfl
  removeVestingSchedule_written := by
    intro who s schedules h
    refine ⟨_, removeSchedule_eq h 0, ?_⟩
    rw [List.eraseIdx_zero]
    exact writeVesting_written claimFee who schedules.tail s
  addVestingSchedule_written := fun _ _ _ _ hlocked h =>
    addSchedule_written claimFee hlocked h
  addVestingSchedule_total := fun _ _ _ hlocked hrate hroom =>
    addSchedule_total hlocked hrate hroom

/-!
## One old account
-/

/-- The H160 of the examples: twenty ones. -/
def firstAddress : H160 :=
  Bytes.replicate 20 1

/-- A funded old account that reached nonce seven. -/
def firstRecord : AccountInfo where
  nonce := 7
  providers := 2
  data := { free := 100, frozen := 30 }

/-- The old account of `firstAddress` holds 100, of which a schedule still
locks 30. -/
def firstState : State where
  block := 10
  account := Function.update (fun _ => {})
    (legacyAccount (reference 10 5) firstAddress) firstRecord
  locks := Function.update (fun _ => [])
    (legacyAccount (reference 10 5) firstAddress) [⟨vestingId, 30⟩]
  freezes := fun _ => []
  vesting := Function.update (fun _ => none)
    (legacyAccount (reference 10 5) firstAddress) (some [⟨40, 1, 0⟩])
  totalIssuance := 100
  inactiveIssuance := 0
  events := []

end Accounts
end Numen
