import Numen.Accounts.Spent

/-!
# A move touches two accounts

What moving an old account leaves alone of every other account, without
assuming that any call of another pallet succeeds.
-/

namespace Numen
namespace Accounts

open Foundation

variable {pallets : Pallets}

/-- The locks of accounts outside `touched` stay, and so do all freezes. -/
structure LocksApart (touched : AccountId -> Prop) (s t : State) : Prop where
  freezes : t.freezes = s.freezes
  locks : forall who, ¬ touched who -> t.locks who = s.locks who

theorem LocksApart.of_eq {touched : AccountId -> Prop} {s t : State}
    (hlocks : t.locks = s.locks) (hfreezes : t.freezes = s.freezes) :
    LocksApart touched s t :=
  ⟨hfreezes, fun who _ => congrFun hlocks who⟩

theorem LocksApart.trans {touched : AccountId -> Prop} {s t u : State}
    (hst : LocksApart touched s t) (htu : LocksApart touched t u) :
    LocksApart touched s u :=
  ⟨htu.freezes.trans hst.freezes,
    fun who hwho => (htu.locks who hwho).trans (hst.locks who hwho)⟩

theorem LocksApart.mono {touched touched' : AccountId -> Prop} {s t : State}
    (h : LocksApart touched s t)
    (himp : forall who, touched who -> touched' who) :
    LocksApart touched' s t :=
  ⟨h.freezes, fun who hwho => h.locks who (fun htouched =>
    hwho (himp who htouched))⟩

/-- Calls of the neighbouring pallets touch no locks but the vesting locks of
the account they name. -/
structure Pallets.Local (pallets : Pallets) : Prop where
  mintInto_locks : forall who amount s t,
    pallets.mintInto who amount s = Except.ok t ->
      t.locks = s.locks ∧ t.freezes = s.freezes
  transfer_locks : forall source target amount preservation s t,
    pallets.transfer source target amount preservation s = Except.ok t ->
      t.locks = s.locks ∧ t.freezes = s.freezes
  removeVestingSchedule_locks : forall who index s t,
    pallets.removeVestingSchedule who index s = Except.ok t ->
      LocksApart (fun a => a = who) s t
  addVestingSchedule_locks : forall who schedule s t,
    pallets.addVestingSchedule who schedule s = Except.ok t ->
      LocksApart (fun a => a = who) s t

theorem removeSchedules_locksApart (hlocal : pallets.Local)
    {legacy : AccountId} (fuel : Nat) {s t : State}
    (h : removeSchedules pallets legacy fuel s = Except.ok t) :
    LocksApart (fun a => a = legacy) s t :=
  removeSchedules_related (LocksApart fun a => a = legacy)
    (fun _ => LocksApart.of_eq rfl rfl) (fun _ _ _ => LocksApart.trans)
    (hlocal.removeVestingSchedule_locks legacy 0) fuel h

theorem addSchedules_locksApart (hlocal : pallets.Local) {account : AccountId}
    {now : Nat} (schedules : List VestingInfo) {s t : State}
    (h : addSchedules pallets account now schedules s = Except.ok t) :
    LocksApart (fun a => a = account) s t :=
  addSchedules_related (LocksApart fun a => a = account)
    (fun _ => LocksApart.of_eq rfl rfl) (fun _ _ _ => LocksApart.trans)
    (hlocal.addVestingSchedule_locks account) schedules h

theorem openAccount_locks (hlawful : pallets.Lawful) (hlocal : pallets.Local)
    {account : AccountId} {s t : State}
    (h : openAccount pallets account s = Except.ok t) :
    t.locks = s.locks ∧ t.freezes = s.freezes := by
  unfold openAccount at h
  split at h
  · rcases except_bind_eq_ok h with ⟨minted, hminted, hreturn⟩
    rw [hlawful.deactivate_eq] at hreturn
    cases hreturn
    have hlocks := hlocal.mintInto_locks _ _ _ _ hminted
    exact ⟨hlocks.left, hlocks.right⟩
  · cases h
    exact ⟨rfl, rfl⟩

theorem moveMovable_locksApart (hlawful : pallets.Lawful)
    (hlocal : pallets.Local) {legacy account : AccountId} {amount : Nat}
    {s t : State}
    (h : moveMovable pallets legacy account s = Except.ok (amount, t)) :
    LocksApart (fun a => a = legacy ∨ a = account) s t := by
  unfold moveMovable at h
  split at h
  · rcases (moveBalance_calls h).right with
      ⟨_, heq⟩ | ⟨_, cleared, opened, moved, hcalls⟩
    · rw [heq]
      exact LocksApart.of_eq rfl rfl
    · have hclear := removeSchedules_locksApart hlocal _ hcalls.clear
      have hopen := openAccount_locks hlawful hlocal hcalls.opens
      have hmove := hlocal.transfer_locks _ _ _ _ _ _ hcalls.transfer
      have hvest := addSchedules_locksApart hlocal _ hcalls.vest
      exact (((hclear.mono fun _ => Or.inl).trans
        (LocksApart.of_eq hopen.left hopen.right)).trans
        (LocksApart.of_eq hmove.left hmove.right)).trans
        (hvest.mono fun _ => Or.inr)
  · cases h
    exact LocksApart.of_eq rfl rfl

/-!
## Holdings
-/

/-- Balance, nonce, locks and freezes of `who` are the same. -/
structure SameHolding (who : AccountId) (s t : State) : Prop where
  data : (t.account who).data = (s.account who).data
  nonce : t.nonce who = s.nonce who
  locks : t.locks who = s.locks who
  freezes : t.freezes who = s.freezes who

theorem SameHolding.refl (who : AccountId) (s : State) : SameHolding who s s :=
  ⟨rfl, rfl, rfl, rfl⟩

theorem SameHolding.trans {who : AccountId} {s t u : State}
    (hst : SameHolding who s t) (htu : SameHolding who t u) :
    SameHolding who s u :=
  ⟨htu.data.trans hst.data, htu.nonce.trans hst.nonce,
    htu.locks.trans hst.locks, htu.freezes.trans hst.freezes⟩

theorem SameHolding.of_record {who : AccountId} {s t : State}
    (haccount : t.account who = s.account who)
    (hlocks : t.locks who = s.locks who)
    (hfreezes : t.freezes who = s.freezes who) : SameHolding who s t :=
  ⟨congrArg AccountInfo.data haccount, State.nonce_congr haccount, hlocks,
    hfreezes⟩

theorem SameHolding.free {who : AccountId} {s t : State}
    (h : SameHolding who s t) : t.free who = s.free who :=
  congrArg AccountData.free h.data

theorem SameHolding.movable {who : AccountId} {s t : State}
    (h : SameHolding who s t) : movable t who = movable s who := by
  unfold Accounts.movable
  rw [h.data, h.locks, h.freezes]

theorem SameHolding.claimedAmount {who : AccountId} {s t : State}
    (h : SameHolding who s t) : claimedAmount t who = claimedAmount s who := by
  unfold Accounts.claimedAmount
  rw [h.movable, h.free]

theorem moveLegacy_sameHolding (hlawful : pallets.Lawful)
    (hlocal : pallets.Local) {address : H160}
    (hne : legacyAccount pallets address ≠ reviveAccount address)
    {s t : State} (h : moveLegacy pallets address s = Except.ok t)
    {who : AccountId} (hlegacy : who ≠ legacyAccount pallets address)
    (haccount : who ≠ reviveAccount address) : SameHolding who s t := by
  have hrecord := ((moveLegacy_ok hlawful hne h).others who hlegacy
    haccount).left
  rcases moveLegacy_calls h with ⟨amount, moved, hmoved, heq⟩
  have hcarry := carryNonce_change hlawful (legacyAccount pallets address)
    (reviveAccount address) s
  have hmove := moveMovable_locksApart hlawful hlocal hmoved
  have hdrop := dropEmpty_accountsOnly (legacyAccount pallets address) moved
  have hlocks : t.locks who = s.locks who := by
    rw [heq]
    change (dropEmpty _ moved).locks who = _
    rw [hdrop.locks, hmove.locks who (not_or.mpr ⟨hlegacy, haccount⟩),
      hcarry.locks]
  have hfreezes : t.freezes who = s.freezes who := by
    rw [heq]
    change (dropEmpty _ moved).freezes who = _
    rw [hdrop.freezes, hmove.freezes, hcarry.freezes]
  exact SameHolding.of_record hrecord hlocks hfreezes

theorem moveLegacy_nonce (hlawful : pallets.Lawful) {address : H160}
    (hne : legacyAccount pallets address ≠ reviveAccount address)
    {s t : State} (h : moveLegacy pallets address s = Except.ok t) :
    t.nonce (reviveAccount address) =
      max (s.nonce (legacyAccount pallets address))
        (s.nonce (reviveAccount address)) := by
  rcases moveLegacy_calls h with ⟨amount, moved, hmoved, heq⟩
  rw [heq]
  calc
    _ = moved.nonce (reviveAccount address) :=
        dropEmpty_nonce_of_ne hne.symm moved
    _ = _ := (moveMovable_nonces hlawful hne hmoved).left
    _ = _ := carryNonce_nonce pallets _ _ s

/-!
## The reference ledger
-/

theorem writeVesting_locksApart (who : AccountId)
    (schedules : List VestingInfo) (s : State) :
    LocksApart (fun a => a = who) s (writeVesting who schedules s) :=
  ⟨rfl, fun _ hne => Function.update_of_ne hne _ _⟩

theorem reference_local (deposit claimFee : Nat) :
    (reference deposit claimFee).Local where
  mintInto_locks := by
    intro who amount s t h
    rcases except_bind_eq_ok h with ⟨minted, hminted, h⟩
    cases h
    have hframe := changeFree_frame hminted
    exact ⟨hframe.locks, hframe.freezes⟩
  transfer_locks := by
    intro source target amount preservation s t h
    have hframe := transferFree_frame h
    exact ⟨hframe.locks, hframe.freezes⟩
  removeVestingSchedule_locks := by
    intro who index s t h
    cases hvesting : s.vesting who with
    | none =>
        change removeSchedule who index s = _ at h
        unfold removeSchedule at h
        rw [hvesting] at h
        cases h
    | some schedules =>
        cases Except.ok.inj ((removeSchedule_eq hvesting index).symm.trans h)
        exact writeVesting_locksApart who _ s
  addVestingSchedule_locks := by
    intro who schedule s t h
    change addSchedule 28 who schedule s = _ at h
    unfold addSchedule at h
    dsimp only at h
    split at h
    · cases h
      exact LocksApart.of_eq rfl rfl
    · split at h
      · cases h
      · split at h
        · cases h
          exact writeVesting_locksApart who _ s
        · cases h

end Accounts
end Numen
