import Numen.Validator.Transitions

/-!
# Kicks and the rejoin cooldown

A kick sets a rejoin deadline that outlives the lock record, so the account
stays out of the set for the whole cooldown.  An equivocation report only flags
the account; the kick follows at the next boundary, and only if the lock is
still `Active` by then.
-/

namespace Numen
namespace Validator

open Foundation

variable {AccountId Locks : Type} [DecidableEq AccountId]
variable {cfg : Config AccountId Locks}

/-!
## A barred account
-/

/-- `who` is out of the set and may not lock before `deadline` has passed. -/
structure Barred (who : AccountId) (deadline : Nat) (s : State cfg) :
    Prop where
  notMember : ¬ s.IsMember who
  notActive : s.isActive who = false
  cooldown : s.rejoinCooldown.get who = some deadline

theorem Barred.not_lockGuards {who : AccountId} {deadline : Nat}
    {s : State cfg} (hs : Barred who deadline s) (hblock : s.block ≤ deadline)
    (env : Environment AccountId) : ¬ LockGuards env s who := by
  intro hguards
  have hover := hguards.cooldownOver
  unfold inCooldown at hover
  rw [hs.cooldown] at hover
  exact absurd hblock (of_decide_eq_false hover)

theorem Barred.lock_fails {who : AccountId} {deadline : Nat} {s : State cfg}
    (hs : Barred who deadline s) (hblock : s.block ≤ deadline)
    (env : Environment AccountId) (t : State cfg) :
    lock env (Origin.signed who) s ≠ Except.ok t := by
  intro hlock
  rcases lock_eq_ok_iff.mp hlock with ⟨caller, hcaller, hguards, _⟩
  cases hcaller
  exact hs.not_lockGuards hblock env hguards

theorem newSession_not_member (env : Environment AccountId) {s : State cfg}
    {who : AccountId} (hinactive : (newSession env s).2.isActive who = false) :
    ¬ (newSession env s).2.IsMember who := by
  have heffect := newSession_effect env s
  rintro (hdesired | hpending)
  · have hactive := (heffect.members who hdesired).left
    rw [hinactive] at hactive
    cases hactive
  · rw [heffect.pendingValidators] at hpending
    cases hpending

theorem BoundaryEffect.rejoinCooldown_of_not_active {s t : State cfg}
    (heffect : BoundaryEffect s t) {who : AccountId}
    (hinactive : s.isActive who = false) :
    t.rejoinCooldown.get who = s.rejoinCooldown.get who := by
  have hstatus : forall info, s.validatorLocks.get who = some info ->
      info.status ≠ ValidatorStatus.active := by
    intro info hget hactive
    have := State.isActive_eq_true.mpr ⟨info, hget, hactive⟩
    rw [hinactive] at this
    cases this
  rcases heffect.account who with
    (⟨_, hcooldown⟩ | ⟨info, hget, hactive, _, _⟩) | ⟨hcooldown, _⟩
  · exact hcooldown
  · exact absurd hactive (hstatus info hget)
  · exact hcooldown

theorem Barred.congr {s t : State cfg} {who : AccountId} {deadline : Nat}
    (hs : Barred who deadline s) (hactive : t.isActive who = false)
    (hdesired : t.desiredValidators = s.desiredValidators)
    (hpending : t.pendingValidators = s.pendingValidators)
    (hcooldown : t.rejoinCooldown = s.rejoinCooldown) :
    Barred who deadline t := by
  refine ⟨?_, hactive, ?_⟩
  · unfold State.IsMember
    rw [hdesired, hpending]
    exact hs.notMember
  · rw [hcooldown]
    exact hs.cooldown

theorem step_barred {s : State cfg} {label : Label AccountId}
    (hallowed : Allowed s label) {who : AccountId} {deadline : Nat}
    (hblock : s.block ≤ deadline) (hs : Barred who deadline s) :
    Barred who deadline (step s label) := by
  have hactive : (step s label).isActive who = false := by
    apply Bool.eq_false_iff.mpr
    intro hactive
    rcases step_isActive hallowed hactive with hbefore | ⟨env, _, hguards⟩
    · rw [hs.notActive] at hbefore
      cases hbefore
    · exact hs.not_lockGuards hblock env hguards
  have hcase := step_cases hallowed
  generalize step s label = t at hcase hactive ⊢
  cases hcase with
  | locked env caller hguards =>
      have hne : who ≠ caller := by
        rintro rfl
        exact hs.not_lockGuards hblock env hguards
      refine ⟨?_, hactive, ?_⟩
      · rintro (hdesired | hpending)
        · exact hs.notMember (Or.inl hdesired)
        · exact hs.notMember (Or.inr
            ((BoundedVec.mem_pushOrDrop hpending).resolve_right hne))
      · exact (StorageMap.get_remove_of_ne _ hne).trans hs.cooldown
  | exited caller info hget hcaller =>
      refine ⟨?_, hactive, hs.cooldown⟩
      rintro (hdesired | hpending)
      · exact hs.notMember (Or.inl hdesired)
      · exact hs.notMember (Or.inr (List.mem_of_mem_erase hpending))
  | flagged reported hreported => exact hs.congr hactive rfl rfl rfl
  | boundary env =>
      have heffect := newSession_effect env s
      refine ⟨newSession_not_member env hactive, hactive, ?_⟩
      rw [heffect.rejoinCooldown_of_not_active hs.notActive]
      exact hs.cooldown
  | swept =>
      have hsame := onInitialize_sameBesidesLocks s.block s
      exact hs.congr hactive hsame.desiredValidators hsame.pendingValidators
        hsame.rejoinCooldown
  | advanced block hle hmax => exact hs.congr hactive rfl rfl rfl
  | idle label t hsame =>
      exact hs.congr hactive hsame.desiredValidators hsame.pendingValidators
        hsame.rejoinCooldown

theorem run_barred {s t : State cfg} {labels : List (Label AccountId)}
    (hrun : Run Allowed step s labels t) {who : AccountId} {deadline : Nat}
    (hs : Barred who deadline s) (hblock : t.block ≤ deadline) :
    Barred who deadline t := by
  refine hrun.preserves
    (fun u => u.block ≤ deadline -> Barred who deadline u) ?_ (fun _ => hs)
    hblock
  intro u label hallowed hu hafter
  have hbefore := Nat.le_trans (block_le_step hallowed) hafter
  exact step_barred hallowed hbefore (hu hbefore)

theorem newSession_returned_not_mem {env : Environment AccountId}
    {s : State cfg} {who : AccountId}
    (hnotMember : ¬ (newSession env s).2.IsMember who)
    {set : List AccountId} (hset : (newSession env s).1 = some set) :
    who ∉ set := by
  rw [newSession_returned hset]
  intro hmem
  exact hnotMember (Or.inl hmem)

/-- An account kicked at block `k` is in no set, neither stored nor returned,
up to and including block `k + RejoinCooldownPeriod`. -/
theorem kicked_account_stays_out {s : State cfg} {who : AccountId}
    (hactive : s.isActive who = true) (env : Environment AccountId)
    {info : LockInfo}
    (hget : (newSession env s).2.validatorLocks.get who = some info)
    (hkicked : info.status = ValidatorStatus.kicked)
    (hfits : s.block + cfg.rejoinCooldownPeriod ≤ cfg.maxBlock) :
    (forall set, (newSession env s).1 = some set -> who ∉ set) ∧
    (forall later t, Run Allowed step (newSession env s).2 later t ->
      t.block ≤ s.block + cfg.rejoinCooldownPeriod ->
      who ∉ t.desiredValidators.toList ∧ who ∉ t.pendingValidators.toList ∧
        forall env' set, (newSession env' t).1 = some set -> who ∉ set) := by
  have heffect := newSession_effect env s
  have hdeadline : (newSession env s).2.rejoinCooldown.get who =
      some (s.block + cfg.rejoinCooldownPeriod) := by
    rcases State.isActive_eq_true.mp hactive with ⟨before, hbefore, hstatus⟩
    rcases heffect.account who with
      (⟨hlock, _⟩ | ⟨_, _, _, _, hcooldown⟩) | ⟨_, _, _, _, hdropped⟩
    · rw [hget, hbefore] at hlock
      cases hlock
      rw [hstatus] at hkicked
      cases hkicked
    · rw [hcooldown, satAdd_eq_add hfits]
    · rw [hget] at hdropped
      cases hdropped
      cases hkicked
  have hinactive : (newSession env s).2.isActive who = false := by
    unfold State.isActive
    rw [hget]
    simp [hkicked]
  have hbarred : Barred who (s.block + cfg.rejoinCooldownPeriod)
      (newSession env s).2 :=
    ⟨newSession_not_member env hinactive, hinactive, hdeadline⟩
  refine ⟨fun set => newSession_returned_not_mem hbarred.notMember, ?_⟩
  intro later t hrun hblock
  have ht := run_barred hrun hbarred hblock
  refine ⟨fun h => ht.notMember (Or.inl h), fun h => ht.notMember (Or.inr h), ?_⟩
  intro env' set
  have hallowed : Allowed t (Label.newSession env') := True.intro
  have hnext := step_barred hallowed hblock ht
  exact newSession_returned_not_mem hnext.notMember

/-- Account 1 is kicked at block 0: it cannot be back in the set at block 20,
even after its lock has been released. -/
theorem kicked_account_is_out_at_block_twenty :
    let flagged := step mockGenesis (Label.noteEquivocation 1)
    let kicked := (newSession mockEnvironment flagged).2
    let released := step (step kicked (Label.advance 20)) Label.onInitialize
    released.validatorLocks.get 1 = none ∧
      1 ∉ released.desiredValidators.toList ∧
      1 ∉ released.pendingValidators.toList := by
  intro flagged kicked released
  have hrun : Run Allowed step kicked [Label.advance 20, Label.onInitialize]
      released :=
    Run.cons (by decide : _ ∧ _) (Run.single True.intro)
  have hactive : flagged.isActive 1 = true := by decide
  have hget : kicked.validatorLocks.get 1 =
      some ⟨0, 0, 10, ValidatorStatus.kicked⟩ := by decide
  have hout := (kicked_account_stays_out hactive mockEnvironment hget rfl
    (by decide)).right _ released hrun (by decide)
  exact ⟨by decide, hout.left, hout.right.left⟩

/-!
## Reported equivocators
-/

/-- Neither an `Active` nor a flagged account has a cooldown running or left
over. -/
structure NoCooldown (s : State cfg) : Prop where
  active : forall who, s.isActive who = true -> s.rejoinCooldown.get who = none
  flagged : forall who, s.equivocationThisSession.containsKey who = true ->
    s.rejoinCooldown.get who = none

theorem genesis_noCooldown {g : State cfg} (hg : GenesisShape g) :
    NoCooldown g := by
  have hnone : forall who, g.rejoinCooldown.get who = none := by
    intro who
    rw [hg.rejoinCooldown]
    exact StorageMap.get_empty who
  exact ⟨fun who _ => hnone who, fun who _ => hnone who⟩

theorem containsKey_flagEquivocation (s : State cfg) (who other : AccountId) :
    (flagEquivocation s who).equivocationThisSession.containsKey other = true <->
      other = who ∨ s.equivocationThisSession.containsKey other = true := by
  show ((s.equivocationThisSession.insert who ()).get other).isSome = true <-> _
  rw [StorageMap.get_insert]
  by_cases hself : other = who
  · simp [hself]
  · simp [hself, StorageMap.containsKey]

theorem NoCooldown.weaken {s t : State cfg} (hs : NoCooldown s)
    (hactive : forall who, t.isActive who = true -> s.isActive who = true)
    (hcooldown : t.rejoinCooldown = s.rejoinCooldown)
    (hflags : t.equivocationThisSession = s.equivocationThisSession) :
    NoCooldown t := by
  constructor
  · intro who hwho
    rw [hcooldown]
    exact hs.active who (hactive who hwho)
  · intro who hflag
    rw [hflags] at hflag
    rw [hcooldown]
    exact hs.flagged who hflag

theorem commitLock_noCooldown {s : State cfg} (caller : AccountId)
    (hs : NoCooldown s) : NoCooldown (commitLock s caller) := by
  have hcooldown : forall who, (commitLock s caller).rejoinCooldown.get who =
      if who = caller then none else s.rejoinCooldown.get who := by
    intro who
    exact StorageMap.get_remove _ _ _
  constructor
  · intro who hactive
    rw [isActive_commitLock] at hactive
    rw [hcooldown]
    split at hactive
    · rename_i hself
      rw [if_pos hself]
    · rename_i hne
      rw [if_neg hne]
      exact hs.active who hactive
  · intro who hflag
    rw [hcooldown]
    split
    · rfl
    · exact hs.flagged who hflag

theorem newSession_noCooldown {s : State cfg} (env : Environment AccountId)
    (hs : NoCooldown s) : NoCooldown (newSession env s).2 := by
  have heffect := newSession_effect env s
  constructor
  · intro who hactive
    have hbefore := heffect.isActive_of_isActive hactive
    rcases heffect.account who with
      (⟨_, hcooldown⟩ | ⟨info, _, _, hkicked, _⟩) | ⟨hcooldown, _⟩
    · exact hcooldown.trans (hs.active who hbefore)
    · unfold State.isActive at hactive
      rw [hkicked] at hactive
      simp at hactive
    · exact hcooldown.trans (hs.active who hbefore)
  · intro who hflag
    rw [heffect.equivocationThisSession] at hflag
    simp [StorageMap.containsKey] at hflag

theorem step_noCooldown {s : State cfg} {label : Label AccountId}
    (hallowed : Allowed s label) (hs : NoCooldown s) :
    NoCooldown (step s label) := by
  have hcase := step_cases hallowed
  generalize step s label = t at hcase ⊢
  cases hcase with
  | locked env caller hguards => exact commitLock_noCooldown caller hs
  | exited caller info hget hcaller =>
      refine hs.weaken ?_ rfl rfl
      intro who hactive
      rw [isActive_commitExit] at hactive
      split at hactive
      · cases hactive
      · exact hactive
  | flagged reported hreported =>
      constructor
      · exact hs.active
      · intro who hflag
        rcases (containsKey_flagEquivocation s reported who).mp hflag with
          rfl | hold
        · exact hs.active who hreported
        · exact hs.flagged who hold
  | boundary env => exact newSession_noCooldown env hs
  | swept =>
      have hsame := onInitialize_sameBesidesLocks s.block s
      exact hs.weaken (fun _ => isActive_of_isActive_onInitialize)
        hsame.rejoinCooldown hsame.equivocationThisSession
  | advanced block hle hmax => exact hs.weaken (fun _ h => h) rfl rfl
  | idle label t hsame =>
      refine hs.weaken ?_ hsame.rejoinCooldown hsame.equivocationThisSession
      intro who hactive
      rw [State.isActive_congr (congrArg (fun locks => locks.get who)
        hsame.validatorLocks)] at hactive
      exact hactive

def Label.IsBoundary : Label AccountId -> Prop
  | Label.newSession _ => True
  | _ => False

theorem step_within_session {s : State cfg} {label : Label AccountId}
    (hallowed : Allowed s label) (hlabel : ¬ label.IsBoundary) :
    (step s label).desiredValidators = s.desiredValidators ∧
      (step s label).offlineSessionCount = s.offlineSessionCount := by
  have hcase := step_cases hallowed
  generalize step s label = t at hcase ⊢
  cases hcase with
  | locked env who hguards => exact ⟨rfl, rfl⟩
  | exited who info hget hactive => exact ⟨rfl, rfl⟩
  | flagged who hactive => exact ⟨rfl, rfl⟩
  | boundary env => exact absurd True.intro hlabel
  | swept =>
      have hsame := onInitialize_sameBesidesLocks s.block s
      exact ⟨hsame.desiredValidators, hsame.offlineSessionCount⟩
  | advanced block hle hmax => exact ⟨rfl, rfl⟩
  | idle label t hsame =>
      exact ⟨hsame.desiredValidators, hsame.offlineSessionCount⟩

theorem step_keeps_flag {s : State cfg} {label : Label AccountId}
    (hallowed : Allowed s label) (hlabel : ¬ label.IsBoundary)
    {who : AccountId}
    (hflag : s.equivocationThisSession.containsKey who = true) :
    (step s label).equivocationThisSession.containsKey who = true := by
  have hcase := step_cases hallowed
  generalize step s label = t at hcase ⊢
  cases hcase with
  | locked env caller hguards => exact hflag
  | exited caller info hget hcaller => exact hflag
  | flagged reported hreported =>
      exact (containsKey_flagEquivocation s reported who).mpr (Or.inr hflag)
  | boundary env => exact absurd True.intro hlabel
  | swept =>
      rw [(onInitialize_sameBesidesLocks s.block s).equivocationThisSession]
      exact hflag
  | advanced block hle hmax => exact hflag
  | idle label t hsame =>
      rw [hsame.equivocationThisSession]
      exact hflag

/-- A boundary at block `k` sets the deadline `k + RejoinCooldownPeriod` for a
flagged account exactly when its lock is still `Active` there and the deadline
fits the block number type. -/
theorem newSession_deadline_iff (env : Environment AccountId) {s : State cfg}
    (hs : NoCooldown s) {who : AccountId}
    (hflag : s.equivocationThisSession.containsKey who = true) :
    (newSession env s).2.rejoinCooldown.get who =
        some (s.block + cfg.rejoinCooldownPeriod) <->
      s.isActive who = true ∧
        s.block + cfg.rejoinCooldownPeriod ≤ cfg.maxBlock := by
  constructor
  · intro hdeadline
    cases hactive : s.isActive who with
    | false =>
        rw [(newSession_effect env s).rejoinCooldown_of_not_active hactive,
          hs.flagged who hflag] at hdeadline
        cases hdeadline
    | true =>
        refine ⟨rfl, ?_⟩
        rw [(newSession_kicks_flagged env hflag hactive).right] at hdeadline
        rw [← Option.some.inj hdeadline]
        exact satAdd_le_top _ _ _
  · rintro ⟨hactive, hfits⟩
    rw [(newSession_kicks_flagged env hflag hactive).right, satAdd_eq_add hfits]

/-- The boundary that follows an equivocation report punishes the reported
account exactly when its lock is still `Active` at that boundary (and the
deadline fits the block number type): it then has neither a seat nor a place in
the queue, and no `lock` of it goes through before the deadline has passed.  An
offender who exits between the report and the boundary gets no cooldown. -/
theorem reported_equivocator_punished_iff_still_active
    {initialValidators : List AccountId} {labels : List (Label AccountId)}
    {s : State cfg} (hs : ReachedBy initialValidators labels s)
    {who : AccountId}
    (hflag : s.equivocationThisSession.containsKey who = true)
    {between : List (Label AccountId)} {t : State cfg}
    (hrun : Run (fun u label => Allowed u label ∧ ¬ label.IsBoundary) step
      s between t) (env : Environment AccountId) :
    (who ∉ (newSession env t).2.desiredValidators.toList ∧
      who ∉ (newSession env t).2.pendingValidators.toList ∧
      (newSession env t).2.rejoinCooldown.get who =
        some (t.block + cfg.rejoinCooldownPeriod) ∧
      forall later u, Run Allowed step (newSession env t).2 later u ->
        u.block ≤ t.block + cfg.rejoinCooldownPeriod ->
        forall env' u', lock env' (Origin.signed who) u ≠ Except.ok u') <->
    t.isActive who = true ∧
      t.block + cfg.rejoinCooldownPeriod ≤ cfg.maxBlock := by
  have hstart : NoCooldown s :=
    hs.invariant NoCooldown (fun _ => genesis_noCooldown)
      (fun _ _ => step_noCooldown)
  have hend : NoCooldown t ∧
      t.equivocationThisSession.containsKey who = true :=
    hrun.preserves
      (fun u => NoCooldown u ∧
        u.equivocationThisSession.containsKey who = true)
      (fun _ _ hlabel hu => ⟨step_noCooldown hlabel.left hu.left,
        step_keeps_flag hlabel.left hlabel.right hu.right⟩)
      ⟨hstart, hflag⟩
  have hdeadline := newSession_deadline_iff env hend.left hend.right
  constructor
  · rintro ⟨_, _, hcooldown, _⟩
    exact hdeadline.mp hcooldown
  · rintro ⟨hactive, hfits⟩
    have hkicked := (newSession_kicks_flagged env hend.right hactive).left
    have hbarred : Barred who (t.block + cfg.rejoinCooldownPeriod)
        (newSession env t).2 :=
      ⟨newSession_not_member env hkicked, hkicked,
        hdeadline.mpr ⟨hactive, hfits⟩⟩
    refine ⟨fun h => hbarred.notMember (Or.inl h),
      fun h => hbarred.notMember (Or.inr h), hbarred.cooldown, ?_⟩
    intro later u hlater hblock
    exact (run_barred hlater hbarred hblock).lock_fails hblock

/-- Account 1 is reported and stays: the boundary sets its deadline. -/
theorem idle_equivocator_is_punished :
    let flagged := step mockGenesis (Label.noteEquivocation 1)
    let after := (newSession mockEnvironment flagged).2
    1 ∉ after.desiredValidators.toList ∧
      after.rejoinCooldown.get 1 = some 20 := by
  intro flagged after
  have hreached : ReachedBy [1] [Label.noteEquivocation 1] flagged :=
    ⟨mockGenesis, build_mockGenesis, Run.single True.intro⟩
  have hflag : flagged.equivocationThisSession.containsKey 1 = true := by decide
  have hiff := reported_equivocator_punished_iff_still_active hreached hflag
    (Run.nil flagged) mockEnvironment
  have hpunished := hiff.mpr ⟨by decide, by decide⟩
  exact ⟨hpunished.left, hpunished.right.right.left⟩

/-- Account 1 is reported and exits before the boundary: it is out of the set,
but no cooldown is set and it can lock again in the same block. -/
theorem exiting_equivocator_escapes_cooldown :
    let flagged := step mockGenesis (Label.noteEquivocation 1)
    let exited := step flagged (Label.requestExit (Origin.signed 1))
    let after := (newSession mockEnvironment exited).2
    ReachedBy [1] [Label.noteEquivocation 1] flagged ∧
      flagged.equivocationThisSession.containsKey 1 = true ∧
      Run (fun u label => Allowed u label ∧ ¬ label.IsBoundary) step
        flagged [Label.requestExit (Origin.signed 1)] exited ∧
      after.rejoinCooldown.get 1 = none ∧
      exists u, lock mockEnvironment (Origin.signed 1) after =
        Except.ok u := by
  intro flagged exited after
  have hguards : LockGuards mockEnvironment after 1 :=
    ⟨by decide, by decide, by decide, rfl, rfl, by decide, by decide⟩
  refine ⟨⟨mockGenesis, build_mockGenesis, Run.single True.intro⟩, by decide,
    Run.single ⟨True.intro, fun h => h⟩, by decide, ?_⟩
  exact ⟨_, lock_eq_ok_iff.mpr ⟨1, rfl, hguards, rfl⟩⟩

end Validator
end Numen
