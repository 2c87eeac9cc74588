import Numen.Foundation.Runs
import Numen.Validator.Boundary
import Numen.Validator.Sweep

/-!
# Runs of the validator pallet

A run interleaves extrinsics, offence reports, session boundaries, block hooks
and the passage of blocks in any order.  `step_cases` says once what a single
step can do; the invariants of the pallet are all derived from it.
-/

namespace Numen
namespace Validator

open Foundation

variable {AccountId Locks : Type} [DecidableEq AccountId]
variable {cfg : Config AccountId Locks}

inductive Label (AccountId : Type) where
  | lock (env : Environment AccountId) (origin : Origin AccountId)
  | requestExit (origin : Origin AccountId)
  | setStakeExempt (origin : Origin AccountId) (who : AccountId) (exempt : Bool)
  | noteOffline (who : AccountId)
  | noteEquivocation (who : AccountId)
  | newSession (env : Environment AccountId)
  | onInitialize
  | advance (block : Nat)

def commitOrRollBack (s : State cfg) : Except Error (State cfg) -> State cfg
  | Except.ok t => t
  | Except.error _ => s

def step (s : State cfg) : Label AccountId -> State cfg
  | Label.lock env origin => commitOrRollBack s (lock env origin s)
  | Label.requestExit origin => commitOrRollBack s (requestExit origin s)
  | Label.setStakeExempt origin who exempt =>
      commitOrRollBack s (setStakeExempt origin who exempt s)
  | Label.noteOffline who => noteOffline who s
  | Label.noteEquivocation who => noteEquivocation who s
  | Label.newSession env => (newSession env s).2
  | Label.onInitialize => (onInitialize s.block s).2
  | Label.advance block => { s with block := block }

/-- Block numbers never go back and stay within their type.  Everything else may
happen at any time. -/
def Allowed (s : State cfg) : Label AccountId -> Prop
  | Label.advance block => s.block ≤ block ∧ block ≤ cfg.maxBlock
  | _ => True

/-- `labels` leads from some genesis of the given initial validators to `s`. -/
def ReachedBy (initialValidators : List AccountId)
    (labels : List (Label AccountId)) (s : State cfg) : Prop :=
  exists g, build cfg initialValidators = some g ∧
    Run Allowed step g labels s

/-!
## Genesis
-/

/-- What genesis leaves: every appointed account holds the seeded record and a
seat, and nothing else has happened. -/
structure GenesisShape (s : State cfg) : Prop where
  block : s.block = 0
  pendingValidators : s.pendingValidators = BoundedVec.empty
  rejoinCooldown : s.rejoinCooldown = StorageMap.empty
  offlineSessionCount : s.offlineSessionCount = StorageMap.empty
  offlineThisSession : s.offlineThisSession = StorageMap.empty
  equivocationThisSession : s.equivocationThisSession = StorageMap.empty
  currency : s.currency = cfg.currency.genesis
  nodup : s.desiredValidators.toList.Nodup
  record : forall who info, s.validatorLocks.get who = some info <->
    who ∈ s.desiredValidators.toList ∧ info = seededLock cfg

theorem blank_genesisShape (cfg : Config AccountId Locks) :
    GenesisShape (blank cfg) := by
  refine ⟨rfl, rfl, rfl, rfl, rfl, rfl, rfl, List.nodup_nil, ?_⟩
  intro who info
  simp [blank]

theorem seedValidator_genesisShape {s t : State cfg} {who : AccountId}
    (hs : GenesisShape s) (h : seedValidator s who = some t) :
    GenesisShape t := by
  unfold seedValidator at h
  by_cases hknown : s.validatorLocks.containsKey who = true
  · rw [if_pos hknown] at h
    cases h
    exact hs
  · rw [if_neg hknown] at h
    by_cases hroom : s.desiredValidators.toList.length < cfg.maxValidators
    · rcases BoundedVec.tryPush_of_lt who hroom with ⟨active, hpush, hlist⟩
      rw [hpush] at h
      cases h
      have hnew : who ∉ s.desiredValidators.toList := by
        intro hmem
        have hget := (hs.record who (seededLock cfg)).mpr ⟨hmem, rfl⟩
        exact hknown (StorageMap.containsKey_eq_true.mpr ⟨_, hget⟩)
      refine ⟨hs.block, hs.pendingValidators, hs.rejoinCooldown,
        hs.offlineSessionCount, hs.offlineThisSession,
        hs.equivocationThisSession, hs.currency, ?_, ?_⟩
      · show active.toList.Nodup
        rw [hlist]
        exact List.Nodup.append hs.nodup (List.nodup_singleton who)
          (List.disjoint_singleton.mpr hnew)
      · intro other info
        show (s.validatorLocks.insert who (seededLock cfg)).get other =
            some info <-> other ∈ active.toList ∧ info = seededLock cfg
        rw [hlist, StorageMap.get_insert]
        by_cases hself : other = who
        · simp [hself, eq_comm]
        · simp [hself, hs.record other info]
    · simp [BoundedVec.tryPush, hroom] at h

theorem build_genesisShape {initialValidators : List AccountId}
    {g : State cfg} (h : build cfg initialValidators = some g) :
    GenesisShape g := by
  have hloop : forall (validators : List AccountId) (s : State cfg),
      GenesisShape s -> seedValidators s validators = some g ->
        GenesisShape g := by
    intro validators
    induction validators with
    | nil =>
        intro s hs hseed
        cases hseed
        exact hs
    | cons who rest ih =>
        intro s hs hseed
        rcases Option.bind_eq_some_iff.mp hseed with ⟨s', hround, hrest⟩
        exact ih s' (seedValidator_genesisShape hs hround) hrest
  exact hloop initialValidators (blank cfg) (blank_genesisShape cfg) h

theorem ReachedBy.invariant (Inv : State cfg -> Prop)
    (hgenesis : forall g, GenesisShape g -> Inv g)
    (hstep : forall s label, Allowed s label -> Inv s -> Inv (step s label))
    {initialValidators : List AccountId} {labels : List (Label AccountId)}
    {s : State cfg} (h : ReachedBy initialValidators labels s) : Inv s := by
  rcases h with ⟨g, hbuild, hrun⟩
  exact hrun.preserves Inv hstep (hgenesis g (build_genesisShape hbuild))

/-!
## The effect of one step
-/

structure LockGuards (env : Environment AccountId) (s : State cfg)
    (who : AccountId) : Prop where
  notDesired : who ∉ s.desiredValidators.toList
  notPending : who ∉ s.pendingValidators.toList
  room : s.desiredValidators.toList.length +
    s.pendingValidators.toList.length < cfg.maxValidators
  keys : env.hasKeys who = true
  identity : env.identityGate who = true
  cooldownOver : inCooldown s who = false
  funded : (lockTerms s who).1 ≤ env.freeBalance who

theorem lock_eq_ok_iff {env : Environment AccountId}
    {origin : Origin AccountId} {s t : State cfg} :
    lock env origin s = Except.ok t <->
      exists who, origin = Origin.signed who ∧ LockGuards env s who ∧
        t = commitLock s who := by
  constructor
  · intro h
    cases origin with
    | root => cases h
    | none => cases h
    | signed who =>
        refine ⟨who, rfl, ?_⟩
        simp only [lock, ensureSigned] at h
        split at h
        · cases h
        · rename_i hmember
          split at h
          · cases h
          · rename_i hroom
            split at h
            · cases h
            · rename_i hkeys
              split at h
              · cases h
              · rename_i hidentity
                split at h
                · cases h
                · rename_i hcooldown
                  split at h
                  · cases h
                  · rename_i hfunded
                    rw [not_or] at hmember
                    exact ⟨⟨hmember.left, hmember.right,
                      add_lt_of_satAdd_lt cfg.maxValidators_le
                        (not_not.mp hroom),
                      Bool.not_eq_false _ ▸ hkeys,
                      Bool.not_eq_false _ ▸ hidentity,
                      Bool.not_eq_true _ ▸ hcooldown,
                      not_not.mp hfunded⟩, (Except.ok.inj h).symm⟩
  · rintro ⟨who, rfl, hguards, rfl⟩
    have hroom : satAdd u32Max s.desiredValidators.toList.length
        s.pendingValidators.toList.length < cfg.maxValidators :=
      Nat.lt_of_le_of_lt (satAdd_le_add _ _ _) hguards.room
    simp [lock, ensureSigned, hguards.notDesired, hguards.notPending, hroom,
      hguards.keys, hguards.identity, hguards.cooldownOver, hguards.funded]

theorem requestExit_eq_ok {origin : Origin AccountId} {s t : State cfg}
    (h : requestExit origin s = Except.ok t) :
    exists who info, origin = Origin.signed who ∧
      s.validatorLocks.get who = some info ∧
      info.status = ValidatorStatus.active ∧ t = commitExit s who info := by
  cases origin with
  | root => cases h
  | none => cases h
  | signed who =>
      simp only [requestExit, ensureSigned] at h
      cases hget : s.validatorLocks.get who with
      | none =>
          rw [hget] at h
          cases h
      | some info =>
          rw [hget] at h
          by_cases hactive : info.status = ValidatorStatus.active
          · simp only [hactive, ne_eq, not_true_eq_false, if_false] at h
            exact ⟨who, info, rfl, hget, hactive, (Except.ok.inj h).symm⟩
          · simp only [ne_eq, hactive, not_false_eq_true, if_true] at h
            cases h

/-- Equal storage apart from the exemption list, the offline reports and the
events. -/
structure SameBesidesReports (s t : State cfg) : Prop where
  block : t.block = s.block
  validatorLocks : t.validatorLocks = s.validatorLocks
  pendingValidators : t.pendingValidators = s.pendingValidators
  desiredValidators : t.desiredValidators = s.desiredValidators
  rejoinCooldown : t.rejoinCooldown = s.rejoinCooldown
  offlineSessionCount : t.offlineSessionCount = s.offlineSessionCount
  equivocationThisSession :
    t.equivocationThisSession = s.equivocationThisSession
  currency : t.currency = s.currency

omit [DecidableEq AccountId] in
theorem SameBesidesReports.refl (s : State cfg) : SameBesidesReports s s := by
  constructor <;> rfl

/-- The flag a first equivocation report of the session leaves. -/
def flagEquivocation (s : State cfg) (who : AccountId) : State cfg :=
  { s with
    equivocationThisSession :=
      s.equivocationThisSession.insert who () }.depositEvent
        (Event.equivocationReported who)

inductive StepCase (s : State cfg) : Label AccountId -> State cfg -> Prop where
  | locked (env : Environment AccountId) (who : AccountId) :
      LockGuards env s who ->
      StepCase s (Label.lock env (Origin.signed who)) (commitLock s who)
  | exited (who : AccountId) (info : LockInfo) :
      s.validatorLocks.get who = some info ->
      info.status = ValidatorStatus.active ->
      StepCase s (Label.requestExit (Origin.signed who)) (commitExit s who info)
  | flagged (who : AccountId) :
      s.isActive who = true ->
      StepCase s (Label.noteEquivocation who) (flagEquivocation s who)
  | boundary (env : Environment AccountId) :
      StepCase s (Label.newSession env) (newSession env s).2
  | swept : StepCase s Label.onInitialize (onInitialize s.block s).2
  | advanced (block : Nat) :
      s.block ≤ block -> block ≤ cfg.maxBlock ->
      StepCase s (Label.advance block) { s with block := block }
  | idle (label : Label AccountId) (t : State cfg) :
      SameBesidesReports s t -> StepCase s label t

theorem step_cases {s : State cfg} {label : Label AccountId}
    (hallowed : Allowed s label) : StepCase s label (step s label) := by
  cases label with
  | lock env origin =>
      cases h : lock env origin s with
      | error error =>
          simp only [step, h, commitOrRollBack]
          exact StepCase.idle _ _ (SameBesidesReports.refl s)
      | ok t =>
          simp only [step, h, commitOrRollBack]
          rcases lock_eq_ok_iff.mp h with ⟨who, rfl, hguards, rfl⟩
          exact StepCase.locked env who hguards
  | requestExit origin =>
      cases h : requestExit origin s with
      | error error =>
          simp only [step, h, commitOrRollBack]
          exact StepCase.idle _ _ (SameBesidesReports.refl s)
      | ok t =>
          simp only [step, h, commitOrRollBack]
          rcases requestExit_eq_ok h with ⟨who, info, rfl, hget, hactive, rfl⟩
          exact StepCase.exited who info hget hactive
  | setStakeExempt origin who exempt =>
      apply StepCase.idle
      simp only [step, setStakeExempt]
      split
      · exact SameBesidesReports.refl s
      · constructor <;> rfl
  | noteOffline who =>
      apply StepCase.idle
      simp only [step, noteOffline]
      split
      · constructor <;> rfl
      · exact SameBesidesReports.refl s
  | noteEquivocation who =>
      simp only [step, noteEquivocation]
      split
      · exact StepCase.idle _ _ (SameBesidesReports.refl s)
      · rename_i hactive
        split
        · exact StepCase.idle _ _ (SameBesidesReports.refl s)
        · exact StepCase.flagged who (Bool.not_eq_false _ ▸ hactive)
  | newSession env =>
      exact StepCase.boundary env
  | onInitialize =>
      exact StepCase.swept
  | advance block =>
      exact StepCase.advanced block hallowed.left hallowed.right

/-!
## The effect on one record
-/

def freshLock (s : State cfg) (who : AccountId) : LockInfo :=
  { amount := (lockTerms s who).1
    lockBlock := s.block
    expiryBlock := (lockTerms s who).2
    status := ValidatorStatus.active }

inductive RecordCase (s : State cfg) (who : AccountId) :
    Label AccountId -> Option LockInfo -> Prop where
  | kept (label : Label AccountId) :
      RecordCase s who label (s.validatorLocks.get who)
  | locked (env : Environment AccountId) :
      LockGuards env s who ->
      RecordCase s who (Label.lock env (Origin.signed who))
        (some (freshLock s who))
  | exited (info : LockInfo) :
      s.validatorLocks.get who = some info ->
      info.status = ValidatorStatus.active ->
      RecordCase s who (Label.requestExit (Origin.signed who))
        (some { info with status := ValidatorStatus.exitRequested })
  | swept :
      RecordCase s who Label.onInitialize
        ((s.validatorLocks.get who).bind (sweepLock cfg s.block))
  | removed (env : Environment AccountId) (info : LockInfo)
      (status : ValidatorStatus) :
      s.validatorLocks.get who = some info ->
      info.status = ValidatorStatus.active ->
      status ≠ ValidatorStatus.active ->
      RecordCase s who (Label.newSession env)
        (some { info with status := status })

theorem get_commitLock (s : State cfg) (who other : AccountId) :
    (commitLock s who).validatorLocks.get other =
      if other = who then some (freshLock s who)
      else s.validatorLocks.get other :=
  StorageMap.get_insert _ _ _ _

theorem get_commitExit (s : State cfg) (who other : AccountId)
    (info : LockInfo) :
    (commitExit s who info).validatorLocks.get other =
      if other = who then
        some { info with status := ValidatorStatus.exitRequested }
      else s.validatorLocks.get other :=
  StorageMap.get_insert _ _ _ _

theorem LockGuards.pendingValidators {env : Environment AccountId}
    {s : State cfg} {who : AccountId} (h : LockGuards env s who) :
    (commitLock s who).pendingValidators.toList =
      s.pendingValidators.toList ++ [who] := by
  refine BoundedVec.toList_pushOrDrop_of_lt who ?_
  have := h.room
  lia

theorem isActive_commitLock (s : State cfg) (who other : AccountId) :
    (commitLock s who).isActive other =
      if other = who then true else s.isActive other := by
  unfold State.isActive
  rw [get_commitLock]
  by_cases hself : other = who
  · simp [hself, freshLock]
  · simp [hself]

theorem isActive_commitExit (s : State cfg) (who other : AccountId)
    (info : LockInfo) :
    (commitExit s who info).isActive other =
      if other = who then false else s.isActive other := by
  unfold State.isActive
  rw [get_commitExit]
  by_cases hself : other = who
  · simp [hself]
  · simp [hself]

theorem step_record {s : State cfg} {label : Label AccountId}
    (hallowed : Allowed s label) (who : AccountId) :
    RecordCase s who label ((step s label).validatorLocks.get who) := by
  have hcase := step_cases hallowed
  generalize step s label = t at hcase ⊢
  cases hcase with
  | locked env caller hguards =>
      rw [get_commitLock]
      by_cases hself : who = caller
      · subst hself
        rw [if_pos rfl]
        exact RecordCase.locked env hguards
      · rw [if_neg hself]
        exact RecordCase.kept _
  | exited caller info hget hactive =>
      rw [get_commitExit]
      by_cases hself : who = caller
      · subst hself
        rw [if_pos rfl]
        exact RecordCase.exited info hget hactive
      · rw [if_neg hself]
        exact RecordCase.kept _
  | flagged reported hactive =>
      exact RecordCase.kept _
  | boundary env =>
      rcases (newSession_effect env s).account who with
        (⟨hlock, _⟩ | ⟨info, hget, hactive, hkicked, _⟩) |
        ⟨_, info, hget, hactive, hdropped⟩
      · rw [hlock]
        exact RecordCase.kept _
      · rw [hkicked]
        exact RecordCase.removed env info _ hget hactive (by simp)
      · rw [hdropped]
        exact RecordCase.removed env info _ hget hactive (by simp)
  | swept =>
      rw [get_onInitialize]
      exact RecordCase.swept
  | advanced block hle hmax =>
      exact RecordCase.kept _
  | idle label t hsame =>
      rw [hsame.validatorLocks]
      exact RecordCase.kept _

theorem step_isActive {s : State cfg} {label : Label AccountId}
    (hallowed : Allowed s label) {who : AccountId}
    (hactive : (step s label).isActive who = true) :
    s.isActive who = true ∨
      exists env, label = Label.lock env (Origin.signed who) ∧
        LockGuards env s who := by
  rcases State.isActive_eq_true.mp hactive with ⟨info, hget, hstatus⟩
  have hrecord := step_record hallowed who
  rw [hget] at hrecord
  generalize hafter : some info = after at hrecord
  cases hrecord with
  | kept label =>
      exact Or.inl (State.isActive_eq_true.mpr ⟨info, hafter.symm, hstatus⟩)
  | locked env hguards =>
      exact Or.inr ⟨env, rfl, hguards⟩
  | exited before hbefore hactive' =>
      exact Or.inl (State.isActive_eq_true.mpr ⟨before, hbefore, hactive'⟩)
  | swept =>
      rcases Option.bind_eq_some_iff.mp hafter.symm with
        ⟨before, hbefore, hsweep⟩
      exact Or.inl (State.isActive_eq_true.mpr
        ⟨before, hbefore, (sweepLock_status hsweep).symm.trans hstatus⟩)
  | removed env before status hbefore hactive' hstatus' =>
      exact Or.inl (State.isActive_eq_true.mpr ⟨before, hbefore, hactive'⟩)

theorem block_le_step {s : State cfg} {label : Label AccountId}
    (hallowed : Allowed s label) : s.block ≤ (step s label).block := by
  have hcase := step_cases hallowed
  generalize step s label = t at hcase ⊢
  cases hcase with
  | locked env who hguards => exact Nat.le_refl _
  | exited who info hget hactive => exact Nat.le_refl _
  | flagged who hactive => exact Nat.le_refl _
  | boundary env => exact Nat.le_of_eq (newSession_effect env s).block.symm
  | swept => exact Nat.le_of_eq (onInitialize_sameBesidesLocks _ s).block.symm
  | advanced block hle hmax => exact hle
  | idle label t hsame => exact Nat.le_of_eq hsame.block.symm

/-!
## A small instance

The constants of the pallet's mock runtime, over a currency that keeps its
locks in a map.
-/

/-- A currency that stores one amount per identifier and account. -/
def mapCurrency :
    LockableCurrency AccountId (StorageMap (LockIdentifier × AccountId) Nat) :=
  { genesis := StorageMap.empty
    setLock := fun id who amount locks =>
      if amount = 0 then locks.remove (id, who)
      else locks.insert (id, who) amount
    removeLock := fun id who locks => locks.remove (id, who)
    lockOf := fun id who locks => locks.get (id, who) }

theorem mapCurrency_lawful :
    (mapCurrency : LockableCurrency AccountId _).Lawful := by
  constructor
  · intro id who
    exact StorageMap.get_empty (id, who)
  · intro id who amount locks
    show (if amount = 0 then locks.remove (id, who)
      else locks.insert (id, who) amount).get (id, who) = _
    split
    · exact StorageMap.get_remove_self _ _
    · exact StorageMap.get_insert_self _ _ _
  · intro id who who' amount locks hne
    have hkey : (id, who') ≠ (id, who) := by simp [hne]
    show (if amount = 0 then locks.remove (id, who)
      else locks.insert (id, who) amount).get (id, who') = _
    split
    · exact StorageMap.get_remove_of_ne _ hkey
    · exact StorageMap.get_insert_of_ne _ _ hkey
  · intro id who locks
    exact StorageMap.get_remove_self _ _
  · intro id who who' locks hne
    have hkey : (id, who') ≠ (id, who) := by simp [hne]
    exact StorageMap.get_remove_of_ne _ hkey

def mockConfig : Config Nat (StorageMap (LockIdentifier × Nat) Nat) :=
  { currency := mapCurrency
    lockAmount := 1000
    exemptOrigin := fun origin => decide (origin = Origin.root)
    lockDuration := 10
    -- the bytes of `validatr`
    lockId := Vector.mk (List.toArray [118, 97, 108, 105, 100, 97, 116, 114]) rfl
    maxValidators := 3
    renewInterval := 5
    offlineThreshold := 2
    rejoinCooldownPeriod := 20
    maxBlock := 2 ^ 64 - 1
    maxValidators_le := by decide
    offlineThreshold_le := by decide
    lockDuration_le := by decide
    rejoinCooldownPeriod_le := by decide }

/-- Everybody has keys, an identity and 5000 units to lock. -/
def mockEnvironment : Environment Nat :=
  { hasKeys := fun _ => true
    identityGate := fun _ => true
    freeBalance := fun _ => 5000 }

/-- Genesis with account 1 appointed. -/
def mockGenesis : State mockConfig :=
  (build mockConfig [1]).getD (blank mockConfig)

theorem build_mockGenesis : build mockConfig [1] = some mockGenesis := rfl

end Validator
end Numen
