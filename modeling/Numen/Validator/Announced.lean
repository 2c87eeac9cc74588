import Numen.Validator.Kicks

/-!
# What the session pallet was told

`new_session` answers `None` both when the set is unchanged and when it has been
emptied, and it compares the new set with the stored one only.  The session
pallet keeps the last set it was handed, so the two views agree only if no
sequence of exits, empty sessions and joins makes them drift apart.
-/

namespace Numen
namespace Validator

open Foundation

variable {AccountId Locks : Type} [DecidableEq AccountId]
variable {cfg : Config AccountId Locks}

/-!
## The set genesis seats
-/

theorem mem_seedValidator {s t : State cfg} {who : AccountId}
    (hs : GenesisShape s) (h : seedValidator s who = some t)
    (other : AccountId) :
    other ∈ t.desiredValidators.toList <->
      other ∈ s.desiredValidators.toList ∨ other = who := by
  unfold seedValidator at h
  by_cases hknown : s.validatorLocks.containsKey who = true
  · rw [if_pos hknown] at h
    cases h
    rcases StorageMap.containsKey_eq_true.mp hknown with ⟨info, hget⟩
    have hseated := ((hs.record who info).mp hget).left
    constructor
    · intro hmem
      exact Or.inl hmem
    · rintro (hmem | rfl)
      · exact hmem
      · exact hseated
  · rw [if_neg hknown] at h
    rcases Option.map_eq_some_iff.mp h with ⟨active, hpush, rfl⟩
    have hlist : s.desiredValidators.pushOrDrop who = active := by
      rw [BoundedVec.pushOrDrop, hpush]
      rfl
    have hroom : s.desiredValidators.toList.length < cfg.maxValidators := by
      by_contra hfull
      simp [BoundedVec.tryPush, hfull] at hpush
    show other ∈ active.toList <-> _
    rw [← hlist, BoundedVec.toList_pushOrDrop_of_lt who hroom]
    simp

theorem mem_build {initialValidators : List AccountId} {g : State cfg}
    (h : build cfg initialValidators = some g) (who : AccountId) :
    who ∈ g.desiredValidators.toList <-> who ∈ initialValidators := by
  have hloop : forall (validators : List AccountId) (s : State cfg),
      GenesisShape s -> seedValidators s validators = some g ->
        (who ∈ g.desiredValidators.toList <->
          who ∈ s.desiredValidators.toList ∨ who ∈ validators) := by
    intro validators
    induction validators with
    | nil =>
        intro s hs hseed
        cases hseed
        simp
    | cons first rest ih =>
        intro s hs hseed
        rcases Option.bind_eq_some_iff.mp hseed with ⟨s', hround, hrest⟩
        rw [ih s' (seedValidator_genesisShape hs hround) hrest,
          mem_seedValidator hs hround, List.mem_cons, or_assoc]
  have hall := hloop initialValidators (blank cfg) (blank_genesisShape cfg) h
  simpa [blank] using hall

/-!
## The session pallet beside the validator pallet
-/

/-- The pallet, the set most recently returned to the session pallet, and the
sets stored at genesis and by every boundary since, the latest first. -/
structure Announced (cfg : Config AccountId Locks) where
  pallet : State cfg
  told : Option (List AccountId)
  sets : List (List AccountId)

namespace Announced

/-- The session pallet is told the genesis set when the chain is built. -/
def genesis (g : State cfg) : Announced cfg :=
  { pallet := g
    told := newSessionGenesis g
    sets := [g.desiredValidators.toList] }

/-- A boundary that returns nothing leaves the session pallet with what it was
told before. -/
def step (a : Announced cfg) : Label AccountId -> Announced cfg
  | Label.newSession env =>
      { pallet := (newSession env a.pallet).2
        told := (newSession env a.pallet).1.or a.told
        sets := (newSession env a.pallet).2.desiredValidators.toList :: a.sets }
  | label => { a with pallet := Validator.step a.pallet label }

def ReachedBy (initialValidators : List AccountId)
    (labels : List (Label AccountId)) (a : Announced cfg) : Prop :=
  exists g, build cfg initialValidators = some g ∧
    Run (fun a : Announced cfg => Allowed a.pallet) step (genesis g) labels a

def lastNonEmpty (a : Announced cfg) : Option (List AccountId) :=
  a.sets.find? (fun set => !set.isEmpty)

end Announced

/-!
## The answers of a boundary
-/

/-- The three answers of `new_session`: the set is unchanged, it has been
emptied, or it is handed over. -/
theorem newSession_cases (env : Environment AccountId) (s : State cfg) :
    ((newSession env s).1 = none ∧
      (newSession env s).2.desiredValidators.toList =
        s.desiredValidators.toList) ∨
    ((newSession env s).1 = none ∧
      (newSession env s).2.desiredValidators.toList = []) ∨
    ((newSession env s).1 =
        some (newSession env s).2.desiredValidators.toList ∧
      (newSession env s).2.desiredValidators.toList ≠
        s.desiredValidators.toList ∧
      (newSession env s).2.desiredValidators.toList ≠ []) := by
  have hprevious := (afterKicks_effect s).desiredValidators
  change (afterKicks s).desiredValidators = s.desiredValidators at hprevious
  rw [newSession_state]
  unfold newSession
  dsimp only
  rw [hprevious]
  split
  · rename_i hsame
    exact Or.inl ⟨rfl, congrArg BoundedVec.toList hsame⟩
  · rename_i hchanged
    split
    · rename_i hemptied
      exact Or.inr (Or.inl ⟨rfl, hemptied.left⟩)
    · rename_i hkept
      have hlists : (promoteCandidates env (afterKicks s)).1.toList ≠
          s.desiredValidators.toList := by
        intro heq
        exact hchanged (BoundedVec.ext_toList heq)
      refine Or.inr (Or.inr ⟨rfl, hlists, ?_⟩)
      -- an empty set after an empty set counts as unchanged
      intro hempty
      apply hkept
      refine ⟨hempty, ?_⟩
      intro hbefore
      exact hlists (hempty.trans hbefore.symm)

/-!
## The two views never drift apart
-/

namespace Announced

/-- The session pallet was told a set with a member, the last such set stored,
and the latest set on record is the one in storage. -/
structure InStep (a : Announced cfg) : Prop where
  latest : a.sets.head? = some a.pallet.desiredValidators.toList
  told : a.told.isSome = true
  told_eq : a.told = a.lastNonEmpty

theorem lastNonEmpty_newSession (a : Announced cfg)
    (env : Environment AccountId) :
    (a.step (Label.newSession env)).lastNonEmpty =
      if (newSession env a.pallet).2.desiredValidators.toList = [] then
        a.lastNonEmpty
      else
        some (newSession env a.pallet).2.desiredValidators.toList := by
  show List.find? _
    ((newSession env a.pallet).2.desiredValidators.toList :: a.sets) = _
  cases (newSession env a.pallet).2.desiredValidators.toList with
  | nil => rfl
  | cons who rest => rfl

omit [DecidableEq AccountId] in
theorem InStep.lastNonEmpty_eq {a : Announced cfg} (ha : InStep a)
    (hset : a.pallet.desiredValidators.toList ≠ []) :
    a.lastNonEmpty = some a.pallet.desiredValidators.toList := by
  have hlatest := ha.latest
  unfold lastNonEmpty
  cases hsets : a.sets with
  | nil =>
      rw [hsets] at hlatest
      cases hlatest
  | cons set earlier =>
      rw [hsets, List.head?_cons] at hlatest
      cases hlatest
      cases hlist : a.pallet.desiredValidators.toList with
      | nil => exact absurd hlist hset
      | cons who rest => rfl

theorem genesis_inStep {initialValidators : List AccountId} {g : State cfg}
    (h : build cfg initialValidators = some g)
    (hinitial : initialValidators ≠ []) : InStep (genesis g) := by
  rcases List.exists_mem_of_ne_nil _ hinitial with ⟨who, hmem⟩
  have hset : g.desiredValidators.toList ≠ [] :=
    List.ne_nil_of_mem ((mem_build h who).mpr hmem)
  refine ⟨rfl, rfl, ?_⟩
  cases hlist : g.desiredValidators.toList with
  | nil => exact absurd hlist hset
  | cons first rest =>
      simp [genesis, newSessionGenesis, lastNonEmpty, hlist]

theorem step_inStep {a : Announced cfg} {label : Label AccountId}
    (hallowed : Allowed a.pallet label) (ha : InStep a) :
    InStep (step a label) := by
  have hother : ¬ label.IsBoundary ->
      InStep { a with pallet := Validator.step a.pallet label } := by
    intro hlabel
    refine ⟨?_, ha.told, ha.told_eq⟩
    rw [(step_within_session hallowed hlabel).left]
    exact ha.latest
  cases label with
  | newSession env =>
      refine ⟨rfl, ?_, ?_⟩
      · show ((newSession env a.pallet).1.or a.told).isSome = true
        rw [Option.isSome_or, ha.told, Bool.or_true]
      · show (newSession env a.pallet).1.or a.told = lastNonEmpty _
        rw [lastNonEmpty_newSession]
        rcases newSession_cases env a.pallet with
          ⟨hnone, hsame⟩ | ⟨hnone, hempty⟩ | ⟨hsome, _, hset⟩
        · rw [hnone, Option.none_or, ha.told_eq, hsame]
          split
          · rfl
          · rename_i hset
            exact ha.lastNonEmpty_eq hset
        · rw [hnone, Option.none_or, ha.told_eq, if_pos hempty]
        · rw [hsome, Option.some_or, if_neg hset]
  | lock env origin => exact hother id
  | requestExit origin => exact hother id
  | setStakeExempt origin who exempt => exact hother id
  | noteOffline who => exact hother id
  | noteEquivocation who => exact hother id
  | onInitialize => exact hother id
  | advance block => exact hother id

theorem ReachedBy.inStep {initialValidators : List AccountId}
    {labels : List (Label AccountId)} {a : Announced cfg}
    (h : ReachedBy initialValidators labels a)
    (hinitial : initialValidators ≠ []) : InStep a := by
  rcases h with ⟨g, hbuild, hrun⟩
  exact hrun.preserves InStep (fun _ _ => step_inStep)
    (genesis_inStep hbuild hinitial)

/-- From a genesis with a member on, the session pallet has always been told a
set with a member: the stored set, or the last non-empty one while the stored
set is empty.  No boundary returns an empty set, and the first non-empty set
after an empty one is always returned. -/
theorem session_pallet_follows_the_set
    {initialValidators : List AccountId} {labels : List (Label AccountId)}
    {a : Announced cfg} (ha : ReachedBy initialValidators labels a)
    (hinitial : initialValidators ≠ []) :
    (exists set, a.told = some set ∧ set ≠ [] ∧
      (a.pallet.desiredValidators.toList ≠ [] ->
        set = a.pallet.desiredValidators.toList) ∧
      (a.pallet.desiredValidators.toList = [] ->
        a.lastNonEmpty = some set)) ∧
    forall env, (newSession env a.pallet).1 ≠ some [] ∧
      (a.pallet.desiredValidators.toList = [] ->
        (newSession env a.pallet).2.desiredValidators.toList ≠ [] ->
        (newSession env a.pallet).1 =
          some (newSession env a.pallet).2.desiredValidators.toList) := by
  have hinstep := ha.inStep hinitial
  constructor
  · rcases Option.isSome_iff_exists.mp hinstep.told with ⟨set, htold⟩
    have hlast : a.lastNonEmpty = some set := hinstep.told_eq.symm.trans htold
    refine ⟨set, htold, ?_, ?_, fun _ => hlast⟩
    · have hfound := List.find?_some hlast
      simpa using hfound
    · intro hset
      rw [hinstep.lastNonEmpty_eq hset] at hlast
      exact (Option.some.inj hlast).symm
  · intro env
    rcases newSession_cases env a.pallet with
      ⟨hnone, hsame⟩ | ⟨hnone, hempty⟩ | ⟨hsome, _, hset⟩
    · rw [hnone, hsame]
      exact ⟨by simp, fun hbefore hafter => absurd hbefore hafter⟩
    · rw [hnone]
      exact ⟨by simp, fun _ hafter => absurd hempty hafter⟩
    · rw [hsome]
      exact ⟨by simpa using hset, fun _ _ => rfl⟩

/-- The only member leaves and the set runs empty, then the same account joins
again: the session pallet still holds the old set, and the boundary returns it
although the two are equal. -/
theorem rejoining_member_is_announced_again :
    let emptied := (genesis mockGenesis).step
      (Label.requestExit (Origin.signed 1)) |>.step
      (Label.newSession mockEnvironment)
    let rejoined := emptied.step (Label.lock mockEnvironment (Origin.signed 1))
    emptied.pallet.desiredValidators.toList = [] ∧
      emptied.told = some [1] ∧
      (newSession mockEnvironment rejoined.pallet).1 = some [1] := by
  intro emptied rejoined
  have hemptied : ReachedBy [1]
      [Label.requestExit (Origin.signed 1), Label.newSession mockEnvironment]
      emptied :=
    ⟨mockGenesis, build_mockGenesis,
      Run.cons True.intro (Run.single True.intro)⟩
  have hrejoined : ReachedBy [1]
      [Label.requestExit (Origin.signed 1), Label.newSession mockEnvironment,
        Label.lock mockEnvironment (Origin.signed 1)] rejoined :=
    ⟨mockGenesis, build_mockGenesis, Run.cons True.intro
      (Run.cons True.intro (Run.single True.intro))⟩
  have hempty : emptied.pallet.desiredValidators.toList = [] := by
    decide +kernel
  refine ⟨hempty, ?_, ?_⟩
  · rcases (session_pallet_follows_the_set hemptied (by simp)).left with
      ⟨set, htold, _, _, hlast⟩
    rw [htold, ← hlast hempty]
    decide +kernel
  · have hanswer := ((session_pallet_follows_the_set hrejoined
      (by simp)).right mockEnvironment).right (by decide +kernel)
      (by decide +kernel)
    rw [hanswer]
    decide +kernel

end Announced

end Validator
end Numen
