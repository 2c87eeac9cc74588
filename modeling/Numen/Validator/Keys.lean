import Numen.Validator.Announced
import Numen.Validator.Kicks
import Numen.Validator.Seats
import Numen.Validator.Streaks

/-!
# Session keys of the validator set

Session keys live in the session pallet, where any account registers and purges
them at any time.  A boundary asks for the keys of the candidates it promotes
but not for those of the members it keeps, so a member that purges its keys is
handed to the session pallet without any.
-/

namespace Numen
namespace Validator

open Foundation

variable {AccountId Locks Keys : Type} [DecidableEq AccountId]
variable {cfg : Config AccountId Locks}

/-!
## The pallet next to the key registry
-/

/-- The pallet and the registry of session keys beside it. -/
structure Registered (cfg : Config AccountId Locks) (Keys : Type) where
  pallet : State cfg
  nextKeys : StorageMap AccountId Keys

inductive KeyLabel (AccountId Keys : Type) where
  | setKeys (who : AccountId) (keys : Keys)
  | purgeKeys (who : AccountId)
  | pallet (label : Label AccountId)

namespace Registered

/-- `ValidatorSessionAdapter::has_keys`. -/
def hasKeys (r : Registered cfg Keys) (who : AccountId) : Bool :=
  r.nextKeys.containsKey who

/-- The registry answers for the keys, the rest is as it comes. -/
def environment (r : Registered cfg Keys) (env : Environment AccountId) :
    Environment AccountId :=
  { env with hasKeys := r.hasKeys }

def answered (r : Registered cfg Keys) : Label AccountId -> Label AccountId
  | Label.lock env origin => Label.lock (r.environment env) origin
  | Label.newSession env => Label.newSession (r.environment env)
  | label => label

def genesis (g : State cfg) (nextKeys : StorageMap AccountId Keys) :
    Registered cfg Keys :=
  { pallet := g
    nextKeys := nextKeys }

def step (r : Registered cfg Keys) :
    KeyLabel AccountId Keys -> Registered cfg Keys
  | KeyLabel.setKeys who keys =>
      { r with nextKeys := r.nextKeys.insert who keys }
  | KeyLabel.purgeKeys who =>
      { r with nextKeys := r.nextKeys.remove who }
  | KeyLabel.pallet label =>
      { r with pallet := Validator.step r.pallet (r.answered label) }

def Allowed (r : Registered cfg Keys) : KeyLabel AccountId Keys -> Prop
  | KeyLabel.pallet label => Validator.Allowed r.pallet (r.answered label)
  | _ => True

def ReachedBy (initialValidators : List AccountId)
    (initialKeys : StorageMap AccountId Keys)
    (labels : List (KeyLabel AccountId Keys)) (r : Registered cfg Keys) :
    Prop :=
  exists g, build cfg initialValidators = some g ∧
    Run Allowed step (genesis g initialKeys) labels r

theorem hasKeys_setKeys (r : Registered cfg Keys) (who other : AccountId)
    (keys : Keys) :
    (r.step (KeyLabel.setKeys who keys)).hasKeys other =
      if other = who then true else r.hasKeys other := by
  show ((r.nextKeys.insert who keys).get other).isSome = _
  rw [StorageMap.get_insert]
  split
  · rfl
  · rfl

theorem hasKeys_purgeKeys (r : Registered cfg Keys) (who other : AccountId) :
    (r.step (KeyLabel.purgeKeys who)).hasKeys other =
      if other = who then false else r.hasKeys other := by
  show ((r.nextKeys.remove who).get other).isSome = _
  rw [StorageMap.get_remove]
  split
  · rfl
  · rfl

theorem step_pallet_seats {r : Registered cfg Keys}
    {label : KeyLabel AccountId Keys} (hallowed : r.Allowed label)
    (hr : Seats r.pallet) : Seats (r.step label).pallet := by
  cases label with
  | setKeys who keys => exact hr
  | purgeKeys who => exact hr
  | pallet label => exact step_seats hallowed hr

theorem ReachedBy.seats {initialValidators : List AccountId}
    {initialKeys : StorageMap AccountId Keys}
    {labels : List (KeyLabel AccountId Keys)} {r : Registered cfg Keys}
    (h : r.ReachedBy initialValidators initialKeys labels) :
    Seats r.pallet := by
  rcases h with ⟨g, hbuild, hrun⟩
  exact hrun.preserves (fun r => Seats r.pallet)
    (fun _ _ => step_pallet_seats)
    (genesis_seats (build_genesisShape hbuild))

/-!
## What the session pallet is handed
-/

/-- The new set is made of the members the kicks spare, whose keys nobody asks
for, and of candidates with keys. -/
theorem mem_newSession_iff {r : Registered cfg Keys} (hr : Seats r.pallet)
    (env : Environment AccountId) {who : AccountId} :
    who ∈ (newSession (r.environment env)
        r.pallet).2.desiredValidators.toList <->
      (who ∈ r.pallet.desiredValidators.toList ∧
        (afterKicks r.pallet).isActive who = true) ∨
      (who ∈ r.pallet.pendingValidators.toList ∧
        (afterKicks r.pallet).isActive who = true ∧
        r.hasKeys who = true) := by
  rw [toList_newSession hr, List.mem_append, List.mem_filter, List.mem_filter,
    Bool.and_eq_true_iff]
  rfl

theorem eq_stored_of_newSession {env : Environment AccountId} {s : State cfg}
    {set : List AccountId} (h : (newSession env s).1 = some set) :
    set = (newSession env s).2.desiredValidators.toList := by
  rcases newSession_cases env s with ⟨hnone, _⟩ | ⟨hnone, _⟩ | ⟨hsome, _⟩
  · rw [hnone] at h
    cases h
  · rw [hnone] at h
    cases h
  · rw [hsome] at h
    exact (Option.some.inj h).symm

theorem isActive_afterKicks_iff {s : State cfg} (hs : Seats s)
    {who : AccountId} (hmem : who ∈ s.desiredValidators.toList) :
    (afterKicks s).isActive who = true <->
      s.isActive who = true ∧
        s.equivocationThisSession.containsKey who = false ∧
        (s.duty who).overdue cfg.offlineThreshold = false := by
  rw [isActive_afterKicks hs hmem, Bool.and_eq_true_iff,
    State.accountable_eq_true, Bool.not_eq_true']
  constructor
  · rintro ⟨⟨_, hactive, hflag⟩, hoverdue⟩
    exact ⟨hactive, hflag, hoverdue⟩
  · rintro ⟨hactive, hflag, hoverdue⟩
    exact ⟨⟨hmem, hactive, hflag⟩, hoverdue⟩

/-- The accounts a boundary returns all have keys exactly if, before it, every
seated account that is `Active`, has not been caught equivocating and is not
overdue has them.  One that is new in the set always has keys. -/
theorem returned_accounts_have_keys_iff
    {initialValidators : List AccountId}
    {initialKeys : StorageMap AccountId Keys}
    {labels : List (KeyLabel AccountId Keys)} {r : Registered cfg Keys}
    (hr : r.ReachedBy initialValidators initialKeys labels)
    {env : Environment AccountId} {set : List AccountId}
    (hset : (newSession (r.environment env) r.pallet).1 = some set) :
    ((∀ who ∈ set, r.hasKeys who = true) <->
      ∀ who ∈ r.pallet.desiredValidators.toList,
        r.pallet.isActive who = true ->
        r.pallet.equivocationThisSession.containsKey who = false ->
        (r.pallet.duty who).overdue cfg.offlineThreshold = false ->
          r.hasKeys who = true) ∧
      ∀ who ∈ set, who ∉ r.pallet.desiredValidators.toList ->
        r.hasKeys who = true := by
  have hseats := hr.seats
  rw [eq_stored_of_newSession hset]
  refine ⟨⟨?_, ?_⟩, ?_⟩
  · intro hkeys who hmem hactive hflag hoverdue
    refine hkeys who ((mem_newSession_iff hseats env).mpr (Or.inl ⟨hmem, ?_⟩))
    exact (isActive_afterKicks_iff hseats hmem).mpr ⟨hactive, hflag, hoverdue⟩
  · intro hmembers who hmem
    rcases (mem_newSession_iff hseats env).mp hmem with
      ⟨hseat, hspared⟩ | ⟨_, _, hkeys⟩
    · rcases (isActive_afterKicks_iff hseats hseat).mp hspared with
        ⟨hactive, hflag, hoverdue⟩
      exact hmembers who hseat hactive hflag hoverdue
    · exact hkeys
  · intro who hmem hnew
    rcases (mem_newSession_iff hseats env).mp hmem with
      ⟨hseat, _⟩ | ⟨_, _, hkeys⟩
    · exact absurd hseat hnew
    · exact hkeys

/-- Accounts 1 and 2 have registered keys. -/
def mockKeys : StorageMap Nat Nat :=
  (StorageMap.empty.insert 1 11).insert 2 22

/-- Account 1 sits and account 2 has queued up. -/
theorem keyed_set_is_returned :
    let queued := (genesis mockGenesis mockKeys).step
      (KeyLabel.pallet (Label.lock mockEnvironment (Origin.signed 2)))
    (newSession (queued.environment mockEnvironment) queued.pallet).1 =
        some [1, 2] ∧
      ∀ who ∈ [1, 2], queued.hasKeys who = true := by
  intro queued
  have hreached : queued.ReachedBy [1] mockKeys
      [KeyLabel.pallet (Label.lock mockEnvironment (Origin.signed 2))] :=
    ⟨mockGenesis, build_mockGenesis, Run.single True.intro⟩
  have hset : (newSession (queued.environment mockEnvironment)
      queued.pallet).1 = some [1, 2] := by
    decide +kernel
  have hmembers : ∀ who ∈ queued.pallet.desiredValidators.toList,
      queued.hasKeys who = true := by
    decide +kernel
  refine ⟨hset, (returned_accounts_have_keys_iff hreached hset).left.mpr ?_⟩
  intro who hmem _ _ _
  exact hmembers who hmem

/-- The same, but account 1 purges its keys first. -/
theorem purged_member_is_returned :
    let purged := (genesis mockGenesis mockKeys).step (KeyLabel.purgeKeys 1)
    let queued := purged.step
      (KeyLabel.pallet (Label.lock mockEnvironment (Origin.signed 2)))
    queued.ReachedBy [1] mockKeys [KeyLabel.purgeKeys 1,
        KeyLabel.pallet (Label.lock mockEnvironment (Origin.signed 2))] ∧
      (newSession (queued.environment mockEnvironment) queued.pallet).1 =
        some [1, 2] ∧
      queued.hasKeys 1 = false := by
  intro purged queued
  refine ⟨⟨mockGenesis, build_mockGenesis,
    Run.cons True.intro (Run.single True.intro)⟩, ?_, ?_⟩
  · decide +kernel
  · decide +kernel

/-!
## Careful members
-/

def Careful (r : Registered cfg Keys) (label : KeyLabel AccountId Keys) :
    Prop :=
  r.Allowed label ∧ forall who, label = KeyLabel.purgeKeys who ->
    who ∉ r.pallet.desiredValidators.toList

def Keyed (r : Registered cfg Keys) : Prop :=
  ∀ who ∈ r.pallet.desiredValidators.toList, r.hasKeys who = true

theorem step_keyed {r : Registered cfg Keys}
    {label : KeyLabel AccountId Keys} (hcareful : r.Careful label)
    (hseats : Seats r.pallet) (hr : r.Keyed) : (r.step label).Keyed := by
  intro who hmem
  cases label with
  | setKeys other keys =>
      rw [hasKeys_setKeys]
      split
      · rfl
      · exact hr who hmem
  | purgeKeys other =>
      rw [hasKeys_purgeKeys, if_neg]
      · exact hr who hmem
      · rintro rfl
        exact hcareful.right who rfl hmem
  | pallet label =>
      by_cases hboundary : (r.answered label).IsBoundary
      · cases label with
        | newSession env =>
            rcases (mem_newSession_iff hseats env).mp hmem with
              ⟨hseat, _⟩ | ⟨_, _, hkeys⟩
            · exact hr who hseat
            · exact hkeys
        | _ => cases hboundary
      · have hsame := (step_within_session hcareful.left hboundary).left
        change who ∈ (Validator.step r.pallet
          (r.answered label)).desiredValidators.toList at hmem
        rw [hsame] at hmem
        exact hr who hmem

/-- If every appointed member has keys and no member purges them, every
boundary returns accounts with keys only. -/
theorem hasKeys_of_careful {g : State cfg} {initialValidators : List AccountId}
    {initialKeys : StorageMap AccountId Keys}
    {labels : List (KeyLabel AccountId Keys)} {r : Registered cfg Keys}
    (hbuild : build cfg initialValidators = some g)
    (hkeys : (genesis g initialKeys).Keyed)
    (hrun : Run Careful step (genesis g initialKeys) labels r)
    {env : Environment AccountId} {set : List AccountId}
    (hset : (newSession (r.environment env) r.pallet).1 = some set) :
    ∀ who ∈ set, r.hasKeys who = true := by
  have hinv : Seats r.pallet ∧ r.Keyed := by
    refine hrun.preserves (fun r => Seats r.pallet ∧ r.Keyed) ?_
      ⟨genesis_seats (build_genesisShape hbuild), hkeys⟩
    rintro r label hcareful ⟨hseats, hkeyed⟩
    exact ⟨step_pallet_seats hcareful.left hseats,
      step_keyed hcareful hseats hkeyed⟩
  intro who hmem
  rw [eq_stored_of_newSession hset] at hmem
  rcases (mem_newSession_iff hinv.left env).mp hmem with
    ⟨hseat, _⟩ | ⟨_, _, hkeys⟩
  · exact hinv.right who hseat
  · exact hkeys

end Registered

end Validator
end Numen
