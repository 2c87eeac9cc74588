import Numen.Foundation.Arithmetic
import Numen.Governance.Identity

/-!
# Origins, gates and tracks

The origins a call can be dispatched under and the gates that tell them apart.
A gate returns what the origin is good for, or hands the origin back so that the
next gate can look at it.
-/

namespace Numen
namespace Governance

open Foundation

variable {AccountId Success : Type}

/-- The origins referenda dispatch under, `pallet_custom_origins::Origin`. -/
inductive Origin where
  | smallSpender
  | mediumSpender
  | bigSpender
  | runtimeUpgrade
  | wishForChange
  | referendumCanceller
  | referendumKiller
  | identityAdmin
  deriving DecidableEq, Repr

/-- Every origin of the runtime: the raw ones of the system pallet, the custom
ones, and those other pallets declare for themselves. -/
inductive RuntimeOrigin (AccountId : Type) where
  | root
  | signed (who : AccountId)
  | none
  | origins (origin : Origin)
  | other (pallet : Nat)
  deriving DecidableEq, Repr

/-- `EnsureOrigin::try_origin`. -/
abbrev Gate (AccountId Success : Type) : Type :=
  RuntimeOrigin AccountId -> Except (RuntimeOrigin AccountId) Success

/-!
## Gates on the custom origins
-/

/-- The gate `decl_ensure` declares for one origin. -/
def declEnsure (item : Origin) (success : Success) : Gate AccountId Success
  | RuntimeOrigin.origins origin =>
      if origin = item then
        Except.ok success
      else
        Except.error (RuntimeOrigin.origins origin)
  | o => Except.error o

theorem declEnsure_eq_ok {item : Origin} {success value : Success}
    {o : RuntimeOrigin AccountId}
    (h : declEnsure item success o = Except.ok value) :
    o = RuntimeOrigin.origins item ∧ value = success := by
  unfold declEnsure at h
  split at h
  · rename_i origin
    split at h
    · rename_i horigin
      cases h
      exact ⟨congrArg RuntimeOrigin.origins horigin, rfl⟩
    · cases h
  · cases h

theorem declEnsure_eq_error {item : Origin} {success : Success}
    {o rest : RuntimeOrigin AccountId}
    (h : declEnsure item success o = Except.error rest) : rest = o := by
  unfold declEnsure at h
  split at h
  · split at h
    · cases h
    · cases h
      rfl
  · cases h
    rfl

def UNIT : Nat := 1000000000000000000

def smallSpenderCap : Nat := 200000 * UNIT
def mediumSpenderCap : Nat := 1000000 * UNIT
def bigSpenderCap : Nat := 10000000 * UNIT

def smallSpender : Gate AccountId Nat :=
  declEnsure Origin.smallSpender smallSpenderCap

def mediumSpender : Gate AccountId Nat :=
  declEnsure Origin.mediumSpender mediumSpenderCap

def bigSpender : Gate AccountId Nat :=
  declEnsure Origin.bigSpender bigSpenderCap

def runtimeUpgrade : Gate AccountId Unit :=
  declEnsure Origin.runtimeUpgrade ()

def referendumCanceller : Gate AccountId Unit :=
  declEnsure Origin.referendumCanceller ()

def referendumKiller : Gate AccountId Unit :=
  declEnsure Origin.referendumKiller ()

/-- The spend tiers as the runtime publishes them in its metadata: the track,
the origin and the cap. -/
def spendCaps : List (Nat × Origin × Nat) :=
  [(30, Origin.smallSpender, smallSpenderCap),
    (31, Origin.mediumSpender, mediumSpenderCap),
    (32, Origin.bigSpender, bigSpenderCap)]

/-- `EitherOf`: the second gate looks at what the first one hands back. -/
def eitherOf (left right : Gate AccountId Success) : Gate AccountId Success :=
  fun o =>
    match left o with
    | Except.ok value => Except.ok value
    | Except.error rest => right rest

theorem eitherOf_eq_ok {left right : Gate AccountId Success}
    {o : RuntimeOrigin AccountId} {value : Success}
    (h : eitherOf left right o = Except.ok value) :
    left o = Except.ok value ∨
      exists rest, left o = Except.error rest ∧ right rest = Except.ok value := by
  unfold eitherOf at h
  split at h
  · rename_i hleft
    cases h
    exact Or.inl hleft
  · rename_i rest hleft
    exact Or.inr ⟨rest, hleft, h⟩

/-- `EitherOfDiverse`, where the two gates report different things. -/
def eitherOfDiverse {Left Right : Type} (left : Gate AccountId Left)
    (right : Gate AccountId Right) : Gate AccountId (Left ⊕ Right) :=
  eitherOf (fun o => (left o).map Sum.inl) (fun o => (right o).map Sum.inr)

/-- The gate on treasury spends accepts any tier. -/
def treasurySpender : Gate AccountId Nat :=
  eitherOf smallSpender (eitherOf mediumSpender bigSpender)

theorem treasurySpender_eq_ok {o : RuntimeOrigin AccountId} {cap : Nat}
    (h : treasurySpender o = Except.ok cap) :
    exists track tier, o = RuntimeOrigin.origins tier ∧
      (track, tier, cap) ∈ spendCaps := by
  rcases eitherOf_eq_ok h with hsmall | ⟨rest, hsmall, hrest⟩
  · rcases declEnsure_eq_ok hsmall with ⟨ho, hcap⟩
    exact ⟨30, _, ho, by rw [hcap]; exact List.mem_cons_self⟩
  · rw [declEnsure_eq_error hsmall] at hrest
    rcases eitherOf_eq_ok hrest with hmedium | ⟨rest', hmedium, hbig⟩
    · rcases declEnsure_eq_ok hmedium with ⟨ho, hcap⟩
      exact ⟨31, _, ho, by rw [hcap]; simp [spendCaps]⟩
    · rw [declEnsure_eq_error hmedium] at hbig
      rcases declEnsure_eq_ok hbig with ⟨ho, hcap⟩
      exact ⟨32, _, ho, by rw [hcap]; simp [spendCaps]⟩

/-!
## Tracks
-/

/-- `track_for`: root and the custom origins have a track each, nothing else
has one. -/
def trackFor : RuntimeOrigin AccountId -> Except Unit Nat
  | RuntimeOrigin.root => Except.ok 0
  | RuntimeOrigin.origins Origin.runtimeUpgrade => Except.ok 1
  | RuntimeOrigin.origins Origin.wishForChange => Except.ok 2
  | RuntimeOrigin.origins Origin.identityAdmin => Except.ok 10
  | RuntimeOrigin.origins Origin.referendumCanceller => Except.ok 20
  | RuntimeOrigin.origins Origin.referendumKiller => Except.ok 21
  | RuntimeOrigin.origins Origin.smallSpender => Except.ok 30
  | RuntimeOrigin.origins Origin.mediumSpender => Except.ok 31
  | RuntimeOrigin.origins Origin.bigSpender => Except.ok 32
  | _ => Except.error ()

theorem trackFor_signed_ne_ok (who : AccountId) (track : Nat) :
    trackFor (RuntimeOrigin.signed who) ≠ Except.ok track := by
  intro h
  cases h

theorem trackFor_of_mem_spendCaps {track cap : Nat} {tier : Origin}
    (h : (track, tier, cap) ∈ spendCaps) :
    trackFor (RuntimeOrigin.origins tier : RuntimeOrigin AccountId) =
      Except.ok track := by
  simp only [spendCaps, List.mem_cons, Prod.mk.injEq, List.not_mem_nil,
    or_false] at h
  rcases h with ⟨rfl, rfl, _⟩ | ⟨rfl, rfl, _⟩ | ⟨rfl, rfl, _⟩ <;> rfl

/-!
## Prime and the submitters
-/

/-- The errors of the prime pallet.  Those of other pallets are not told
apart. -/
inductive DispatchError where
  | badOrigin
  | requirePrime
  | elsewhere
  deriving DecidableEq, Repr

/-- A gate that lets through the signed accounts with a property. -/
def ensureSignedBy (holds : AccountId -> Prop) [DecidablePred holds] :
    Gate AccountId AccountId
  | RuntimeOrigin.signed who =>
      if holds who then
        Except.ok who
      else
        Except.error (RuntimeOrigin.signed who)
  | o => Except.error o

theorem ensureSignedBy_eq_ok {holds : AccountId -> Prop} [DecidablePred holds]
    {o : RuntimeOrigin AccountId} {who : AccountId}
    (h : ensureSignedBy holds o = Except.ok who) :
    o = RuntimeOrigin.signed who ∧ holds who := by
  unfold ensureSignedBy at h
  split at h
  · split at h
    · rename_i hholds
      cases h
      exact ⟨rfl, hholds⟩
    · cases h
  · cases h

def EnsureQualifiedIdentity.tryOrigin (registry : Registry AccountId) :
    Gate AccountId AccountId :=
  ensureSignedBy fun who => QualifiedIdentity.contains registry who = true

def ensureSigned : RuntimeOrigin AccountId -> Except DispatchError AccountId
  | RuntimeOrigin.signed who => Except.ok who
  | _ => Except.error DispatchError.badOrigin

section Prime

variable [DecidableEq AccountId]

/-- `EnsurePrime::try_origin`, the gate the rest of the runtime uses. -/
def EnsurePrime.tryOrigin (key : Option AccountId) : Gate AccountId AccountId :=
  ensureSignedBy fun who => key = some who

/-- `ensure_prime`, by which `set_key` is guarded. -/
def ensurePrime (key : Option AccountId) (o : RuntimeOrigin AccountId) :
    Except DispatchError AccountId := do
  let who <- ensureSigned o
  if key = some who then
    return who
  else
    throw DispatchError.requirePrime

theorem ensurePrime_eq_ok {key : Option AccountId}
    {o : RuntimeOrigin AccountId} {who : AccountId}
    (h : ensurePrime key o = Except.ok who) :
    o = RuntimeOrigin.signed who ∧ key = some who := by
  rcases except_bind_eq_ok h with ⟨caller, hcaller, hkey⟩
  cases o with
  | signed _ =>
      cases hcaller
      split at hkey
      · rename_i hsome
        cases hkey
        exact ⟨rfl, hsome⟩
      · cases hkey
  | root => cases hcaller
  | none => cases hcaller
  | origins _ => cases hcaller
  | other _ => cases hcaller

/-- The upgrade track is prime's alone, every other one is open to accounts with
a qualified identity. -/
def EnsureSubmitter.tryOrigin (key : Option AccountId)
    (registry : Registry AccountId) (o track : RuntimeOrigin AccountId) :
    Except (RuntimeOrigin AccountId) AccountId :=
  match track with
  | RuntimeOrigin.origins Origin.runtimeUpgrade => EnsurePrime.tryOrigin key o
  | _ => EnsureQualifiedIdentity.tryOrigin registry o

/-- What the submission gate has looked at when it lets `who` through. -/
def MaySubmit (key : Option AccountId) (registry : Registry AccountId)
    (who : AccountId) (track : RuntimeOrigin AccountId) : Prop :=
  if track = RuntimeOrigin.origins Origin.runtimeUpgrade then
    key = some who
  else
    QualifiedIdentity.contains registry who = true

theorem EnsureSubmitter.tryOrigin_eq_ok {key : Option AccountId}
    {registry : Registry AccountId} {o track : RuntimeOrigin AccountId}
    {who : AccountId}
    (h : EnsureSubmitter.tryOrigin key registry o track = Except.ok who) :
    o = RuntimeOrigin.signed who ∧ MaySubmit key registry who track := by
  unfold EnsureSubmitter.tryOrigin at h
  unfold MaySubmit
  split at h
  · rw [if_pos rfl]
    exact ensureSignedBy_eq_ok h
  · rename_i htrack
    rw [if_neg htrack]
    exact ensureSignedBy_eq_ok h

def cancelOrigin (key : Option AccountId) :
    Gate AccountId (AccountId ⊕ Unit) :=
  eitherOfDiverse (EnsurePrime.tryOrigin key) referendumCanceller

def killOrigin (key : Option AccountId) : Gate AccountId (AccountId ⊕ Unit) :=
  eitherOfDiverse (EnsurePrime.tryOrigin key) referendumKiller

end Prime

end Governance
end Numen
