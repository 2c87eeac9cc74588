import Numen.Validator.Renewal
import Numen.Validator.Seats

/-!
# Lock status and membership

The status of a lock lives in `ValidatorLocks`, membership in two vectors that
other calls update.  The two always tell the same story: whoever is queued has
an `Active` lock, no member is `Kicked`, and nobody outside the set keeps an
`Active` lock that the hook would go on renewing.
-/

namespace Numen
namespace Validator

open Foundation

variable {AccountId Locks : Type} [DecidableEq AccountId]
variable {cfg : Config AccountId Locks}

structure Coherent (s : State cfg) : Prop where
  pending_active : forall who, who ∈ s.pendingValidators.toList ->
    s.isActive who = true
  member_not_kicked : forall who info, s.IsMember who ->
    s.validatorLocks.get who = some info ->
    info.status ≠ ValidatorStatus.kicked
  active_member : forall who, s.isActive who = true -> s.IsMember who

def ActiveLive (s : State cfg) : Prop :=
  forall who info, s.validatorLocks.get who = some info ->
    info.status = ValidatorStatus.active -> s.block < info.expiryBlock

theorem not_kicked_of_isActive {s : State cfg} {who : AccountId}
    (hactive : s.isActive who = true) {info : LockInfo}
    (hget : s.validatorLocks.get who = some info) :
    info.status ≠ ValidatorStatus.kicked := by
  rcases State.isActive_eq_true.mp hactive with ⟨info', hget', hstatus⟩
  rw [hget] at hget'
  cases hget'
  rw [hstatus]
  simp

theorem Coherent.congr {s t : State cfg} (hs : Coherent s)
    (hlocks : t.validatorLocks = s.validatorLocks)
    (hdesired : t.desiredValidators = s.desiredValidators)
    (hpending : t.pendingValidators = s.pendingValidators) : Coherent t := by
  have hactive : forall who, t.isActive who = s.isActive who := by
    intro who
    exact State.isActive_congr (congrArg (fun locks => locks.get who) hlocks)
  have hmember : forall who, t.IsMember who <-> s.IsMember who := by
    intro who
    unfold State.IsMember
    rw [hdesired, hpending]
  constructor
  · intro who hmem
    rw [hpending] at hmem
    rw [hactive]
    exact hs.pending_active who hmem
  · intro who info hmem hget
    rw [hlocks] at hget
    exact hs.member_not_kicked who info ((hmember who).mp hmem) hget
  · intro who h
    rw [hactive] at h
    exact (hmember who).mpr (hs.active_member who h)

/-!
## Joining and leaving
-/

theorem commitLock_coherent {env : Environment AccountId} {s : State cfg}
    {who : AccountId} (hguards : LockGuards env s who) (hs : Coherent s) :
    Coherent (commitLock s who) := by
  have hpending := hguards.pendingValidators
  have hmember : forall other, (commitLock s who).IsMember other <->
      s.IsMember other ∨ other = who := by
    intro other
    unfold State.IsMember
    rw [hpending, List.mem_append, List.mem_singleton]
    exact or_assoc.symm
  constructor
  · intro other hmem
    rw [isActive_commitLock]
    split
    · rfl
    · rename_i hne
      rw [hpending, List.mem_append, List.mem_singleton] at hmem
      exact hs.pending_active other (hmem.resolve_right hne)
  · intro other info hmem hget
    rw [get_commitLock] at hget
    split at hget
    · cases hget
      simp [freshLock]
    · rename_i hne
      exact hs.member_not_kicked other info
        (((hmember other).mp hmem).resolve_right hne) hget
  · intro other hactive
    rw [isActive_commitLock] at hactive
    rw [hmember]
    split at hactive
    · rename_i hself
      exact Or.inr hself
    · exact Or.inl (hs.active_member other hactive)

/-- An exit leaves the queue at once; a sitting member keeps its seat, with a
status other than `Kicked`, until the next boundary. -/
theorem commitExit_coherent {s : State cfg} {who : AccountId}
    (info : LockInfo) (hseats : Seats s) (hs : Coherent s) :
    Coherent (commitExit s who info) := by
  have hpending : forall other,
      other ∈ (commitExit s who info).pendingValidators.toList <->
        other ≠ who ∧ other ∈ s.pendingValidators.toList :=
    fun _ => hseats.pending_nodup.mem_erase_iff
  constructor
  · intro other hmem
    rcases (hpending other).mp hmem with ⟨hne, hold⟩
    rw [isActive_commitExit, if_neg hne]
    exact hs.pending_active other hold
  · intro other info' hmem hget
    rw [get_commitExit] at hget
    split at hget
    · cases hget
      simp
    · have hold : s.IsMember other :=
        hmem.imp_right (fun h => ((hpending other).mp h).right)
      exact hs.member_not_kicked other info' hold hget
  · intro other hactive
    rw [isActive_commitExit] at hactive
    split at hactive
    · cases hactive
    · rename_i hne
      exact (hs.active_member other hactive).imp_right
        (fun h => (hpending other).mpr ⟨hne, h⟩)

/-!
## The boundary and the hook
-/

theorem newSession_coherent (env : Environment AccountId) {s : State cfg}
    (hs : Coherent s) : Coherent (newSession env s).2 := by
  have heffect := newSession_effect env s
  have hqueue : forall who,
      who ∉ (newSession env s).2.pendingValidators.toList := by
    intro who
    rw [heffect.pendingValidators]
    exact List.not_mem_nil
  constructor
  · intro who hmem
    exact absurd hmem (hqueue who)
  · intro who info hmem hget
    have hdesired := hmem.resolve_right (hqueue who)
    exact not_kicked_of_isActive (heffect.members who hdesired).left hget
  · intro who hactive
    have hbefore := hs.active_member who (heffect.isActive_of_isActive hactive)
    exact Or.inl (heffect.seated who hactive hbefore)

theorem isActive_onInitialize {s : State cfg} (hlive : ActiveLive s)
    (who : AccountId) :
    (onInitialize s.block s).2.isActive who = s.isActive who := by
  apply Bool.eq_iff_iff.mpr
  constructor
  · exact isActive_of_isActive_onInitialize
  · intro hactive
    rcases State.isActive_eq_true.mp hactive with ⟨before, hbefore, hstatus⟩
    have hnotExpired := Nat.not_le.mpr (hlive who before hbefore hstatus)
    apply State.isActive_eq_true.mpr
    rw [get_onInitialize, hbefore, Option.bind_some]
    unfold sweepLock
    rw [if_neg hnotExpired]
    split
    · exact ⟨_, rfl, hstatus⟩
    · exact ⟨_, rfl, hstatus⟩

theorem onInitialize_coherent {s : State cfg} (hlive : ActiveLive s)
    (hs : Coherent s) : Coherent (onInitialize s.block s).2 := by
  have hsame := onInitialize_sameBesidesLocks s.block s
  have hmember : forall who, (onInitialize s.block s).2.IsMember who <->
      s.IsMember who := by
    intro who
    unfold State.IsMember
    rw [hsame.desiredValidators, hsame.pendingValidators]
  constructor
  · intro who hmem
    rw [hsame.pendingValidators] at hmem
    rw [isActive_onInitialize hlive]
    exact hs.pending_active who hmem
  · intro who info hmem hget
    rcases get_onInitialize_eq_some hget with ⟨before, hbefore, hafter⟩
    rw [sweepLock_status hafter]
    exact hs.member_not_kicked who before ((hmember who).mp hmem) hbefore
  · intro who hactive
    rw [isActive_onInitialize hlive] at hactive
    exact (hmember who).mpr (hs.active_member who hactive)

/-!
## Runs
-/

theorem genesis_coherent {g : State cfg} (hg : GenesisShape g) :
    Coherent g := by
  constructor
  · intro who hmem
    rw [hg.pendingValidators] at hmem
    cases hmem
  · intro who info _ hget
    rw [((hg.record who info).mp hget).right]
    simp [seededLock]
  · intro who hactive
    rcases State.isActive_eq_true.mp hactive with ⟨info, hget, _⟩
    exact Or.inl ((hg.record who info).mp hget).left

theorem step_coherent {s : State cfg} {label : Label AccountId}
    (hallowed : Allowed s label) (hseats : Seats s) (hlive : ActiveLive s)
    (hs : Coherent s) : Coherent (step s label) := by
  have hcase := step_cases hallowed
  generalize step s label = t at hcase ⊢
  cases hcase with
  | locked env who hguards => exact commitLock_coherent hguards hs
  | exited who info hget hactive => exact commitExit_coherent info hseats hs
  | flagged who hactive => exact hs.congr rfl rfl rfl
  | boundary env => exact newSession_coherent env hs
  | swept => exact onInitialize_coherent hlive hs
  | advanced block hle hmax => exact hs.congr rfl rfl rfl
  | idle label t hsame =>
      exact hs.congr hsame.validatorLocks hsame.desiredValidators
        hsame.pendingValidators

/-- On a chain that runs the hook in every block, queued candidates are
`Active`, members are never `Kicked`, and every `Active` lock belongs to a
member or a candidate. -/
theorem status_and_membership_stay_coherent
    (hinterval : 0 < cfg.renewInterval)
    (hlt : cfg.renewInterval < cfg.lockDuration)
    {initialValidators : List AccountId} {labels : List (Label AccountId)}
    {c : Clocked cfg} (hc : ChainReachedBy initialValidators labels c) :
    (forall who, who ∈ c.pallet.pendingValidators.toList ->
      exists info, c.pallet.validatorLocks.get who = some info ∧
        info.status = ValidatorStatus.active) ∧
    (forall who, who ∈ c.pallet.desiredValidators.toList ∨
        who ∈ c.pallet.pendingValidators.toList ->
      forall info, c.pallet.validatorLocks.get who = some info ->
        info.status ≠ ValidatorStatus.kicked) ∧
    (forall who info, c.pallet.validatorLocks.get who = some info ->
      info.status = ValidatorStatus.active ->
      who ∈ c.pallet.desiredValidators.toList ∨
        who ∈ c.pallet.pendingValidators.toList) := by
  rcases hc with ⟨g, hbuild, hrun⟩
  have hg := build_genesisShape hbuild
  have hall : Window c ∧ Seats c.pallet ∧ Coherent c.pallet := by
    refine hrun.preserves
      (fun d => Window d ∧ Seats d.pallet ∧ Coherent d.pallet) ?_
      ⟨genesis_window hinterval hg, genesis_seats hg, genesis_coherent hg⟩
    rintro d label hconsecutive ⟨hwindow, hseats, hcoherent⟩
    have hallowed := allowed_of_consecutive hconsecutive
    have hlive : ActiveLive d.pallet :=
      fun _ _ hget hactive => hwindow.live hlt hget hactive
    exact ⟨tick_window hconsecutive hinterval hlt hwindow,
      step_seats hallowed hseats,
      step_coherent hallowed hseats hlive hcoherent⟩
  have hcoherent := hall.right.right
  refine ⟨?_, ?_, ?_⟩
  · intro who hmem
    exact State.isActive_eq_true.mp (hcoherent.pending_active who hmem)
  · intro who hmem info hget
    exact hcoherent.member_not_kicked who info hmem hget
  · intro who info hget hactive
    exact hcoherent.active_member who
      (State.isActive_eq_true.mpr ⟨info, hget, hactive⟩)

/-- Account 2 is queued with an `Active` lock. -/
theorem queued_candidate_is_active :
    let opened : Clocked mockConfig := tick (tick ⟨mockGenesis, true⟩
      (Label.lock mockEnvironment (Origin.signed 2))) (Label.advance 1)
    2 ∈ opened.pallet.pendingValidators.toList ∧
      exists info, opened.pallet.validatorLocks.get 2 = some info ∧
        info.status = ValidatorStatus.active := by
  intro opened
  have hreached : ChainReachedBy [1]
      [Label.lock mockEnvironment (Origin.signed 2), Label.advance 1] opened :=
    ⟨mockGenesis, build_mockGenesis,
      Run.cons True.intro (Run.single ⟨rfl, rfl, by decide, by decide⟩)⟩
  have hqueued : 2 ∈ opened.pallet.pendingValidators.toList := by decide
  exact ⟨hqueued, (status_and_membership_stay_coherent (by decide) (by decide)
    hreached).left 2 hqueued⟩

end Validator
end Numen
