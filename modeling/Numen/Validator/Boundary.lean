import Numen.Foundation.Folds
import Numen.Validator.Pallet

/-!
# What a session boundary does

A boundary kicks, then recomputes the set.  The kicks touch an account's record
and cooldown in one way only, and the recomputation can at most turn `Active`
records of queued candidates into `ExitRequested` ones.  Amount, expiry and
currency lock come through unchanged.
-/

namespace Numen
namespace Validator

open Foundation

variable {AccountId Locks : Type} [DecidableEq AccountId]
variable {cfg : Config AccountId Locks}

/-!
## Kicks
-/

/-- The record and the cooldown of `who` are untouched, or an `Active` record
became `Kicked` and the cooldown starts at the current block. -/
def KickedOrSame (s t : State cfg) (who : AccountId) : Prop :=
  (t.validatorLocks.get who = s.validatorLocks.get who ∧
    t.rejoinCooldown.get who = s.rejoinCooldown.get who) ∨
  (exists info, s.validatorLocks.get who = some info ∧
    info.status = ValidatorStatus.active ∧
    t.validatorLocks.get who =
      some { info with status := ValidatorStatus.kicked } ∧
    t.rejoinCooldown.get who =
      some (satAdd cfg.maxBlock s.block cfg.rejoinCooldownPeriod))

structure KickEffect (s t : State cfg) : Prop where
  block : t.block = s.block
  pendingValidators : t.pendingValidators = s.pendingValidators
  desiredValidators : t.desiredValidators = s.desiredValidators
  equivocationThisSession :
    t.equivocationThisSession = s.equivocationThisSession
  currency : t.currency = s.currency
  account : forall who, KickedOrSame s t who

theorem KickEffect.refl (s : State cfg) : KickEffect s s where
  block := rfl
  pendingValidators := rfl
  desiredValidators := rfl
  equivocationThisSession := rfl
  currency := rfl
  account := by
    intro who
    exact Or.inl ⟨rfl, rfl⟩

/-- A kicked record is no longer `Active`, so at most one of two kicks in a row
does anything. -/
theorem KickEffect.trans {s t u : State cfg}
    (hst : KickEffect s t) (htu : KickEffect t u) : KickEffect s u where
  block := htu.block.trans hst.block
  pendingValidators := htu.pendingValidators.trans hst.pendingValidators
  desiredValidators := htu.desiredValidators.trans hst.desiredValidators
  equivocationThisSession :=
    htu.equivocationThisSession.trans hst.equivocationThisSession
  currency := htu.currency.trans hst.currency
  account := by
    intro who
    rcases htu.account who with ⟨hlock, hcooldown⟩ |
      ⟨info, hget, hactive, hkicked, hcooldown⟩
    · unfold KickedOrSame
      rw [hlock, hcooldown]
      exact hst.account who
    · rcases hst.account who with ⟨hlock, _⟩ | ⟨info', _, _, hkicked', _⟩
      · rw [hlock] at hget
        rw [hst.block] at hcooldown
        exact Or.inr ⟨info, hget, hactive, hkicked, hcooldown⟩
      · rw [hkicked'] at hget
        cases hget
        cases hactive

theorem KickEffect.isActive_of_isActive {s t : State cfg}
    (h : KickEffect s t) {who : AccountId} (hactive : t.isActive who = true) :
    s.isActive who = true ∧
      t.validatorLocks.get who = s.validatorLocks.get who := by
  rcases State.isActive_eq_true.mp hactive with ⟨info, hget, hstatus⟩
  rcases h.account who with ⟨hlock, _⟩ | ⟨info', _, _, hkicked, _⟩
  · refine ⟨?_, hlock⟩
    rw [← State.isActive_congr hlock]
    exact hactive
  · rw [hkicked] at hget
    cases hget
    cases hstatus

theorem kickValidator_effect (reason : KickReason) (who : AccountId)
    (s : State cfg) : KickEffect s (kickValidator reason who s).2 := by
  unfold kickValidator
  cases hget : s.validatorLocks.get who with
  | none =>
      exact KickEffect.refl s
  | some info =>
      by_cases hactive : info.status = ValidatorStatus.active
      · simp only [if_pos hactive]
        refine ⟨rfl, rfl, rfl, rfl, rfl, ?_⟩
        intro other
        by_cases hself : other = who
        · subst hself
          refine Or.inr ⟨info, hget, hactive, ?_, ?_⟩
          · exact StorageMap.get_insert_self _ _ _
          · exact StorageMap.get_insert_self _ _ _
        · refine Or.inl ⟨?_, ?_⟩
          · exact StorageMap.get_insert_of_ne _ _ hself
          · exact StorageMap.get_insert_of_ne _ _ hself
      · simp only [if_neg hactive]
        exact KickEffect.refl s

theorem kickValidator_not_active (reason : KickReason) (who : AccountId)
    (s : State cfg) : (kickValidator reason who s).2.isActive who = false := by
  unfold kickValidator
  cases hget : s.validatorLocks.get who with
  | none =>
      simp [State.isActive, hget]
  | some info =>
      by_cases hactive : info.status = ValidatorStatus.active
      · have hself : forall locks : StorageMap AccountId LockInfo,
            (locks.insert who
              { info with status := ValidatorStatus.kicked }).get who =
              some { info with status := ValidatorStatus.kicked } :=
          fun locks => StorageMap.get_insert_self _ _ _
        simp [hactive, State.isActive, State.depositEvent, hself]
      · simp [hactive, State.isActive, hget]

/-- The state in which the equivocation flags have been drained. -/
def drained (s : State cfg) : State cfg :=
  { s with equivocationThisSession := StorageMap.empty }

theorem processEquivocations_effect (s : State cfg) :
    KickEffect (drained s) (processEquivocations s) :=
  foldl_related KickEffect KickEffect.refl (fun _ _ _ => KickEffect.trans) _
    (fun acc who _ => kickValidator_effect KickReason.equivocation who acc) _

theorem processEquivocations_not_active {s : State cfg} {who : AccountId}
    (hflag : s.equivocationThisSession.containsKey who = true) :
    (processEquivocations s).isActive who = false := by
  have hmem : who ∈ s.equivocationThisSession.keys :=
    StorageMap.mem_keys.mpr (StorageMap.containsKey_eq_true.mp hflag)
  rcases List.append_of_mem hmem with ⟨before, after, hsplit⟩
  unfold processEquivocations
  rw [hsplit, List.foldl_append, List.foldl_cons]
  apply foldl_preserves (fun t : State cfg => t.isActive who = false)
  · intro acc other _ hacc
    -- a kick of someone else never makes an account active
    by_contra hactive
    rw [Bool.not_eq_false] at hactive
    have hback := (kickValidator_effect KickReason.equivocation other
      acc).isActive_of_isActive hactive
    rw [hacc] at hback
    exact Bool.noConfusion hback.left
  · exact kickValidator_not_active KickReason.equivocation who _

theorem countOffline_effect (s : State cfg) (who : AccountId) :
    KickEffect s (countOffline s who) := by
  unfold countOffline
  by_cases hactive : s.isActive who = false
  · rw [if_pos hactive]
    exact ⟨rfl, rfl, rfl, rfl, rfl, fun _ => Or.inl ⟨rfl, rfl⟩⟩
  · rw [if_neg hactive]
    by_cases hreported : s.offlineThisSession.containsKey who = false
    · rw [if_pos hreported]
      exact ⟨rfl, rfl, rfl, rfl, rfl, fun _ => Or.inl ⟨rfl, rfl⟩⟩
    · rw [if_neg hreported]
      dsimp only
      split
      · exact ⟨rfl, rfl, rfl, rfl, rfl, fun _ => Or.inl ⟨rfl, rfl⟩⟩
      · have htaken : KickEffect s { s with
            offlineThisSession := s.offlineThisSession.remove who } :=
          ⟨rfl, rfl, rfl, rfl, rfl, fun _ => Or.inl ⟨rfl, rfl⟩⟩
        exact htaken.trans (kickValidator_effect KickReason.offline who _)

theorem processOfflineCounters_effect (s : State cfg) :
    KickEffect s (processOfflineCounters s) := by
  have hloop := foldl_related KickEffect KickEffect.refl
    (fun _ _ _ => KickEffect.trans) s.desiredValidators.toList
    (fun acc who _ => countOffline_effect acc who) s
  exact ⟨hloop.block, hloop.pendingValidators, hloop.desiredValidators,
    hloop.equivocationThisSession, hloop.currency, hloop.account⟩

theorem afterKicks_effect (s : State cfg) :
    KickEffect (drained s) (afterKicks s) :=
  (processEquivocations_effect s).trans (processOfflineCounters_effect _)

/-!
## The members that stay
-/

theorem toList_foldl_keepMember (s : State cfg) (members : List AccountId)
    (next : BoundedVec AccountId cfg.maxValidators)
    (hroom : next.toList.length + members.length ≤ cfg.maxValidators) :
    (members.foldl (keepMember s) next).toList =
      next.toList ++ members.filter s.isActive := by
  induction members generalizing next with
  | nil =>
      simp
  | cons who rest ih =>
      rw [List.length_cons] at hroom
      rw [List.foldl_cons]
      cases hactive : s.isActive who with
      | false =>
          have hround : keepMember s next who = next := by
            simp [keepMember, hactive]
          rw [hround, ih next (by lia), List.filter_cons_of_neg (by simp [hactive])]
      | true =>
          have hround : (keepMember s next who).toList = next.toList ++ [who] := by
            simp only [keepMember, hactive, if_true]
            exact BoundedVec.toList_pushOrDrop_of_lt who (by lia)
          have hlength : (keepMember s next who).toList.length =
              next.toList.length + 1 := by
            simp [hround]
          rw [ih _ (by lia), hround, List.filter_cons_of_pos hactive,
            List.append_assoc]
          rfl

theorem toList_keepMembers (s : State cfg) :
    (keepMembers s).toList = s.desiredValidators.toList.filter s.isActive := by
  unfold keepMembers
  rw [toList_foldl_keepMember]
  · simp
  · simpa using s.desiredValidators.length_le

/-!
## The drained queue
-/

/-- Nothing but the status of candidates changes while the queue is drained,
and the status only from `Active` to `ExitRequested`. -/
structure DropEffect (s t : State cfg) : Prop where
  block : t.block = s.block
  pendingValidators : t.pendingValidators = s.pendingValidators
  equivocationThisSession :
    t.equivocationThisSession = s.equivocationThisSession
  rejoinCooldown : t.rejoinCooldown = s.rejoinCooldown
  currency : t.currency = s.currency
  record : forall who,
    t.validatorLocks.get who = s.validatorLocks.get who ∨
    exists info, s.validatorLocks.get who = some info ∧
      info.status = ValidatorStatus.active ∧
      t.validatorLocks.get who =
        some { info with status := ValidatorStatus.exitRequested }

theorem DropEffect.refl (s : State cfg) : DropEffect s s where
  block := rfl
  pendingValidators := rfl
  equivocationThisSession := rfl
  rejoinCooldown := rfl
  currency := rfl
  record := by
    intro who
    exact Or.inl rfl

theorem DropEffect.trans {s t u : State cfg}
    (hst : DropEffect s t) (htu : DropEffect t u) : DropEffect s u where
  block := htu.block.trans hst.block
  pendingValidators := htu.pendingValidators.trans hst.pendingValidators
  equivocationThisSession :=
    htu.equivocationThisSession.trans hst.equivocationThisSession
  rejoinCooldown := htu.rejoinCooldown.trans hst.rejoinCooldown
  currency := htu.currency.trans hst.currency
  record := by
    intro who
    rcases htu.record who with hlock | ⟨info, hget, hactive, hdropped⟩
    · rw [hlock]
      exact hst.record who
    · rcases hst.record who with hlock | ⟨info', _, _, hdropped'⟩
      · rw [hlock] at hget
        exact Or.inr ⟨info, hget, hactive, hdropped⟩
      · rw [hdropped'] at hget
        cases hget
        cases hactive

theorem DropEffect.isActive_of_isActive {s t : State cfg}
    (h : DropEffect s t) {who : AccountId} (hactive : t.isActive who = true) :
    s.isActive who = true ∧
      t.validatorLocks.get who = s.validatorLocks.get who := by
  rcases State.isActive_eq_true.mp hactive with ⟨info, hget, hstatus⟩
  rcases h.record who with hlock | ⟨info', _, _, hdropped⟩
  · refine ⟨?_, hlock⟩
    rw [← State.isActive_congr hlock]
    exact hactive
  · rw [hdropped] at hget
    cases hget
    cases hstatus

theorem get_dropPendingCandidate_of_ne (s : State cfg) {who other : AccountId}
    (h : other ≠ who) :
    (dropPendingCandidate s who).validatorLocks.get other =
      s.validatorLocks.get other := by
  refine (StorageMap.get_mutate _ _ _ _).trans ?_
  rw [if_neg h]

theorem dropPendingCandidate_effect {s : State cfg} {who : AccountId}
    (hactive : s.isActive who = true) :
    DropEffect s (dropPendingCandidate s who) := by
  refine ⟨rfl, rfl, rfl, rfl, rfl, ?_⟩
  intro other
  by_cases hself : other = who
  · subst hself
    rcases State.isActive_eq_true.mp hactive with ⟨info, hget, hstatus⟩
    refine Or.inr ⟨info, hget, hstatus, ?_⟩
    refine (StorageMap.get_mutate _ _ _ _).trans ?_
    simp [hget]
  · exact Or.inl (get_dropPendingCandidate_of_ne s hself)

theorem dropPendingCandidate_not_active (s : State cfg) (who : AccountId) :
    (dropPendingCandidate s who).isActive who = false := by
  have hself : (dropPendingCandidate s who).validatorLocks.get who =
      (s.validatorLocks.get who).map
        (fun info => { info with status := ValidatorStatus.exitRequested }) := by
    refine (StorageMap.get_mutate _ _ _ _).trans ?_
    rw [if_pos rfl]
  unfold State.isActive
  rw [hself]
  cases s.validatorLocks.get who with
  | none => rfl
  | some info => rfl

theorem promoteCandidate_cases (env : Environment AccountId)
    (acc : BoundedVec AccountId cfg.maxValidators × State cfg)
    (who : AccountId) :
    ((acc.2.isActive who = false ∨ who ∈ acc.1.toList) ∧
      promoteCandidate env acc who = acc) ∨
    (acc.2.isActive who = true ∧ who ∉ acc.1.toList ∧
      (env.hasKeys who = false ∨ acc.1.isFull = true) ∧
      promoteCandidate env acc who =
        (acc.1, dropPendingCandidate acc.2 who)) ∨
    (acc.2.isActive who = true ∧ who ∉ acc.1.toList ∧
      env.hasKeys who = true ∧ acc.1.toList.length < cfg.maxValidators ∧
      promoteCandidate env acc who = (acc.1.pushOrDrop who, acc.2)) := by
  unfold promoteCandidate
  by_cases hskip : acc.2.isActive who = false ∨ who ∈ acc.1.toList
  · exact Or.inl ⟨hskip, if_pos hskip⟩
  · rw [if_neg hskip]
    rw [not_or, Bool.not_eq_false] at hskip
    by_cases hdrop : env.hasKeys who = false ∨ acc.1.isFull = true
    · exact Or.inr (Or.inl ⟨hskip.left, hskip.right, hdrop, if_pos hdrop⟩)
    · rw [if_neg hdrop]
      rw [not_or, Bool.not_eq_false, Bool.not_eq_true] at hdrop
      exact Or.inr (Or.inr ⟨hskip.left, hskip.right, hdrop.left,
        BoundedVec.isFull_eq_false.mp hdrop.right, rfl⟩)

theorem promoteCandidate_effect (env : Environment AccountId)
    (acc : BoundedVec AccountId cfg.maxValidators × State cfg)
    (who : AccountId) : DropEffect acc.2 (promoteCandidate env acc who).2 := by
  rcases promoteCandidate_cases env acc who with
    ⟨_, heq⟩ | ⟨hactive, _, _, heq⟩ | ⟨_, _, _, _, heq⟩
  · rw [heq]
    exact DropEffect.refl _
  · rw [heq]
    exact dropPendingCandidate_effect hactive
  · rw [heq]
    exact DropEffect.refl _

theorem foldl_promoteCandidate_effect (env : Environment AccountId)
    (queue : List AccountId)
    (acc : BoundedVec AccountId cfg.maxValidators × State cfg) :
    DropEffect acc.2 (queue.foldl (promoteCandidate env) acc).2 :=
  foldl_related (fun acc acc' : BoundedVec AccountId cfg.maxValidators ×
      State cfg => DropEffect acc.2 acc'.2)
    (fun acc => DropEffect.refl acc.2) (fun _ _ _ => DropEffect.trans) queue
    (fun acc who _ => promoteCandidate_effect env acc who) acc

/-- Every member of the set under construction is `Active`: a candidate is only
ever dropped while it is outside the set. -/
theorem foldl_promoteCandidate_active (env : Environment AccountId)
    (queue : List AccountId)
    (acc : BoundedVec AccountId cfg.maxValidators × State cfg)
    (hacc : forall who, who ∈ acc.1.toList -> acc.2.isActive who = true) :
    forall who, who ∈ (queue.foldl (promoteCandidate env) acc).1.toList ->
      (queue.foldl (promoteCandidate env) acc).2.isActive who = true := by
  apply foldl_preserves
    (fun acc : BoundedVec AccountId cfg.maxValidators × State cfg =>
      forall who, who ∈ acc.1.toList -> acc.2.isActive who = true) queue
  · intro acc candidate _ ih who hmem
    rcases promoteCandidate_cases env acc candidate with
      ⟨_, heq⟩ | ⟨_, hout, _, heq⟩ | ⟨hactive, _, _, _, heq⟩
    · rw [heq] at hmem ⊢
      exact ih who hmem
    · rw [heq] at hmem ⊢
      have hne : who ≠ candidate := by
        rintro rfl
        exact hout hmem
      exact (State.isActive_congr
        (get_dropPendingCandidate_of_ne acc.2 hne)).trans (ih who hmem)
    · rw [heq] at hmem ⊢
      rcases BoundedVec.mem_pushOrDrop hmem with hold | rfl
      · exact ih who hold
      · exact hactive
  · exact hacc

theorem foldl_promoteCandidate_mem (env : Environment AccountId)
    (queue : List AccountId)
    (acc : BoundedVec AccountId cfg.maxValidators × State cfg)
    {who : AccountId}
    (hmem : who ∈ (queue.foldl (promoteCandidate env) acc).1.toList) :
    who ∈ acc.1.toList ∨ who ∈ queue := by
  have hinv : forall who', who' ∈
      (queue.foldl (promoteCandidate env) acc).1.toList ->
        who' ∈ acc.1.toList ∨ who' ∈ queue := by
    apply foldl_preserves
      (fun acc' : BoundedVec AccountId cfg.maxValidators × State cfg =>
        forall who', who' ∈ acc'.1.toList ->
          who' ∈ acc.1.toList ∨ who' ∈ queue) queue
    · intro acc' candidate hqueue ih who' hmem'
      rcases promoteCandidate_cases env acc' candidate with
        ⟨_, heq⟩ | ⟨_, _, _, heq⟩ | ⟨_, _, _, _, heq⟩
      · rw [heq] at hmem'
        exact ih who' hmem'
      · rw [heq] at hmem'
        exact ih who' hmem'
      · rw [heq] at hmem'
        rcases BoundedVec.mem_pushOrDrop hmem' with hold | rfl
        · exact ih who' hold
        · exact Or.inr hqueue
    · intro who' hmem'
      exact Or.inl hmem'
  exact hinv who hmem

theorem promoteCandidate_keeps (env : Environment AccountId)
    (acc : BoundedVec AccountId cfg.maxValidators × State cfg)
    (candidate : AccountId) {who : AccountId} (hmem : who ∈ acc.1.toList) :
    who ∈ (promoteCandidate env acc candidate).1.toList := by
  rcases promoteCandidate_cases env acc candidate with
    ⟨_, heq⟩ | ⟨_, _, _, heq⟩ | ⟨_, _, _, hroom, heq⟩
  · rw [heq]
    exact hmem
  · rw [heq]
    exact hmem
  · rw [heq, BoundedVec.toList_pushOrDrop_of_lt candidate hroom]
    exact List.mem_append_left _ hmem

/-- A member of the set, or not `Active`.  The queue loop leaves every account
it has looked at in this condition. -/
def Settled (acc : BoundedVec AccountId cfg.maxValidators × State cfg)
    (who : AccountId) : Prop :=
  acc.2.isActive who = true -> who ∈ acc.1.toList

theorem promoteCandidate_settled_of_settled (env : Environment AccountId)
    (acc : BoundedVec AccountId cfg.maxValidators × State cfg)
    (candidate : AccountId) {who : AccountId} (h : Settled acc who) :
    Settled (promoteCandidate env acc candidate) who := by
  intro hactive
  have hbefore :=
    (promoteCandidate_effect env acc candidate).isActive_of_isActive hactive
  exact promoteCandidate_keeps env acc candidate (h hbefore.left)

theorem promoteCandidate_settled (env : Environment AccountId)
    (acc : BoundedVec AccountId cfg.maxValidators × State cfg)
    (who : AccountId) : Settled (promoteCandidate env acc who) who := by
  intro hactive
  rcases promoteCandidate_cases env acc who with
    ⟨hskip, heq⟩ | ⟨_, _, _, heq⟩ | ⟨_, _, _, hroom, heq⟩
  · rw [heq] at hactive ⊢
    rcases hskip with hinactive | hmem
    · rw [hactive] at hinactive
      cases hinactive
    · exact hmem
  · rw [heq] at hactive
    have hdropped := dropPendingCandidate_not_active acc.2 who
    rw [hactive] at hdropped
    cases hdropped
  · rw [heq, BoundedVec.toList_pushOrDrop_of_lt who hroom]
    exact List.mem_append_right _ List.mem_cons_self

theorem foldl_promoteCandidate_settled (env : Environment AccountId)
    (queue : List AccountId)
    (acc : BoundedVec AccountId cfg.maxValidators × State cfg)
    {who : AccountId} (h : Settled acc who ∨ who ∈ queue) :
    Settled (queue.foldl (promoteCandidate env) acc) who := by
  rcases h with hsettled | hmem
  · exact foldl_preserves (fun acc => Settled acc who) queue
      (fun acc candidate _ => promoteCandidate_settled_of_settled env acc candidate)
      hsettled
  · rcases List.append_of_mem hmem with ⟨before, after, hsplit⟩
    rw [hsplit, List.foldl_append, List.foldl_cons]
    exact foldl_preserves (fun acc => Settled acc who) after
      (fun acc candidate _ => promoteCandidate_settled_of_settled env acc candidate)
      (promoteCandidate_settled env _ who)

/-!
## The whole boundary
-/

theorem newSession_state (env : Environment AccountId) (s : State cfg) :
    (newSession env s).2 =
      { (promoteCandidates env (afterKicks s)).2 with
        desiredValidators := (promoteCandidates env (afterKicks s)).1 } := by
  unfold newSession
  dsimp only
  split
  · rfl
  · split <;> rfl

theorem newSession_returned {env : Environment AccountId} {s : State cfg}
    {set : List AccountId} (h : (newSession env s).1 = some set) :
    set = (newSession env s).2.desiredValidators.toList := by
  rw [newSession_state]
  unfold newSession at h
  dsimp only at h
  split at h
  · cases h
  · split at h
    · cases h
    · exact (Option.some.inj h).symm

structure BoundaryEffect (s t : State cfg) : Prop where
  block : t.block = s.block
  currency : t.currency = s.currency
  equivocationThisSession : t.equivocationThisSession = StorageMap.empty
  pendingValidators : t.pendingValidators = BoundedVec.empty
  account : forall who,
    KickedOrSame s t who ∨
    (t.rejoinCooldown.get who = s.rejoinCooldown.get who ∧
      exists info, s.validatorLocks.get who = some info ∧
        info.status = ValidatorStatus.active ∧
        t.validatorLocks.get who =
          some { info with status := ValidatorStatus.exitRequested })
  members : forall who, who ∈ t.desiredValidators.toList ->
    t.isActive who = true ∧
      (who ∈ s.desiredValidators.toList ∨ who ∈ s.pendingValidators.toList)
  seated : forall who, t.isActive who = true ->
    who ∈ s.desiredValidators.toList ∨ who ∈ s.pendingValidators.toList ->
    who ∈ t.desiredValidators.toList

theorem newSession_effect (env : Environment AccountId) (s : State cfg) :
    BoundaryEffect s (newSession env s).2 := by
  have hkicks := afterKicks_effect s
  have hdrops := foldl_promoteCandidate_effect env
    (afterKicks s).pendingValidators.toList
    (keepMembers (afterKicks s),
      { afterKicks s with pendingValidators := BoundedVec.empty })
  have hkept : forall who, who ∈ (keepMembers (afterKicks s)).toList <->
      who ∈ s.desiredValidators.toList ∧ (afterKicks s).isActive who = true := by
    intro who
    rw [toList_keepMembers, List.mem_filter, hkicks.desiredValidators]
    rfl
  rw [newSession_state]
  refine ⟨hdrops.block.trans hkicks.block, hdrops.currency.trans hkicks.currency,
    hdrops.equivocationThisSession.trans hkicks.equivocationThisSession,
    hdrops.pendingValidators, ?_, ?_, ?_⟩
  · intro who
    rcases hdrops.record who with hlock | ⟨info, hget, hactive, hdropped⟩
    · have hsame := hkicks.account who
      unfold KickedOrSame at hsame
      rw [← hlock, ← hdrops.rejoinCooldown] at hsame
      exact Or.inl hsame
    · have hbefore := hkicks.isActive_of_isActive
        (State.isActive_eq_true.mpr ⟨info, hget, hactive⟩)
      refine Or.inr ⟨?_, info, hbefore.right.symm.trans hget, hactive, hdropped⟩
      rcases hkicks.account who with ⟨_, hcooldown⟩ | ⟨info', _, _, hkicked, _⟩
      · exact (congrArg (fun cooldown => cooldown.get who)
          hdrops.rejoinCooldown).trans hcooldown
      · have hget' : some info = some _ := hget.symm.trans hkicked
        cases hget'
        cases hactive
  · intro who hmem
    constructor
    · refine foldl_promoteCandidate_active env _ _ ?_ who hmem
      intro who' hmem'
      exact ((hkept who').mp hmem').right
    · rcases foldl_promoteCandidate_mem env _ _ hmem with hold | hqueue
      · exact Or.inl ((hkept who).mp hold).left
      · rw [hkicks.pendingValidators] at hqueue
        exact Or.inr hqueue
  · intro who hactive hmem
    refine foldl_promoteCandidate_settled env _ _ ?_ hactive
    rcases hmem with hdesired | hpending
    · refine Or.inl ?_
      intro hactive'
      exact (hkept who).mpr ⟨hdesired, hactive'⟩
    · rw [hkicks.pendingValidators]
      exact Or.inr hpending

theorem BoundaryEffect.isActive_of_isActive {s t : State cfg}
    (heffect : BoundaryEffect s t) {who : AccountId}
    (hactive : t.isActive who = true) : s.isActive who = true := by
  rcases heffect.account who with
    (⟨hlock, _⟩ | ⟨info, hget, hstatus, _, _⟩) | ⟨_, info, hget, hstatus, _⟩
  · rw [← State.isActive_congr hlock]
    exact hactive
  · exact State.isActive_eq_true.mpr ⟨info, hget, hstatus⟩
  · exact State.isActive_eq_true.mpr ⟨info, hget, hstatus⟩

theorem newSession_kicks_flagged (env : Environment AccountId) {s : State cfg}
    {who : AccountId} (hflag : s.equivocationThisSession.containsKey who = true)
    (hactive : s.isActive who = true) :
    (newSession env s).2.isActive who = false ∧
      (newSession env s).2.rejoinCooldown.get who =
        some (satAdd cfg.maxBlock s.block cfg.rejoinCooldownPeriod) := by
  have hkicks := afterKicks_effect s
  have hinactive : (afterKicks s).isActive who = false := by
    apply Bool.eq_false_iff.mpr
    intro hstill
    have hbefore :=
      ((processOfflineCounters_effect _).isActive_of_isActive hstill).left
    rw [processEquivocations_not_active hflag] at hbefore
    cases hbefore
  have hdrops := foldl_promoteCandidate_effect env
    (afterKicks s).pendingValidators.toList
    (keepMembers (afterKicks s),
      { afterKicks s with pendingValidators := BoundedVec.empty })
  rw [newSession_state]
  constructor
  · apply Bool.eq_false_iff.mpr
    intro hstill
    have hbefore : (afterKicks s).isActive who = true :=
      (hdrops.isActive_of_isActive hstill).left
    rw [hinactive] at hbefore
    cases hbefore
  · have hcooldown : (promoteCandidates env (afterKicks s)).2.rejoinCooldown =
        (afterKicks s).rejoinCooldown := hdrops.rejoinCooldown
    show (promoteCandidates env (afterKicks s)).2.rejoinCooldown.get who = _
    rw [hcooldown]
    rcases hkicks.account who with ⟨hlock, _⟩ | ⟨_, _, _, _, hdeadline⟩
    · have hsame : (afterKicks s).isActive who = s.isActive who :=
        State.isActive_congr hlock
      rw [hinactive, hactive] at hsame
      cases hsame
    · exact hdeadline

end Validator
end Numen
