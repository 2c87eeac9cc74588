import Numen.Validator.Seats

/-!
# The offline counters at a boundary

What a boundary reads and writes about one account's offline reports: the
equivocation kicks first, then the account's own round of the offline loop, then
the drained queue.  Each round touches the bookkeeping of the account it is
about and of no other, so the loops can be read one account at a time.
-/

namespace Numen
namespace Validator

open Foundation

variable {AccountId Locks : Type} [DecidableEq AccountId]
variable {cfg : Config AccountId Locks}

/-!
## One account's share of the bookkeeping
-/

structure Duty where
  active : Bool
  reported : Bool
  count : Option Nat
deriving DecidableEq, Repr

def State.duty (s : State cfg) (who : AccountId) : Duty :=
  { active := s.isActive who
    reported := s.offlineThisSession.containsKey who
    count := s.offlineSessionCount.get who }

def Duty.kick (duty : Duty) : Duty :=
  if duty.active then { active := false, reported := false, count := none }
  else duty

def Duty.overdue (threshold : Nat) (duty : Duty) : Bool :=
  duty.active && duty.reported &&
    !decide (satAdd u32Max (duty.count.getD 0) 1 < threshold)

theorem Duty.overdue_eq_true {threshold : Nat} {duty : Duty} :
    duty.overdue threshold = true <->
      duty.active = true ∧ duty.reported = true ∧
        threshold ≤ satAdd u32Max (duty.count.getD 0) 1 := by
  simp [Duty.overdue, and_assoc]

/-- The bookkeeping after the account's round of the offline loop. -/
def Duty.tally (threshold : Nat) (duty : Duty) : Duty :=
  if duty.active && duty.reported then
    if satAdd u32Max (duty.count.getD 0) 1 < threshold then
      { active := true
        reported := false
        count := some (satAdd u32Max (duty.count.getD 0) 1) }
    else
      { active := false, reported := false, count := none }
  else
    { duty with count := none }

theorem Duty.active_tally (threshold : Nat) (duty : Duty) :
    (duty.tally threshold).active =
      (duty.active && !duty.overdue threshold) := by
  rcases duty with ⟨active, reported, count⟩
  unfold Duty.tally Duty.overdue
  cases active with
  | false => rfl
  | true =>
      cases reported with
      | false => rfl
      | true =>
          by_cases hbelow : satAdd u32Max (count.getD 0) 1 < threshold
          · simp [hbelow]
          · simp [hbelow]

theorem Duty.count_tally (threshold : Nat) (duty : Duty) :
    (duty.tally threshold).count =
      if duty.active && duty.reported &&
          decide (satAdd u32Max (duty.count.getD 0) 1 < threshold) then
        some (satAdd u32Max (duty.count.getD 0) 1)
      else none := by
  rcases duty with ⟨active, reported, count⟩
  unfold Duty.tally
  cases active with
  | false => rfl
  | true =>
      cases reported with
      | false => rfl
      | true =>
          by_cases hbelow : satAdd u32Max (count.getD 0) 1 < threshold
          · simp [hbelow]
          · simp [hbelow]

def Duty.kickEvents (reason : KickReason) (who : AccountId) (duty : Duty) :
    List (Event AccountId) :=
  if duty.active then [Event.validatorKicked who reason] else []

def Duty.tallyEvents (threshold : Nat) (who : AccountId) (duty : Duty) :
    List (Event AccountId) :=
  if duty.overdue threshold then
    [Event.validatorKicked who KickReason.offline]
  else []

theorem isActive_kickValidator (reason : KickReason) (who : AccountId)
    (s : State cfg) (other : AccountId) :
    (kickValidator reason who s).2.isActive other =
      if other = who then false else s.isActive other := by
  by_cases hself : other = who
  · subst hself
    rw [if_pos rfl, kickValidator_not_active]
  · rw [if_neg hself]
    unfold kickValidator
    cases s.validatorLocks.get who with
    | none => rfl
    | some info =>
        dsimp only
        split
        · exact State.isActive_congr (StorageMap.get_insert_of_ne _ _ hself)
        · rfl

theorem kickValidator_of_not_active (reason : KickReason) {who : AccountId}
    {s : State cfg} (hactive : s.isActive who = false) :
    (kickValidator reason who s).2 = s := by
  unfold kickValidator
  unfold State.isActive at hactive
  cases hget : s.validatorLocks.get who with
  | none => rfl
  | some info =>
      rw [hget] at hactive
      simp only [if_neg (of_decide_eq_false hactive)]

theorem kickValidator_of_active (reason : KickReason) {who : AccountId}
    {s : State cfg} (hactive : s.isActive who = true) :
    (kickValidator reason who s).2.offlineSessionCount =
        s.offlineSessionCount.remove who ∧
      (kickValidator reason who s).2.offlineThisSession =
        s.offlineThisSession.remove who ∧
      (kickValidator reason who s).2.events =
        s.events ++ [Event.validatorKicked who reason] := by
  rcases State.isActive_eq_true.mp hactive with ⟨info, hget, hstatus⟩
  simp only [kickValidator, hget, if_pos hstatus]
  exact ⟨rfl, rfl, rfl⟩

theorem containsKey_remove (m : StorageMap AccountId Unit)
    (who other : AccountId) :
    (m.remove who).containsKey other =
      if other = who then false else m.containsKey other := by
  unfold StorageMap.containsKey
  rw [StorageMap.get_remove]
  split <;> rfl

theorem duty_kickValidator (reason : KickReason) (s : State cfg)
    (who other : AccountId) :
    (kickValidator reason who s).2.duty other =
      if other = who then (s.duty who).kick else s.duty other := by
  cases hactive : s.isActive who with
  | false =>
      rw [kickValidator_of_not_active reason hactive]
      by_cases hself : other = who
      · simp [hself, Duty.kick, State.duty, hactive]
      · rw [if_neg hself]
  | true =>
      have hwrites := kickValidator_of_active reason hactive
      unfold State.duty
      rw [isActive_kickValidator, hwrites.left, hwrites.right.left,
        containsKey_remove, StorageMap.get_remove]
      by_cases hself : other = who
      · simp [hself, Duty.kick, hactive]
      · simp [hself]

theorem events_kickValidator (reason : KickReason) (s : State cfg)
    (who : AccountId) :
    (kickValidator reason who s).2.events =
      s.events ++ (s.duty who).kickEvents reason who := by
  cases hactive : s.isActive who with
  | false =>
      rw [kickValidator_of_not_active reason hactive]
      simp [Duty.kickEvents, State.duty, hactive]
  | true =>
      rw [(kickValidator_of_active reason hactive).right.right]
      simp [Duty.kickEvents, State.duty, hactive]

theorem countOffline_cases (s : State cfg) (who : AccountId) :
    (((s.duty who).active && (s.duty who).reported) = false ∧
      countOffline s who =
        { s with offlineSessionCount := s.offlineSessionCount.remove who }) ∨
    ((s.duty who).active = true ∧ (s.duty who).reported = true ∧
      satAdd u32Max ((s.duty who).count.getD 0) 1 < cfg.offlineThreshold ∧
      countOffline s who =
        { s with
          offlineThisSession := s.offlineThisSession.remove who
          offlineSessionCount := s.offlineSessionCount.insert who
            (satAdd u32Max ((s.duty who).count.getD 0) 1) }) ∨
    ((s.duty who).active = true ∧ (s.duty who).reported = true ∧
      ¬ satAdd u32Max ((s.duty who).count.getD 0) 1 < cfg.offlineThreshold ∧
      countOffline s who = (kickValidator KickReason.offline who
        { s with offlineThisSession := s.offlineThisSession.remove who }).2) := by
  unfold countOffline State.duty
  cases hactive : s.isActive who with
  | false =>
      exact Or.inl ⟨rfl, if_pos rfl⟩
  | true =>
      cases hreported : s.offlineThisSession.containsKey who with
      | false =>
          exact Or.inl ⟨rfl, rfl⟩
      | true =>
          by_cases hbelow : satAdd u32Max
              ((s.offlineSessionCount.get who).getD 0) 1 < cfg.offlineThreshold
          · exact Or.inr (Or.inl ⟨rfl, rfl, hbelow, if_pos hbelow⟩)
          · exact Or.inr (Or.inr ⟨rfl, rfl, hbelow, if_neg hbelow⟩)

theorem duty_countOffline (s : State cfg) (who other : AccountId) :
    (countOffline s who).duty other =
      if other = who then (s.duty who).tally cfg.offlineThreshold
      else s.duty other := by
  rcases countOffline_cases s who with
    ⟨hskip, heq⟩ | ⟨hactive, hreported, hbelow, heq⟩ |
    ⟨hactive, hreported, hover, heq⟩
  · rw [heq]
    simp only [Duty.tally, hskip]
    unfold State.duty
    dsimp only
    rw [StorageMap.get_remove]
    by_cases hself : other = who
    · simp only [hself, if_true]
      rfl
    · simp only [if_neg hself]
      rfl
  · rw [heq]
    simp only [Duty.tally, hactive, hreported, Bool.and_self, if_true,
      if_pos hbelow]
    by_cases hself : other = who
    · subst hself
      unfold State.duty
      dsimp only
      rw [containsKey_remove, StorageMap.get_insert_self]
      simp only [if_true]
      exact congrArg (fun active => Duty.mk active _ _) hactive
    · rw [if_neg hself]
      unfold State.duty
      dsimp only
      rw [containsKey_remove, if_neg hself, StorageMap.get_insert_of_ne _ _ hself]
      rfl
  · rw [heq, duty_kickValidator]
    simp only [Duty.tally, hactive, hreported, Bool.and_self, if_true,
      if_neg hover]
    by_cases hself : other = who
    · rw [if_pos hself, if_pos hself]
      exact if_pos hactive
    · rw [if_neg hself, if_neg hself]
      unfold State.duty
      dsimp only
      rw [containsKey_remove, if_neg hself]
      rfl

theorem events_countOffline (s : State cfg) (who : AccountId) :
    (countOffline s who).events =
      s.events ++ (s.duty who).tallyEvents cfg.offlineThreshold who := by
  unfold Duty.tallyEvents
  rcases countOffline_cases s who with
    ⟨hskip, heq⟩ | ⟨hactive, hreported, hbelow, heq⟩ |
    ⟨hactive, hreported, hover, heq⟩
  · rw [heq]
    simp [Duty.overdue, hskip]
  · rw [heq]
    simp [Duty.overdue, hbelow]
  · have hstill : ({ s with
        offlineThisSession := s.offlineThisSession.remove who } :
          State cfg).isActive who = true := hactive
    rw [heq, (kickValidator_of_active KickReason.offline hstill).right.right]
    simp [Duty.overdue, hactive, hreported, hover]

/-!
## The bookkeeping across a boundary
-/

theorem duty_processEquivocations (s : State cfg) (who : AccountId) :
    (processEquivocations s).duty who =
      if s.equivocationThisSession.containsKey who then (s.duty who).kick
      else s.duty who := by
  have hkeys : who ∈ s.equivocationThisSession.keys <->
      s.equivocationThisSession.containsKey who = true :=
    StorageMap.mem_keys.trans StorageMap.containsKey_eq_true.symm
  have hloop := foldl_pointwise State.duty Duty.kick
    (duty_kickValidator KickReason.equivocation)
    (StorageMap.nodup_keys s.equivocationThisSession) (drained s) who
  simp only [hkeys] at hloop
  exact hloop

theorem events_processEquivocations (s : State cfg) :
    exists kicks, (processEquivocations s).events = s.events ++ kicks ∧
      forall who, Event.validatorKicked who KickReason.offline ∉ kicks := by
  refine ⟨_, foldl_appends State.duty Duty.kick
    (duty_kickValidator KickReason.equivocation) State.events
    (Duty.kickEvents KickReason.equivocation)
    (events_kickValidator KickReason.equivocation)
    (StorageMap.nodup_keys s.equivocationThisSession) (drained s), ?_⟩
  intro who hmem
  rcases List.mem_flatMap.mp hmem with ⟨kicked, _, hevent⟩
  unfold Duty.kickEvents at hevent
  split at hevent
  · cases List.mem_singleton.mp hevent
  · cases hevent

theorem duty_processOfflineCounters {s : State cfg} (hs : Seats s)
    (who : AccountId) :
    (processOfflineCounters s).duty who =
      { (if who ∈ s.desiredValidators.toList then
          (s.duty who).tally cfg.offlineThreshold
        else s.duty who) with reported := false } := by
  rw [← foldl_pointwise State.duty (Duty.tally cfg.offlineThreshold)
    duty_countOffline hs.desired_nodup s who]
  unfold processOfflineCounters State.duty
  simp [StorageMap.containsKey, State.isActive]

theorem events_processOfflineCounters {s : State cfg} (hs : Seats s) :
    (processOfflineCounters s).events = s.events ++
      s.desiredValidators.toList.flatMap (fun who =>
        (s.duty who).tallyEvents cfg.offlineThreshold who) :=
  foldl_appends State.duty (Duty.tally cfg.offlineThreshold) duty_countOffline
    State.events (Duty.tallyEvents cfg.offlineThreshold) events_countOffline
    hs.desired_nodup s

/-- The kicks of a boundary leave the account's bookkeeping alone if it was not
flagged, until its own round of the offline loop. -/
theorem duty_afterKicks {s : State cfg} (hs : Seats s) (who : AccountId) :
    (afterKicks s).duty who =
      { (if who ∈ s.desiredValidators.toList then
          ((processEquivocations s).duty who).tally cfg.offlineThreshold
        else (processEquivocations s).duty who) with reported := false } := by
  have hkicks := processEquivocations_effect s
  have hseats : Seats (processEquivocations s) :=
    hs.congr hkicks.desiredValidators hkicks.pendingValidators
  have hdesired : (processEquivocations s).desiredValidators =
      s.desiredValidators := hkicks.desiredValidators
  unfold afterKicks
  rw [duty_processOfflineCounters hseats, hdesired]

/-- What draining the queue does to the bookkeeping: dropped candidates lose
their count, and the log grows by the drops. -/
structure QueueEffect
    (acc acc' : BoundedVec AccountId cfg.maxValidators × State cfg) : Prop where
  offlineThisSession : acc.2.offlineThisSession = StorageMap.empty ->
    acc'.2.offlineThisSession = StorageMap.empty
  count : forall who,
    acc'.2.offlineSessionCount.get who = acc.2.offlineSessionCount.get who ∨
    acc'.2.offlineSessionCount.get who = none
  countOfMember : forall who, who ∈ acc.1.toList ->
    acc'.2.offlineSessionCount.get who = acc.2.offlineSessionCount.get who
  members : forall who, who ∈ acc.1.toList -> who ∈ acc'.1.toList
  events : exists drops, acc'.2.events = acc.2.events ++ drops ∧
    forall who reason, Event.validatorKicked who reason ∉ drops

theorem QueueEffect.refl
    (acc : BoundedVec AccountId cfg.maxValidators × State cfg) :
    QueueEffect acc acc where
  offlineThisSession := id
  count := fun _ => Or.inl rfl
  countOfMember := fun _ _ => rfl
  members := fun _ h => h
  events := ⟨[], by simp, by simp⟩

theorem QueueEffect.trans
    {acc acc' acc'' : BoundedVec AccountId cfg.maxValidators × State cfg}
    (h : QueueEffect acc acc') (h' : QueueEffect acc' acc'') :
    QueueEffect acc acc'' where
  offlineThisSession := fun hempty =>
    h'.offlineThisSession (h.offlineThisSession hempty)
  count := by
    intro who
    rcases h'.count who with hsame | hnone
    · rw [hsame]
      exact h.count who
    · exact Or.inr hnone
  countOfMember := by
    intro who hmem
    rw [h'.countOfMember who (h.members who hmem), h.countOfMember who hmem]
  members := fun who hmem => h'.members who (h.members who hmem)
  events := by
    rcases h.events with ⟨drops, heq, hdrops⟩
    rcases h'.events with ⟨drops', heq', hdrops'⟩
    refine ⟨drops ++ drops', ?_, ?_⟩
    · rw [heq', heq, List.append_assoc]
    · intro who reason hmem
      rcases List.mem_append.mp hmem with hfirst | hsecond
      · exact hdrops who reason hfirst
      · exact hdrops' who reason hsecond

theorem promoteCandidate_queueEffect (env : Environment AccountId)
    (acc : BoundedVec AccountId cfg.maxValidators × State cfg)
    (who : AccountId) : QueueEffect acc (promoteCandidate env acc who) := by
  have hmembers : forall other, other ∈ acc.1.toList ->
      other ∈ (promoteCandidate env acc who).1.toList :=
    fun _ => promoteCandidate_keeps env acc who
  rcases promoteCandidate_cases env acc who with
    ⟨_, heq⟩ | ⟨_, hout, _, heq⟩ | ⟨_, _, _, _, heq⟩
  · rw [heq]
    exact QueueEffect.refl acc
  · rw [heq] at hmembers ⊢
    refine ⟨?_, ?_, ?_, hmembers, ?_⟩
    · intro hempty
      show acc.2.offlineThisSession.remove who = _
      rw [hempty]
      rfl
    · intro other
      show (acc.2.offlineSessionCount.remove who).get other = _ ∨
        (acc.2.offlineSessionCount.remove who).get other = none
      rw [StorageMap.get_remove]
      split
      · exact Or.inr rfl
      · exact Or.inl rfl
    · intro other hmem
      have hne : other ≠ who := by
        rintro rfl
        exact hout hmem
      exact StorageMap.get_remove_of_ne _ hne
    · exact ⟨[Event.pendingValidatorDropped who], rfl, by simp⟩
  · rw [heq] at hmembers ⊢
    exact ⟨id, fun _ => Or.inl rfl, fun _ _ => rfl, hmembers,
      ⟨[], by simp, by simp⟩⟩

theorem promoteCandidates_queueEffect (env : Environment AccountId)
    (s : State cfg) :
    QueueEffect (keepMembers s, s) (promoteCandidates env s) := by
  have hloop := foldl_related QueueEffect QueueEffect.refl
    (fun _ _ _ => QueueEffect.trans) s.pendingValidators.toList
    (fun acc who _ => promoteCandidate_queueEffect env acc who)
    (keepMembers s, { s with pendingValidators := BoundedVec.empty })
  exact ⟨hloop.offlineThisSession, hloop.count, hloop.countOfMember,
    hloop.members, hloop.events⟩

def boundaryEvents (env : Environment AccountId) (s : State cfg) :
    List (Event AccountId) :=
  (newSession env s).2.events.drop s.events.length

/-- The accounts a boundary kicks for being offline are the seated ones whose
round of the offline loop finds them overdue. -/
theorem mem_boundaryEvents {s : State cfg} (hs : Seats s)
    (env : Environment AccountId) (who : AccountId) :
    Event.validatorKicked who KickReason.offline ∈ boundaryEvents env s <->
      who ∈ s.desiredValidators.toList ∧
        ((processEquivocations s).duty who).overdue
          cfg.offlineThreshold = true := by
  have hkicks := processEquivocations_effect s
  have hseats : Seats (processEquivocations s) :=
    hs.congr hkicks.desiredValidators hkicks.pendingValidators
  have hdesired : (processEquivocations s).desiredValidators =
      s.desiredValidators := hkicks.desiredValidators
  rcases events_processEquivocations s with ⟨flagged, hflagged, hnone⟩
  rcases (promoteCandidates_queueEffect env (afterKicks s)).events with
    ⟨drops, hdrops, hnodrop⟩
  have hafter : (afterKicks s).events = s.events ++ flagged ++
      s.desiredValidators.toList.flatMap (fun who =>
        ((processEquivocations s).duty who).tallyEvents
          cfg.offlineThreshold who) := by
    unfold afterKicks
    rw [events_processOfflineCounters hseats, hflagged, hdesired]
  unfold boundaryEvents
  rw [newSession_state]
  dsimp only
  rw [hdrops, hafter, List.append_assoc, List.append_assoc, List.drop_left,
    List.mem_append, List.mem_append]
  constructor
  · rintro (hmem | hmem | hmem)
    · exact absurd hmem (hnone who)
    · rcases List.mem_flatMap.mp hmem with ⟨kicked, hkicked, hevent⟩
      unfold Duty.tallyEvents at hevent
      split at hevent
      · rename_i hover
        cases List.mem_singleton.mp hevent
        exact ⟨hkicked, hover⟩
      · cases hevent
    · exact absurd hmem (hnodrop who KickReason.offline)
  · rintro ⟨hmem, hover⟩
    refine Or.inr (Or.inl (List.mem_flatMap.mpr ⟨who, hmem, ?_⟩))
    rw [Duty.tallyEvents, if_pos hover]
    exact List.mem_singleton.mpr rfl

end Validator
end Numen
