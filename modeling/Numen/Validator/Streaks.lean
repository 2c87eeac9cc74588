import Numen.Validator.Kicks
import Numen.Validator.Offline

/-!
# The consecutive-offline rule

The streak of a validator is kept in two maps, a flag for the running session
and a count of the sessions before it, and both are cleared on several paths.
This module states the rule over the history of sessions, without the maps, and
shows that the maps implement it.
-/

namespace Numen
namespace Validator

open Foundation

variable {AccountId Locks : Type} [DecidableEq AccountId]
variable {cfg : Config AccountId Locks}

/-!
## The history of sessions
-/

/-- A session: the state that genesis or a boundary opened it with, and the
calls made since. -/
structure Session (cfg : Config AccountId Locks) where
  start : State cfg
  calls : List (Label AccountId)

def Session.finish (session : Session cfg) : State cfg :=
  session.calls.foldl step session.start

def Session.extend (session : Session cfg) (label : Label AccountId) :
    Session cfg :=
  { session with calls := session.calls ++ [label] }

@[simp] theorem Session.finish_extend (session : Session cfg)
    (label : Label AccountId) :
    (session.extend label).finish = step session.finish label := by
  simp [Session.finish, Session.extend]

def Session.next (session : Session cfg) (env : Environment AccountId) :
    Session cfg :=
  { start := (newSession env session.finish).2, calls := [] }

@[simp] theorem Session.finish_next (session : Session cfg)
    (env : Environment AccountId) :
    (session.next env).finish = (newSession env session.finish).2 :=
  rfl

/-- `History initialValidators past current`: a run from genesis, cut at its
boundaries.  `past` holds the finished sessions, the latest first. -/
inductive History (initialValidators : List AccountId) :
    List (Session cfg) -> Session cfg -> Prop where
  | genesis {g : State cfg} :
      build cfg initialValidators = some g ->
      History initialValidators [] { start := g, calls := [] }
  | call {past : List (Session cfg)} {current : Session cfg}
      {label : Label AccountId} :
      History initialValidators past current ->
      Allowed current.finish label -> ¬ label.IsBoundary ->
      History initialValidators past (current.extend label)
  | boundary {past : List (Session cfg)} {current : Session cfg}
      (env : Environment AccountId) :
      History initialValidators past current ->
      History initialValidators (current :: past) (current.next env)

theorem ReachedBy.history {initialValidators : List AccountId}
    {labels : List (Label AccountId)} {s : State cfg}
    (h : ReachedBy initialValidators labels s) :
    exists past current, History initialValidators past current ∧
      current.finish = s := by
  rcases h with ⟨g, hbuild, hrun⟩
  have hextend : forall past current,
      History initialValidators past current -> current.finish = g ->
        exists past' current', History initialValidators past' current' ∧
          current'.finish = s := by
    clear hbuild
    induction hrun with
    | nil s =>
        intro past current hhistory hfinish
        exact ⟨past, current, hhistory, hfinish⟩
    | @cons before _ label _ hallowed _ ih =>
        intro past current hhistory hfinish
        by_cases hboundary : label.IsBoundary
        · cases label with
          | newSession env =>
              apply ih (current :: past) (current.next env)
                (History.boundary env hhistory)
              rw [← hfinish]
              rfl
          | _ => exact absurd hboundary id
        · rw [← hfinish] at hallowed
          apply ih past (current.extend label)
            (History.call hhistory hallowed hboundary)
          rw [Session.finish_extend, hfinish]
  exact hextend [] _ (History.genesis hbuild) rfl

def State.onDuty (s : State cfg) (who : AccountId) : Bool :=
  decide (who ∈ s.desiredValidators.toList) && s.isActive who

/-- Whether `who` is on duty in `s` and after every one of `calls`. -/
def staysOnDuty (who : AccountId) (s : State cfg) :
    List (Label AccountId) -> Bool
  | [] => s.onDuty who
  | label :: rest => s.onDuty who && staysOnDuty who (step s label) rest

def Label.reportsOffline (who : AccountId) : Label AccountId -> Bool
  | Label.noteOffline reported => decide (reported = who)
  | _ => false

/-- `who` entered the session on duty, did not leave during it, and was
reported offline in it. -/
def Session.missed (session : Session cfg) (who : AccountId) : Bool :=
  staysOnDuty who session.start session.calls &&
    session.calls.any (Label.reportsOffline who)

/-- How many of the latest sessions `who` missed in a row. -/
def streak (who : AccountId) (sessions : List (Session cfg)) : Nat :=
  (sessions.takeWhile (fun session => session.missed who)).length

theorem streak_cons (who : AccountId) (session : Session cfg)
    (past : List (Session cfg)) :
    streak who (session :: past) =
      if session.missed who then streak who past + 1 else 0 := by
  unfold streak
  cases hmissed : session.missed who with
  | false => simp [hmissed]
  | true => simp [hmissed]

theorem le_streak_iff (who : AccountId) (n : Nat)
    (sessions : List (Session cfg)) :
    n ≤ streak who sessions <->
      n ≤ sessions.length ∧
        forall session, session ∈ sessions.take n ->
          session.missed who = true := by
  induction sessions generalizing n with
  | nil =>
      simp [streak]
  | cons session past ih =>
      cases n with
      | zero =>
          simp
      | succ n =>
          rw [streak_cons, List.take_succ_cons, List.length_cons]
          cases hmissed : session.missed who with
          | false =>
              simp [hmissed]
          | true =>
              simp [hmissed, ih n]

/-!
## Calls within a session
-/

theorem offlineThisSession_step {s : State cfg} {label : Label AccountId}
    (hlabel : ¬ label.IsBoundary) (who : AccountId) :
    (step s label).offlineThisSession.containsKey who =
      (s.offlineThisSession.containsKey who ||
        (label.reportsOffline who && s.validatorLocks.containsKey who)) := by
  cases label with
  | lock env origin =>
      cases h : lock env origin s with
      | error error => simp [step, h, commitOrRollBack, Label.reportsOffline]
      | ok t =>
          rcases lock_eq_ok_iff.mp h with ⟨caller, _, _, rfl⟩
          simp [step, h, commitOrRollBack, Label.reportsOffline, commitLock,
            State.depositEvent]
  | requestExit origin =>
      cases h : requestExit origin s with
      | error error => simp [step, h, commitOrRollBack, Label.reportsOffline]
      | ok t =>
          rcases requestExit_eq_ok h with ⟨caller, info, _, _, _, rfl⟩
          simp [step, h, commitOrRollBack, Label.reportsOffline, commitExit,
            State.depositEvent]
  | setStakeExempt origin target exempt =>
      simp only [step, setStakeExempt, Label.reportsOffline, Bool.false_and,
        Bool.or_false]
      split <;> rfl
  | noteOffline reported =>
      simp only [step, noteOffline, Label.reportsOffline]
      by_cases hself : who = reported
      · subst hself
        cases hrecord : s.validatorLocks.containsKey who with
        | false => simp
        | true => simp [StorageMap.containsKey]
      · have hne : ¬ reported = who := fun h => hself h.symm
        cases s.validatorLocks.containsKey reported with
        | false => simp [hne]
        | true =>
            simp [StorageMap.containsKey, hne,
              StorageMap.get_insert_of_ne _ _ hself]
  | noteEquivocation reported =>
      simp only [step, noteEquivocation, Label.reportsOffline, Bool.false_and,
        Bool.or_false]
      split
      · rfl
      · split <;> rfl
  | newSession env => exact absurd True.intro hlabel
  | onInitialize =>
      show (onInitialize s.block s).2.offlineThisSession.containsKey who = _
      rw [(onInitialize_sameBesidesLocks s.block s).offlineThisSession]
      simp [Label.reportsOffline]
  | advance block => simp [step, Label.reportsOffline]

theorem State.onDuty_eq_true {s : State cfg} {who : AccountId} :
    s.onDuty who = true <->
      who ∈ s.desiredValidators.toList ∧ s.isActive who = true := by
  simp [State.onDuty]

/-- Whoever is on duty after a call was on duty before it: a seated account
cannot lock again. -/
theorem onDuty_of_onDuty_step {s : State cfg} {label : Label AccountId}
    (hallowed : Allowed s label) (hlabel : ¬ label.IsBoundary)
    {who : AccountId} (h : (step s label).onDuty who = true) :
    s.onDuty who = true := by
  rcases State.onDuty_eq_true.mp h with ⟨hmem, hactive⟩
  rw [(step_within_session hallowed hlabel).left] at hmem
  rcases step_isActive hallowed hactive with hbefore | ⟨_, _, hguards⟩
  · exact State.onDuty_eq_true.mpr ⟨hmem, hbefore⟩
  · exact absurd hmem hguards.notDesired

theorem staysOnDuty_append (who : AccountId) (s : State cfg)
    (calls : List (Label AccountId)) (label : Label AccountId) :
    staysOnDuty who s (calls ++ [label]) =
      (staysOnDuty who s calls &&
        (step (calls.foldl step s) label).onDuty who) := by
  induction calls generalizing s with
  | nil => rfl
  | cons first rest ih =>
      show (s.onDuty who && staysOnDuty who (step s first) (rest ++ [label])) =
        _
      rw [ih, ← Bool.and_assoc]
      rfl

/-!
## The maps agree with the history
-/

/-- What the maps hold while `current` runs after the sessions `past`. -/
structure Tracked (past : List (Session cfg)) (current : Session cfg) :
    Prop where
  seats : Seats current.finish
  counted : forall who n, current.finish.offlineSessionCount.get who = some n ->
    who ∈ current.finish.desiredValidators.toList
  streaks : forall who, who ∈ current.finish.desiredValidators.toList ->
    (current.finish.offlineSessionCount.get who).getD 0 = streak who past
  below : forall who,
    (current.finish.offlineSessionCount.get who).getD 0 < cfg.offlineThreshold
  onDuty : forall who,
    staysOnDuty who current.start current.calls = current.finish.onDuty who
  reported : forall who, current.finish.onDuty who = true ->
    current.finish.offlineThisSession.containsKey who =
      current.calls.any (Label.reportsOffline who)

theorem genesis_tracked (hthreshold : 1 ≤ cfg.offlineThreshold) {g : State cfg}
    (hg : GenesisShape g) : Tracked [] { start := g, calls := [] } where
  seats := genesis_seats hg
  counted := by
    intro who n hcount
    change g.offlineSessionCount.get who = some n at hcount
    rw [hg.offlineSessionCount] at hcount
    cases hcount
  streaks := by
    intro who _
    change (g.offlineSessionCount.get who).getD 0 = 0
    rw [hg.offlineSessionCount]
    rfl
  below := by
    intro who
    change (g.offlineSessionCount.get who).getD 0 < _
    rw [hg.offlineSessionCount]
    exact hthreshold
  onDuty := fun _ => rfl
  reported := by
    intro who _
    change g.offlineThisSession.containsKey who = false
    rw [hg.offlineThisSession]
    rfl

theorem call_tracked {past : List (Session cfg)} {current : Session cfg}
    {label : Label AccountId} (h : Tracked past current)
    (hallowed : Allowed current.finish label) (hlabel : ¬ label.IsBoundary) :
    Tracked past (current.extend label) := by
  have hwithin := step_within_session hallowed hlabel
  constructor
  · rw [Session.finish_extend]
    exact step_seats hallowed h.seats
  · rw [Session.finish_extend, hwithin.left, hwithin.right]
    exact h.counted
  · rw [Session.finish_extend, hwithin.left, hwithin.right]
    exact h.streaks
  · rw [Session.finish_extend, hwithin.right]
    exact h.below
  · intro who
    have hback : (step current.finish label).onDuty who = true ->
        current.finish.onDuty who = true :=
      onDuty_of_onDuty_step hallowed hlabel
    rw [Session.finish_extend]
    refine (staysOnDuty_append who current.start current.calls label).trans ?_
    change (_ && (step current.finish label).onDuty who) = _
    rw [h.onDuty who]
    cases hduty : (step current.finish label).onDuty who with
    | false => exact Bool.and_false _
    | true => rw [hback hduty, Bool.and_self]
  · intro who hduty
    rw [Session.finish_extend] at hduty ⊢
    have hbefore := onDuty_of_onDuty_step hallowed hlabel hduty
    have hrecord : current.finish.validatorLocks.containsKey who = true := by
      rcases State.isActive_eq_true.mp
        (State.onDuty_eq_true.mp hbefore).right with ⟨info, hget, _⟩
      exact StorageMap.containsKey_eq_true.mpr ⟨info, hget⟩
    rw [offlineThisSession_step hlabel, h.reported who hbefore, hrecord]
    simp [Session.extend]

theorem Tracked.missed {past : List (Session cfg)} {current : Session cfg}
    (h : Tracked past current) (who : AccountId) :
    current.missed who =
      (current.finish.onDuty who &&
        current.finish.offlineThisSession.containsKey who) := by
  unfold Session.missed
  rw [h.onDuty who]
  cases hduty : current.finish.onDuty who with
  | false => rfl
  | true => rw [h.reported who hduty]

theorem Tracked.succ_count {past : List (Session cfg)} {current : Session cfg}
    (h : Tracked past current) {who : AccountId}
    (hmem : who ∈ current.finish.desiredValidators.toList) :
    satAdd u32Max ((current.finish.offlineSessionCount.get who).getD 0) 1 =
      streak who past + 1 := by
  have hbelow := h.below who
  have hbound := cfg.offlineThreshold_le
  rw [satAdd_eq_add (by lia), h.streaks who hmem]

/-!
## The boundary
-/

/-- On duty at the boundary and not flagged: subject to the offline rule. -/
def State.accountable (s : State cfg) (who : AccountId) : Bool :=
  s.onDuty who && !s.equivocationThisSession.containsKey who

theorem State.accountable_eq_true {s : State cfg} {who : AccountId} :
    s.accountable who = true <->
      who ∈ s.desiredValidators.toList ∧ s.isActive who = true ∧
        s.equivocationThisSession.containsKey who = false := by
  simp [State.accountable, State.onDuty, and_assoc]

theorem duty_of_accountable {s : State cfg} {who : AccountId}
    (h : s.accountable who = true) :
    (processEquivocations s).duty who = s.duty who := by
  rw [duty_processEquivocations,
    (State.accountable_eq_true.mp h).right.right]
  rfl

theorem duty_of_not_accountable {s : State cfg} {who : AccountId}
    (hmem : who ∈ s.desiredValidators.toList)
    (h : s.accountable who = false) :
    ((processEquivocations s).duty who).active = false := by
  rw [duty_processEquivocations]
  unfold Duty.kick State.duty
  cases hactive : s.isActive who with
  | false =>
      simp
  | true =>
      have hflag : s.equivocationThisSession.containsKey who = true := by
        simpa [State.accountable, State.onDuty, hmem, hactive] using h
      simp [hflag]

theorem count_processEquivocations_of_not_mem {s : State cfg}
    (hcounted : forall who n, s.offlineSessionCount.get who = some n ->
      who ∈ s.desiredValidators.toList) {who : AccountId}
    (hmem : who ∉ s.desiredValidators.toList) :
    ((processEquivocations s).duty who).count = none := by
  have hnone : s.offlineSessionCount.get who = none := by
    cases hcount : s.offlineSessionCount.get who with
    | none => rfl
    | some n => exact absurd (hcounted who n hcount) hmem
  rw [duty_processEquivocations]
  unfold Duty.kick State.duty
  rw [hnone]
  split
  · split <;> rfl
  · rfl

/-- The count after the kicks: one more for an accountable account that was
reported and stays below the threshold, and nothing for anybody else. -/
theorem count_afterKicks {s : State cfg} (hs : Seats s)
    (hcounted : forall who n, s.offlineSessionCount.get who = some n ->
      who ∈ s.desiredValidators.toList) (who : AccountId) :
    (afterKicks s).offlineSessionCount.get who =
      if s.accountable who && s.offlineThisSession.containsKey who &&
          decide (satAdd u32Max ((s.offlineSessionCount.get who).getD 0) 1 <
            cfg.offlineThreshold) then
        some (satAdd u32Max ((s.offlineSessionCount.get who).getD 0) 1)
      else none := by
  have hduty := congrArg Duty.count (duty_afterKicks hs who)
  refine hduty.trans ?_
  dsimp only
  by_cases hmem : who ∈ s.desiredValidators.toList
  · rw [if_pos hmem]
    rw [Duty.count_tally]
    cases haccountable : s.accountable who with
    | false =>
        rw [duty_of_not_accountable hmem haccountable]
        rfl
    | true =>
        rw [duty_of_accountable haccountable]
        unfold State.duty
        dsimp only
        rw [(State.accountable_eq_true.mp haccountable).right.left]
  · rw [if_neg hmem]
    have hout : s.accountable who = false := by
      simp [State.accountable, State.onDuty, hmem]
    rw [hout]
    exact count_processEquivocations_of_not_mem hcounted hmem

theorem isActive_afterKicks {s : State cfg} (hs : Seats s) {who : AccountId}
    (hmem : who ∈ s.desiredValidators.toList) :
    (afterKicks s).isActive who =
      (s.accountable who && !(s.duty who).overdue cfg.offlineThreshold) := by
  have hduty := congrArg Duty.active (duty_afterKicks hs who)
  refine hduty.trans ?_
  dsimp only
  rw [if_pos hmem, Duty.active_tally]
  cases haccountable : s.accountable who with
  | false =>
      rw [duty_of_not_accountable hmem haccountable]
      rfl
  | true =>
      have hactive : (s.duty who).active = true :=
        (State.accountable_eq_true.mp haccountable).right.left
      rw [duty_of_accountable haccountable, hactive]

theorem count_newSession {s : State cfg} (hs : Seats s)
    (hcounted : forall who n, s.offlineSessionCount.get who = some n ->
      who ∈ s.desiredValidators.toList)
    (env : Environment AccountId) (who : AccountId) :
    (newSession env s).2.offlineSessionCount.get who =
        (afterKicks s).offlineSessionCount.get who ∧
      forall n, (newSession env s).2.offlineSessionCount.get who = some n ->
        who ∈ (newSession env s).2.desiredValidators.toList := by
  have hqueue := promoteCandidates_queueEffect env (afterKicks s)
  -- whoever still has a count after the kicks is kept in the set
  have hkept : forall n, (afterKicks s).offlineSessionCount.get who = some n ->
      who ∈ (keepMembers (afterKicks s)).toList := by
    intro n hcount
    rw [count_afterKicks hs hcounted] at hcount
    split at hcount
    · rename_i hcond
      simp only [Bool.and_eq_true, decide_eq_true_eq] at hcond
      have hmem := (State.accountable_eq_true.mp hcond.left.left).left
      rw [toList_keepMembers, List.mem_filter]
      constructor
      · rw [(afterKicks_effect s).desiredValidators]
        exact hmem
      · rw [isActive_afterKicks hs hmem, hcond.left.left]
        simp [Duty.overdue, State.duty, hcond.right]
    · cases hcount
  rw [newSession_state]
  dsimp only
  cases hcount : (afterKicks s).offlineSessionCount.get who with
  | none =>
      have hnone : (promoteCandidates env
          (afterKicks s)).2.offlineSessionCount.get who = none := by
        rcases hqueue.count who with hsame | hnone
        · exact hsame.trans hcount
        · exact hnone
      rw [hnone]
      exact ⟨rfl, fun n h => by cases h⟩
  | some n =>
      have hmem := hkept n hcount
      exact ⟨(hqueue.countOfMember who hmem).trans hcount,
        fun _ _ => hqueue.members who hmem⟩

theorem offlineThisSession_newSession (env : Environment AccountId)
    (s : State cfg) :
    (newSession env s).2.offlineThisSession = StorageMap.empty := by
  rw [newSession_state]
  exact (promoteCandidates_queueEffect env (afterKicks s)).offlineThisSession rfl

theorem streak_of_mem_newSession {past : List (Session cfg)}
    {current : Session cfg} (h : Tracked past current)
    (env : Environment AccountId) {who : AccountId}
    (hmem : who ∈ (newSession env current.finish).2.desiredValidators.toList) :
    ((newSession env current.finish).2.offlineSessionCount.get who).getD 0 =
      streak who (current :: past) := by
  rw [(count_newSession h.seats h.counted env who).left,
    count_afterKicks h.seats h.counted, streak_cons, h.missed who]
  rw [toList_newSession h.seats env, List.mem_append, List.mem_filter,
    List.mem_filter] at hmem
  rcases hmem with ⟨hdesired, hactive⟩ | ⟨hpending, _⟩
  · rw [isActive_afterKicks h.seats hdesired, Bool.and_eq_true] at hactive
    have hduty : current.finish.onDuty who = true := by
      have haccountable := State.accountable_eq_true.mp hactive.left
      exact State.onDuty_eq_true.mpr ⟨hdesired, haccountable.right.left⟩
    have hoverdue := hactive.right
    unfold Duty.overdue State.duty at hoverdue
    dsimp only at hoverdue
    rw [(State.onDuty_eq_true.mp hduty).right] at hoverdue
    rw [hactive.left, hduty]
    cases hreported : current.finish.offlineThisSession.containsKey who with
    | false => rfl
    | true =>
        rw [hreported] at hoverdue
        have hbelow : satAdd u32Max
            ((current.finish.offlineSessionCount.get who).getD 0) 1 <
              cfg.offlineThreshold := by
          simpa using hoverdue
        simp only [Bool.and_self, Bool.true_and, if_true,
          if_pos (decide_eq_true hbelow), Option.getD_some]
        exact h.succ_count hdesired
  · have hout : who ∉ current.finish.desiredValidators.toList :=
      fun hdesired => h.seats.disjoint hdesired hpending
    simp [State.accountable, State.onDuty, hout]

theorem boundary_tracked (hthreshold : 1 ≤ cfg.offlineThreshold)
    {past : List (Session cfg)} {current : Session cfg}
    (h : Tracked past current) (env : Environment AccountId) :
    Tracked (current :: past) (current.next env) := by
  constructor
  · rw [Session.finish_next]
    exact newSession_seats h.seats env
  · intro who
    rw [Session.finish_next]
    exact (count_newSession h.seats h.counted env who).right
  · intro who
    rw [Session.finish_next]
    exact streak_of_mem_newSession h env
  · intro who
    rw [Session.finish_next, (count_newSession h.seats h.counted env who).left,
      count_afterKicks h.seats h.counted]
    split
    · rename_i hcond
      simp only [Bool.and_eq_true, decide_eq_true_eq] at hcond
      exact hcond.right
    · exact hthreshold
  · intro who
    rfl
  · intro who _
    rw [Session.finish_next, offlineThisSession_newSession]
    rfl

theorem History.tracked (hthreshold : 1 ≤ cfg.offlineThreshold)
    {initialValidators : List AccountId} {past : List (Session cfg)}
    {current : Session cfg} (h : History initialValidators past current) :
    Tracked past current := by
  induction h with
  | genesis hbuild =>
      exact genesis_tracked hthreshold (build_genesisShape hbuild)
  | call _ hallowed hlabel ih =>
      exact call_tracked ih hallowed hlabel
  | boundary env _ ih =>
      exact boundary_tracked hthreshold ih env

/-- At every boundary of every run, the accounts kicked for being offline are
exactly the members on duty and not flagged that missed each of the last
`OfflineThreshold` sessions.  Afterwards a count is nonzero for members of the
new set only, where it is the member's streak and below the threshold, and the
flags of the session are gone. -/
theorem offline_kick_iff_missed_threshold_sessions
    (hthreshold : 1 ≤ cfg.offlineThreshold)
    {initialValidators : List AccountId} {past : List (Session cfg)}
    {current : Session cfg} (h : History initialValidators past current)
    (env : Environment AccountId) :
    (forall who,
      Event.validatorKicked who KickReason.offline ∈
          boundaryEvents env current.finish <->
        who ∈ current.finish.desiredValidators.toList ∧
        current.finish.isActive who = true ∧
        current.finish.equivocationThisSession.containsKey who = false ∧
        cfg.offlineThreshold ≤ (current :: past).length ∧
        forall session,
          session ∈ (current :: past).take cfg.offlineThreshold ->
          session.missed who = true) ∧
    (forall who,
      ((newSession env current.finish).2.offlineSessionCount.get who).getD 0 ≠
          0 ->
        who ∈ (newSession env current.finish).2.desiredValidators.toList) ∧
    (forall who,
      who ∈ (newSession env current.finish).2.desiredValidators.toList ->
        ((newSession env current.finish).2.offlineSessionCount.get who).getD 0 =
            streak who (current :: past) ∧
          ((newSession env current.finish).2.offlineSessionCount.get
            who).getD 0 < cfg.offlineThreshold) ∧
    (newSession env current.finish).2.offlineThisSession =
      StorageMap.empty ∧
    (newSession env current.finish).2.equivocationThisSession =
      StorageMap.empty := by
  have htracked := h.tracked hthreshold
  have hnext := boundary_tracked hthreshold htracked env
  have hcounted := hnext.counted
  have hstreaks := hnext.streaks
  have hbelow := hnext.below
  rw [Session.finish_next] at hcounted hstreaks hbelow
  refine ⟨?_, ?_, ?_, offlineThisSession_newSession env _,
    (newSession_effect env _).equivocationThisSession⟩
  · intro who
    rw [mem_boundaryEvents htracked.seats env who, ← le_streak_iff,
      streak_cons, htracked.missed who]
    constructor
    · rintro ⟨hmem, hoverdue⟩
      cases haccountable : current.finish.accountable who with
      | false =>
          simp [Duty.overdue, duty_of_not_accountable hmem haccountable]
            at hoverdue
      | true =>
          have hparts := State.accountable_eq_true.mp haccountable
          refine ⟨hmem, hparts.right.left, hparts.right.right, ?_⟩
          rw [duty_of_accountable haccountable] at hoverdue
          rcases Duty.overdue_eq_true.mp hoverdue with ⟨_, hreported, hover⟩
          change _ ≤ satAdd u32Max
            ((current.finish.offlineSessionCount.get who).getD 0) 1 at hover
          change current.finish.offlineThisSession.containsKey who = true
            at hreported
          rw [htracked.succ_count hmem] at hover
          rw [State.onDuty_eq_true.mpr ⟨hmem, hparts.right.left⟩, hreported]
          exact hover
    · rintro ⟨hmem, hactive, hflag, hstreak⟩
      refine ⟨hmem, ?_⟩
      rw [duty_of_accountable
        (State.accountable_eq_true.mpr ⟨hmem, hactive, hflag⟩)]
      split at hstreak
      · rename_i hmissed
        rw [Bool.and_eq_true] at hmissed
        rw [← htracked.succ_count hmem] at hstreak
        exact Duty.overdue_eq_true.mpr ⟨hactive, hmissed.right, hstreak⟩
      · exact absurd hthreshold (by lia)
  · intro who hcount
    cases hget : (newSession env
        current.finish).2.offlineSessionCount.get who with
    | none =>
        rw [hget] at hcount
        exact absurd rfl hcount
    | some n => exact hcounted who n hget
  · intro who hmem
    exact ⟨hstreaks who hmem, hbelow who⟩

/-- The session in which the only validator of the mock chain is reported. -/
def mockReported (session : Session mockConfig) : Session mockConfig :=
  session.extend (Label.noteOffline 1)

/-- Account 1 is reported in two sessions running, which is the threshold of the
mock chain: the first boundary counts, the second kicks. -/
theorem second_missed_session_kicks :
    let first := mockReported { start := mockGenesis, calls := [] }
    let second := mockReported (first.next mockEnvironment)
    Event.validatorKicked 1 KickReason.offline ∉
        boundaryEvents mockEnvironment first.finish ∧
      streak 1 [first] = 1 ∧
      Event.validatorKicked 1 KickReason.offline ∈
        boundaryEvents mockEnvironment second.finish := by
  intro first second
  have hfirst : History [1] [] first :=
    History.call (History.genesis build_mockGenesis) True.intro id
  have hsecond : History [1] [first] second :=
    History.call (History.boundary mockEnvironment hfirst) True.intro id
  refine ⟨?_, by decide +kernel, ?_⟩
  · rw [(offline_kick_iff_missed_threshold_sessions (by decide) hfirst
      mockEnvironment).left]
    rintro ⟨_, _, _, hlength, _⟩
    exact absurd hlength (by decide)
  · rw [(offline_kick_iff_missed_threshold_sessions (by decide) hsecond
      mockEnvironment).left]
    refine ⟨by decide +kernel, by decide +kernel, by decide +kernel,
      by decide, ?_⟩
    decide +kernel

end Validator
end Numen
