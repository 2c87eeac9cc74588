import Numen.Validator.Transitions

/-!
# Seats in the validator set

`DesiredValidators` and `PendingValidators` share `MaxValidators` seats, every
account takes at most one of them, and no push the pallet makes is ever refused.
The refusals are swallowed in the source, so each would lose a staked candidate
without a trace.
-/

namespace Numen
namespace Validator

open Foundation

variable {AccountId Locks : Type} [DecidableEq AccountId]
variable {cfg : Config AccountId Locks}

structure Seats (s : State cfg) : Prop where
  desired_nodup : s.desiredValidators.toList.Nodup
  pending_nodup : s.pendingValidators.toList.Nodup
  disjoint : s.desiredValidators.toList.Disjoint s.pendingValidators.toList
  room : s.desiredValidators.toList.length +
    s.pendingValidators.toList.length ≤ cfg.maxValidators

omit [DecidableEq AccountId] in
theorem Seats.congr {s t : State cfg} (hs : Seats s)
    (hdesired : t.desiredValidators = s.desiredValidators)
    (hpending : t.pendingValidators = s.pendingValidators) : Seats t := by
  constructor
  · rw [hdesired]
    exact hs.desired_nodup
  · rw [hpending]
    exact hs.pending_nodup
  · rw [hdesired, hpending]
    exact hs.disjoint
  · rw [hdesired, hpending]
    exact hs.room

theorem afterKicks_seats {s : State cfg} (hs : Seats s) :
    Seats (afterKicks s) :=
  hs.congr (afterKicks_effect s).desiredValidators
    (afterKicks_effect s).pendingValidators

/-!
## The queue loop with room to spare
-/

/-- One round, when the candidate is new and there is room: the candidate is
promoted exactly when it is `Active` and has keys, and nobody else's record is
touched. -/
theorem promoteCandidate_of_room (env : Environment AccountId)
    {acc : BoundedVec AccountId cfg.maxValidators × State cfg}
    {who : AccountId} (hnew : who ∉ acc.1.toList)
    (hroom : acc.1.toList.length < cfg.maxValidators) :
    (promoteCandidate env acc who).1.toList =
        acc.1.toList ++
          [who].filter (fun w => acc.2.isActive w && env.hasKeys w) ∧
      forall other, other ≠ who ->
        (promoteCandidate env acc who).2.isActive other =
          acc.2.isActive other := by
  rcases promoteCandidate_cases env acc who with
    ⟨hskip, heq⟩ | ⟨hactive, _, hdrop, heq⟩ | ⟨hactive, _, hkeys, _, heq⟩
  · have hinactive : acc.2.isActive who = false :=
      hskip.resolve_right hnew
    rw [heq]
    exact ⟨by simp [hinactive], fun _ _ => rfl⟩
  · have hnokeys : env.hasKeys who = false := by
      apply hdrop.resolve_right
      rw [BoundedVec.isFull_eq_false.mpr hroom]
      simp
    rw [heq]
    refine ⟨by simp [hnokeys], ?_⟩
    intro other hne
    exact State.isActive_congr (get_dropPendingCandidate_of_ne acc.2 hne)
  · rw [heq]
    refine ⟨?_, fun _ _ => rfl⟩
    rw [BoundedVec.toList_pushOrDrop_of_lt who hroom]
    simp [hactive, hkeys]

theorem toList_foldl_promoteCandidate (env : Environment AccountId)
    (queue : List AccountId)
    (acc : BoundedVec AccountId cfg.maxValidators × State cfg)
    (hnodup : queue.Nodup) (hdisjoint : acc.1.toList.Disjoint queue)
    (hroom : acc.1.toList.length + queue.length ≤ cfg.maxValidators) :
    (queue.foldl (promoteCandidate env) acc).1.toList =
      acc.1.toList ++
        queue.filter (fun who => acc.2.isActive who && env.hasKeys who) := by
  induction queue generalizing acc with
  | nil =>
      simp
  | cons who rest ih =>
      have hnew : who ∉ acc.1.toList := by
        intro hmem
        exact hdisjoint hmem List.mem_cons_self
      rw [List.length_cons] at hroom
      have hround := promoteCandidate_of_room env hnew (by lia)
      have hrest := List.nodup_cons.mp hnodup
      rw [List.foldl_cons, ih _ hrest.right]
      · rw [hround.left, List.append_assoc]
        have hsame : rest.filter (fun w =>
              (promoteCandidate env acc who).2.isActive w && env.hasKeys w) =
            rest.filter (fun w => acc.2.isActive w && env.hasKeys w) := by
          apply List.filter_congr
          intro other hmem
          rw [hround.right other]
          rintro rfl
          exact hrest.left hmem
        rw [hsame, ← List.filter_append]
        rfl
      · intro other hmem hother
        rw [hround.left] at hmem
        rcases List.mem_append.mp hmem with hold | hhead
        · exact hdisjoint hold (List.mem_cons_of_mem _ hother)
        · rw [List.mem_singleton.mp (List.mem_of_mem_filter hhead)] at hother
          exact hrest.left hother
      · have hlength := congrArg List.length hround.left
        have hone := List.length_filter_le
          (fun w => acc.2.isActive w && env.hasKeys w) [who]
        rw [List.length_append] at hlength
        rw [List.length_singleton] at hone
        lia

/-!
## The recomputed set
-/

theorem toList_newSession {s : State cfg} (hs : Seats s)
    (env : Environment AccountId) :
    (newSession env s).2.desiredValidators.toList =
      s.desiredValidators.toList.filter (afterKicks s).isActive ++
        s.pendingValidators.toList.filter
          (fun who => (afterKicks s).isActive who && env.hasKeys who) := by
  have hkicks := afterKicks_effect s
  have hseats := afterKicks_seats hs
  have hlist := toList_keepMembers (afterKicks s)
  have hkept := List.filter_sublist
    (p := (afterKicks s).isActive) (l := (afterKicks s).desiredValidators.toList)
  rw [← hlist] at hkept
  rw [newSession_state]
  show (promoteCandidates env (afterKicks s)).1.toList = _
  unfold promoteCandidates
  rw [toList_foldl_promoteCandidate env _ _ hseats.pending_nodup]
  · show (keepMembers (afterKicks s)).toList ++ _ = _
    rw [hlist, hkicks.desiredValidators, hkicks.pendingValidators]
    rfl
  · intro who hmem
    exact hseats.disjoint (hkept.subset hmem)
  · exact Nat.le_trans (Nat.add_le_add_right hkept.length_le _) hseats.room

theorem newSession_seats {s : State cfg} (hs : Seats s)
    (env : Environment AccountId) : Seats (newSession env s).2 := by
  have hpending := (newSession_effect env s).pendingValidators
  have hkept := List.filter_sublist
    (p := (afterKicks s).isActive) (l := s.desiredValidators.toList)
  have hpromoted := List.filter_sublist
    (p := fun who => (afterKicks s).isActive who && env.hasKeys who)
    (l := s.pendingValidators.toList)
  constructor
  · rw [toList_newSession hs env]
    apply List.Nodup.append (hkept.nodup hs.desired_nodup)
      (hpromoted.nodup hs.pending_nodup)
    intro who hold hnew
    exact hs.disjoint (hkept.subset hold) (hpromoted.subset hnew)
  · rw [hpending]
    exact List.nodup_nil
  · rw [hpending]
    intro who _ hnil
    cases hnil
  · rw [hpending]
    exact (newSession env s).2.desiredValidators.length_le

theorem step_seats {s : State cfg} {label : Label AccountId}
    (hallowed : Allowed s label) (hs : Seats s) : Seats (step s label) := by
  have hcase := step_cases hallowed
  generalize step s label = t at hcase ⊢
  cases hcase with
  | locked env who hguards =>
      have hpending := hguards.pendingValidators
      constructor
      · exact hs.desired_nodup
      · rw [hpending]
        exact List.Nodup.append hs.pending_nodup (List.nodup_singleton who)
          (List.disjoint_singleton.mpr hguards.notPending)
      · rw [hpending]
        intro other hdesired hmem
        rcases List.mem_append.mp hmem with hold | hself
        · exact hs.disjoint hdesired hold
        · rw [List.mem_singleton.mp hself] at hdesired
          exact hguards.notDesired hdesired
      · rw [hpending, List.length_append, List.length_singleton]
        exact hguards.room
  | exited who info hget hactive =>
      have hsub : List.Sublist (commitExit s who info).pendingValidators.toList
          s.pendingValidators.toList :=
        List.erase_sublist
      constructor
      · exact hs.desired_nodup
      · exact hsub.nodup hs.pending_nodup
      · intro other hdesired hmem
        exact hs.disjoint hdesired (hsub.subset hmem)
      · exact Nat.le_trans (Nat.add_le_add_left hsub.length_le _) hs.room
  | flagged who hactive =>
      exact hs.congr rfl rfl
  | boundary env =>
      exact newSession_seats hs env
  | swept =>
      have hsame := onInitialize_sameBesidesLocks s.block s
      exact hs.congr hsame.desiredValidators hsame.pendingValidators
  | advanced block hle hmax =>
      exact hs.congr rfl rfl
  | idle label t hsame =>
      exact hs.congr hsame.desiredValidators hsame.pendingValidators

theorem genesis_seats {g : State cfg} (hg : GenesisShape g) : Seats g := by
  constructor
  · exact hg.nodup
  · rw [hg.pendingValidators]
    exact List.nodup_nil
  · rw [hg.pendingValidators]
    intro who _ hnil
    cases hnil
  · rw [hg.pendingValidators]
    exact g.desiredValidators.length_le

/-!
## No push is refused
-/

/-- Recomputing the set from `s`, whoever a round looks at finds a free seat:
the pushes succeed and no candidate is dropped because the set is full. -/
structure RoomForEveryRound (env : Environment AccountId) (s : State cfg) :
    Prop where
  member : forall before who after,
    s.desiredValidators.toList = before ++ who :: after ->
      ((before.foldl (keepMember s) BoundedVec.empty).tryPush who).isSome = true
  candidate : forall before who after,
    s.pendingValidators.toList = before ++ who :: after ->
      let acc := before.foldl (promoteCandidate env)
        (keepMembers s, { s with pendingValidators := BoundedVec.empty })
      acc.1.isFull = false ∧ (acc.1.tryPush who).isSome = true

omit [DecidableEq AccountId] in
theorem isSome_tryPush_of_lt {next : BoundedVec AccountId cfg.maxValidators}
    (who : AccountId) (h : next.toList.length < cfg.maxValidators) :
    (next.tryPush who).isSome = true := by
  rcases BoundedVec.tryPush_of_lt who h with ⟨pushed, hpushed, _⟩
  rw [hpushed]
  rfl

theorem roomForEveryRound {s : State cfg} (hs : Seats s)
    (env : Environment AccountId) : RoomForEveryRound env s := by
  constructor
  · intro before who after hsplit
    have hbound := s.desiredValidators.length_le
    rw [hsplit, List.length_append, List.length_cons] at hbound
    have hroom : (BoundedVec.empty : BoundedVec AccountId
        cfg.maxValidators).toList.length + before.length ≤
          cfg.maxValidators := by
      rw [BoundedVec.toList_empty, List.length_nil]
      lia
    apply isSome_tryPush_of_lt
    rw [toList_foldl_keepMember s before BoundedVec.empty hroom]
    have hfilter := List.length_filter_le s.isActive before
    rw [BoundedVec.toList_empty, List.nil_append]
    lia
  · intro before who after hsplit acc
    have hroom := hs.room
    have hnodup := hs.pending_nodup
    have hdisjoint := hs.disjoint
    rw [hsplit] at hroom hnodup hdisjoint
    rw [List.length_append, List.length_cons] at hroom
    have hkept : List.Sublist (keepMembers s).toList
        s.desiredValidators.toList := by
      rw [toList_keepMembers]
      exact List.filter_sublist
    have hkeptLength := hkept.length_le
    -- the set so far: members that stay and the promoted part of `before`
    have hacc : acc.1.toList = (keepMembers s).toList ++
        before.filter (fun w => s.isActive w && env.hasKeys w) := by
      apply toList_foldl_promoteCandidate
      · exact (List.sublist_append_left before _).nodup hnodup
      · intro other hmember hqueued
        exact hdisjoint (hkept.subset hmember)
          (List.mem_append_left _ hqueued)
      · show (keepMembers s).toList.length + before.length ≤ cfg.maxValidators
        lia
    have hfilter := List.length_filter_le
      (fun w => s.isActive w && env.hasKeys w) before
    have hlt : acc.1.toList.length < cfg.maxValidators := by
      rw [hacc, List.length_append]
      lia
    exact ⟨BoundedVec.isFull_eq_false.mpr hlt, isSome_tryPush_of_lt who hlt⟩

theorem lock_push_succeeds {env : Environment AccountId}
    {origin : Origin AccountId} {s t : State cfg}
    (h : lock env origin s = Except.ok t) :
    exists who, origin = Origin.signed who ∧
      s.pendingValidators.tryPush who = some t.pendingValidators := by
  rcases lock_eq_ok_iff.mp h with ⟨who, rfl, hguards, rfl⟩
  have hroom : s.pendingValidators.toList.length < cfg.maxValidators := by
    have := hguards.room
    lia
  rcases BoundedVec.tryPush_of_lt who hroom with ⟨pushed, hpushed, _⟩
  refine ⟨who, rfl, ?_⟩
  show _ = some ((s.pendingValidators.tryPush who).getD s.pendingValidators)
  rw [hpushed]
  rfl

/-- In every reachable state the two vectors are duplicate-free, disjoint and
fit into `MaxValidators` together; no push of `lock` or of a boundary is
refused; and a boundary leaves exactly the members still `Active` after the
kicks, followed by the queued candidates that are `Active` and have keys. -/
theorem set_never_overflows_or_loses_a_seat
    {initialValidators : List AccountId} {labels : List (Label AccountId)}
    {s : State cfg} (hs : ReachedBy initialValidators labels s) :
    (s.desiredValidators.toList.Nodup ∧ s.pendingValidators.toList.Nodup ∧
      s.desiredValidators.toList.Disjoint s.pendingValidators.toList ∧
      s.desiredValidators.toList.length + s.pendingValidators.toList.length ≤
        cfg.maxValidators) ∧
    (forall env origin t, lock env origin s = Except.ok t ->
      exists who, origin = Origin.signed who ∧
        s.pendingValidators.tryPush who = some t.pendingValidators) ∧
    (forall env, RoomForEveryRound env (afterKicks s) ∧
      (newSession env s).2.desiredValidators.toList =
        s.desiredValidators.toList.filter (afterKicks s).isActive ++
          s.pendingValidators.toList.filter
            (fun who => (afterKicks s).isActive who && env.hasKeys who) ∧
      (newSession env s).2.pendingValidators.toList = []) := by
  have hseats : Seats s :=
    hs.invariant Seats (fun _ => genesis_seats) (fun _ _ => step_seats)
  refine ⟨⟨hseats.desired_nodup, hseats.pending_nodup, hseats.disjoint,
    hseats.room⟩, ?_, ?_⟩
  · intro env origin t hlock
    exact lock_push_succeeds hlock
  · intro env
    refine ⟨roomForEveryRound (afterKicks_seats hseats) env,
      toList_newSession hseats env, ?_⟩
    rw [(newSession_effect env s).pendingValidators]
    rfl

/-- Account 1 sits, account 2 queues up: the next boundary seats both. -/
theorem boundary_seats_member_and_candidate :
    let queued := step mockGenesis
      (Label.lock mockEnvironment (Origin.signed 2))
    (newSession mockEnvironment queued).2.desiredValidators.toList = [1, 2] ∧
      (newSession mockEnvironment queued).2.pendingValidators.toList = [] := by
  intro queued
  have hreached : ReachedBy [1]
      [Label.lock mockEnvironment (Origin.signed 2)] queued :=
    ⟨mockGenesis, build_mockGenesis, Run.single True.intro⟩
  have hseats := set_never_overflows_or_loses_a_seat hreached
  rcases hseats.right.right mockEnvironment with ⟨_, hdesired, hpending⟩
  refine ⟨hdesired.trans ?_, hpending⟩
  decide

end Validator
end Numen
