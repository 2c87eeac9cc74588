import Numen.Foundation.Arithmetic
import Numen.Foundation.Runs

/-!
# The clock of the authoring loop

`UntilImportedOrTimeout` paces `start_mining_worker`: a round of the loop begins
when a block was imported, or when nothing was imported for `timeout`.  The
stream is polled by a task that sleeps in between and is woken by whatever its
last poll left it waiting for, so an import that comes at the wrong moment could
be slept through, and a stream that fired too often would keep the node
proposing.
-/

namespace Numen
namespace Pow

open Foundation

/-!
## The stream
-/

inductive Poll (Item : Type) where
  | pending
  | ready (item : Item)
deriving DecidableEq

/-- The notifications that were sent and not read yet, and the time at which the
current delay runs out, if one was started. -/
structure UntilImportedOrTimeout where
  unread : Nat
  closed : Bool
  timeout : Nat
  innerDelay : Option Nat
deriving DecidableEq

namespace UntilImportedOrTimeout

def new (timeout : Nat) : UntilImportedOrTimeout where
  unread := 0
  closed := false
  timeout := timeout
  innerDelay := none

/-- The loop that empties the channel.  `none` means that the channel has come
to its end. -/
def drain : Nat -> Bool -> Bool -> Option Bool
  | 0, closed, fire => if closed then none else some fire
  | unread + 1, closed, _ => drain unread closed true

def pollNext (now : Nat) (s : UntilImportedOrTimeout) :
    Poll (Option Unit) × UntilImportedOrTimeout :=
  match drain s.unread s.closed false with
  | none => (Poll.ready none, { s with unread := 0 })
  | some fire =>
      let innerDelay := s.innerDelay.getD (now + s.timeout)
      if fire || decide (innerDelay ≤ now) then
        (Poll.ready (some ()), { s with unread := 0, innerDelay := none })
      else
        (Poll.pending, { s with unread := 0, innerDelay := some innerDelay })

theorem drain_true (unread : Nat) (closed : Bool) :
    drain unread closed true = if closed then none else some true := by
  induction unread with
  | zero => rfl
  | succ unread ih => exact ih

theorem drain_eq (unread : Nat) (closed : Bool) :
    drain unread closed false =
      if closed then none else some (decide (0 < unread)) := by
  cases unread with
  | zero => rfl
  | succ unread =>
      rw [decide_eq_true (Nat.succ_pos unread)]
      exact drain_true unread closed

inductive Polled (now : Nat) (s : UntilImportedOrTimeout) :
    Poll (Option Unit) -> UntilImportedOrTimeout -> Prop where
  | ended : s.closed = true ->
      Polled now s (Poll.ready none) { s with unread := 0 }
  | imported : s.closed = false -> 0 < s.unread ->
      Polled now s (Poll.ready (some ()))
        { s with unread := 0, innerDelay := none }
  | lapsed (deadline : Nat) : s.closed = false -> s.unread = 0 ->
      s.innerDelay.getD (now + s.timeout) = deadline -> deadline ≤ now ->
      Polled now s (Poll.ready (some ()))
        { s with unread := 0, innerDelay := none }
  | waiting (deadline : Nat) : s.closed = false -> s.unread = 0 ->
      s.innerDelay.getD (now + s.timeout) = deadline -> now < deadline ->
      Polled now s Poll.pending
        { s with unread := 0, innerDelay := some deadline }

theorem pollNext_cases (now : Nat) (s : UntilImportedOrTimeout) :
    Polled now s (s.pollNext now).1 (s.pollNext now).2 := by
  unfold pollNext
  rw [drain_eq]
  by_cases hclosed : s.closed = true
  · rw [if_pos hclosed]
    exact Polled.ended hclosed
  · have hopen : s.closed = false := Bool.eq_false_iff.mpr hclosed
    rw [if_neg hclosed]
    dsimp only
    by_cases hunread : 0 < s.unread
    · rw [decide_eq_true hunread, Bool.true_or, if_pos rfl]
      exact Polled.imported hopen hunread
    · have hempty : s.unread = 0 := Nat.eq_zero_of_not_pos hunread
      rw [decide_eq_false hunread, Bool.false_or]
      by_cases hdue : s.innerDelay.getD (now + s.timeout) ≤ now
      · rw [decide_eq_true hdue, if_pos rfl]
        exact Polled.lapsed _ hopen hempty rfl hdue
      · rw [decide_eq_false hdue, if_neg Bool.false_ne_true]
        exact Polled.waiting _ hopen hempty rfl (Nat.lt_of_not_le hdue)

end UntilImportedOrTimeout

/-!
## The task
-/

/-- What the task of the loop is doing.  A `parked` task is polled only after
something woke it. -/
inductive Phase where
  | polling
  | parked
  | working
  | finished
deriving DecidableEq

/-- The task with its stream and the clock.  `imports` counts the notifications
sent, `seen` those sent before the last round began, `rounds` the rounds. -/
structure Task where
  stream : UntilImportedOrTimeout
  now : Nat
  phase : Phase
  imports : Nat
  seen : Nat
  rounds : Nat
deriving DecidableEq

inductive TaskLabel where
  /-- A notification is sent. -/
  | imported
  /-- The client drops its end of the channel. -/
  | closed
  | passed (time : Nat)
  /-- Some other future of the task has progressed. -/
  | woken
  | poll
  /-- The round is over, and the stream is asked for the next item. -/
  | rounded

namespace Task

def new (start timeout : Nat) : Task where
  stream := UntilImportedOrTimeout.new timeout
  now := start
  phase := Phase.polling
  imports := 0
  seen := 0
  rounds := 0

def wake (phase : Phase) : Phase :=
  if phase = Phase.parked then Phase.polling else phase

/-- The delay has run out. -/
def due (stream : UntilImportedOrTimeout) (now : Nat) : Bool :=
  match stream.innerDelay with
  | some deadline => decide (deadline ≤ now)
  | none => false

def resume (s : Task) (answer : Poll (Option Unit) × UntilImportedOrTimeout) :
    Task :=
  match answer.1 with
  | Poll.pending => { s with stream := answer.2, phase := Phase.parked }
  | Poll.ready (some _) =>
      { s with
        stream := answer.2
        phase := Phase.working
        seen := s.imports
        rounds := s.rounds + 1 }
  | Poll.ready none => { s with stream := answer.2, phase := Phase.finished }

def step (s : Task) : TaskLabel -> Task
  | TaskLabel.imported =>
      { s with
        stream := { s.stream with unread := s.stream.unread + 1 }
        imports := s.imports + 1
        phase := wake s.phase }
  | TaskLabel.closed =>
      { s with
        stream := { s.stream with closed := true }
        phase := wake s.phase }
  | TaskLabel.passed time =>
      { s with
        now := s.now + time
        phase := if due s.stream (s.now + time) then wake s.phase
          else s.phase }
  | TaskLabel.woken => { s with phase := wake s.phase }
  | TaskLabel.poll => s.resume (s.stream.pollNext s.now)
  | TaskLabel.rounded => { s with phase := Phase.polling }

def Allowed (s : Task) : TaskLabel -> Prop
  | TaskLabel.imported => s.stream.closed = false ∧ s.phase ≠ Phase.finished
  | TaskLabel.poll => s.phase = Phase.polling
  | TaskLabel.rounded => s.phase = Phase.working
  | _ => True

/-!
## Nothing is slept through
-/

/-- Whatever a parked task has to be woken for has not happened yet. -/
structure Asleep (s : Task) : Prop where
  unread : s.stream.unread = 0
  opened : s.stream.closed = false
  delay : exists deadline, s.stream.innerDelay = some deadline ∧
    s.now < deadline

/-- How many rounds there can have been: one for each notification, and one for
each `timeout` that has gone by. -/
def Paced (start timeout : Nat) (s : Task) : Prop :=
  match s.stream.innerDelay with
  | some deadline =>
      s.rounds * timeout + timeout + start ≤ s.seen * timeout + deadline ∧
        deadline ≤ s.now + timeout
  | none => s.rounds * timeout + start ≤ s.seen * timeout + s.now

structure Inv (start timeout : Nat) (s : Task) : Prop where
  fixed : s.stream.timeout = timeout
  unread : s.phase ≠ Phase.finished -> s.seen + s.stream.unread = s.imports
  seen : s.seen ≤ s.imports
  asleep : s.phase = Phase.parked -> Asleep s
  paced : Paced start timeout s

variable {start timeout : Nat} {s : Task}

theorem new_inv (start timeout : Nat) : Inv start timeout (new start timeout) where
  fixed := rfl
  unread := fun _ => rfl
  seen := Nat.le_refl 0
  asleep := fun h => nomatch h
  paced := by
    show 0 * timeout + start ≤ 0 * timeout + start
    rfl

theorem wake_ne_parked (phase : Phase) : wake phase ≠ Phase.parked := by
  unfold wake
  split
  · exact fun h => nomatch h
  · assumption

theorem wake_finished {phase : Phase} (h : wake phase ≠ Phase.finished) :
    phase ≠ Phase.finished := by
  rintro rfl
  exact h rfl

theorem Paced.le (h : Paced start timeout s) :
    s.rounds * timeout + start ≤ s.seen * timeout + s.now := by
  unfold Paced at h
  split at h
  · lia
  · exact h

theorem Paced.later (h : Paced start timeout s) {t : Task}
    (hdelay : t.stream.innerDelay = s.stream.innerDelay)
    (hrounds : t.rounds = s.rounds) (hseen : t.seen = s.seen)
    (hnow : s.now ≤ t.now) : Paced start timeout t := by
  unfold Paced at *
  rw [hdelay, hrounds, hseen]
  split at h
  · exact ⟨h.left, Nat.le_trans h.right (Nat.add_le_add_right hnow _)⟩
  · exact Nat.le_trans h (Nat.add_le_add_left hnow _)

theorem Inv.wake (h : Inv start timeout s) {t : Task}
    (hphase : t.phase = Task.wake s.phase)
    (hstream : t.stream.timeout = s.stream.timeout ∧
      t.stream.innerDelay = s.stream.innerDelay)
    (hkept : t.rounds = s.rounds ∧ t.seen = s.seen ∧ s.now ≤ t.now)
    (hunread : s.seen + s.stream.unread = s.imports ->
      t.seen + t.stream.unread = t.imports)
    (himports : s.imports ≤ t.imports) : Inv start timeout t where
  fixed := hstream.left.trans h.fixed
  unread := by
    intro hactive
    rw [hphase] at hactive
    exact hunread (h.unread (wake_finished hactive))
  seen := by
    rw [hkept.right.left]
    exact Nat.le_trans h.seen himports
  asleep := by
    intro hparked
    exact absurd (hphase.symm.trans hparked) (wake_ne_parked s.phase)
  paced := h.paced.later hstream.right hkept.left hkept.right.left
    hkept.right.right

theorem Inv.passed (h : Inv start timeout s) (time : Nat) :
    Inv start timeout (s.step (TaskLabel.passed time)) := by
  unfold step
  dsimp only
  cases hdue : due s.stream (s.now + time) with
  | true =>
      exact h.wake rfl ⟨rfl, rfl⟩ ⟨rfl, rfl, Nat.le_add_right _ _⟩ id
        (Nat.le_refl _)
  | false =>
      refine ⟨h.fixed, h.unread, h.seen, ?_,
        h.paced.later rfl rfl rfl (Nat.le_add_right _ _)⟩
      intro hparked
      have hasleep := h.asleep hparked
      rcases hasleep.delay with ⟨deadline, hdelay, _⟩
      refine ⟨hasleep.unread, hasleep.opened, deadline, hdelay, ?_⟩
      unfold due at hdue
      rw [hdelay] at hdue
      exact Nat.lt_of_not_le (of_decide_eq_false hdue)

theorem Inv.paced_round (h : Inv start timeout s)
    (hphase : s.phase = Phase.polling) {stream : UntilImportedOrTimeout}
    (hpolled : UntilImportedOrTimeout.Polled s.now s.stream
      (Poll.ready (some ())) stream) :
    (s.rounds + 1) * timeout + start ≤ s.imports * timeout + s.now := by
  have hunread := h.unread (by rw [hphase]; exact fun h => nomatch h)
  have hpace := h.paced.le
  cases hpolled with
  | imported _ hsome =>
      have hmore : (s.seen + 1) * timeout ≤ s.imports * timeout :=
        Nat.mul_le_mul_right timeout (by lia)
      rw [Nat.add_mul, Nat.one_mul] at hmore ⊢
      lia
  | lapsed deadline _ hnone hdeadline hdue =>
      have hsame : s.seen = s.imports := by lia
      have hpaced := h.paced
      unfold Paced at hpaced
      rw [h.fixed] at hdeadline
      rw [Nat.add_mul, Nat.one_mul, ← hsame]
      split at hpaced
      · rename_i last hlast
        rw [hlast, Option.getD_some] at hdeadline
        lia
      · rename_i hlast
        rw [hlast, Option.getD_none] at hdeadline
        lia

theorem Inv.poll (h : Inv start timeout s)
    (hphase : s.phase = Phase.polling) :
    Inv start timeout (s.step TaskLabel.poll) := by
  have hunread := h.unread (by rw [hphase]; exact fun h => nomatch h)
  have hpolled := UntilImportedOrTimeout.pollNext_cases s.now s.stream
  unfold step resume
  dsimp only
  generalize s.stream.pollNext s.now = answer at hpolled
  rcases answer with ⟨result, stream⟩
  dsimp only at hpolled ⊢
  cases hpolled with
  | ended _ =>
      exact ⟨h.fixed, fun hactive => absurd rfl hactive, h.seen,
        (fun hparked => nomatch hparked), h.paced⟩
  | imported hopen hsome =>
      exact ⟨h.fixed, fun _ => rfl, Nat.le_refl _,
        (fun hparked => nomatch hparked),
        h.paced_round hphase
          (UntilImportedOrTimeout.Polled.imported hopen hsome)⟩
  | lapsed deadline hopen hnone hdeadline hdue =>
      exact ⟨h.fixed, fun _ => rfl, Nat.le_refl _,
        (fun hparked => nomatch hparked),
        h.paced_round hphase (UntilImportedOrTimeout.Polled.lapsed deadline
          hopen hnone hdeadline hdue)⟩
  | waiting deadline hopen hnone hdeadline hlater =>
      refine ⟨h.fixed, fun _ => ?_, h.seen, fun _ => ?_, ?_⟩
      · rw [← hunread, hnone]
      · exact ⟨rfl, hopen, deadline, rfl, hlater⟩
      · have hpaced := h.paced
        unfold Paced at hpaced ⊢
        rw [h.fixed] at hdeadline
        dsimp only
        split at hpaced
        · rename_i last hlast
          rw [hlast, Option.getD_some] at hdeadline
          rw [← hdeadline]
          exact hpaced
        · rename_i hlast
          rw [hlast, Option.getD_none] at hdeadline
          lia

theorem step_inv {label : TaskLabel} (hallowed : Allowed s label)
    (h : Inv start timeout s) : Inv start timeout (s.step label) := by
  cases label with
  | imported =>
      refine h.wake rfl ⟨rfl, rfl⟩ ⟨rfl, rfl, Nat.le_refl _⟩ ?_
        (Nat.le_succ _)
      intro hunread
      show s.seen + (s.stream.unread + 1) = s.imports + 1
      lia
  | closed =>
      exact h.wake rfl ⟨rfl, rfl⟩ ⟨rfl, rfl, Nat.le_refl _⟩ id (Nat.le_refl _)
  | passed time => exact h.passed time
  | woken =>
      exact h.wake rfl ⟨rfl, rfl⟩ ⟨rfl, rfl, Nat.le_refl _⟩ id (Nat.le_refl _)
  | poll => exact h.poll hallowed
  | rounded =>
      have hactive : s.phase ≠ Phase.finished := by
        change s.phase = Phase.working at hallowed
        rw [hallowed]
        exact fun h => nomatch h
      exact ⟨h.fixed, fun _ => h.unread hactive, h.seen,
        (fun hparked => nomatch hparked), h.paced⟩

end Task

/-- Whatever is imported and however the task is scheduled, the authoring loop
sleeps through nothing and does not spin.  A parked task has begun its last round
after every import so far, its channel is open, and it is woken within the
timeout; a poll with an import still unseen begins a round; and there are no more
rounds than imports and whole timeouts gone by. -/
theorem authoring_loop_keeps_pace {start timeout : Nat} {labels : List TaskLabel}
    {s : Task}
    (hrun : Run Task.Allowed Task.step (Task.new start timeout) labels s) :
    (s.phase = Phase.parked ->
      s.seen = s.imports ∧ s.stream.closed = false ∧
      exists deadline, s.stream.innerDelay = some deadline ∧
        s.now < deadline ∧ deadline ≤ s.now + timeout) ∧
    (s.phase = Phase.polling -> s.stream.closed = false ->
      s.seen < s.imports ->
      (s.step TaskLabel.poll).phase = Phase.working ∧
        (s.step TaskLabel.poll).seen = s.imports) ∧
    s.rounds * timeout + start ≤ s.imports * timeout + s.now := by
  have h := hrun.preserves (Task.Inv start timeout)
    (fun _ _ => Task.step_inv) (Task.new_inv start timeout)
  refine ⟨?_, ?_, ?_⟩
  · intro hparked
    have hasleep := h.asleep hparked
    have hunread := h.unread (by rw [hparked]; exact fun h => nomatch h)
    rcases hasleep.delay with ⟨deadline, hdelay, hlater⟩
    have hpaced := h.paced
    unfold Task.Paced at hpaced
    rw [hdelay] at hpaced
    rw [hasleep.unread] at hunread
    exact ⟨hunread, hasleep.opened, deadline, hdelay, hlater, hpaced.right⟩
  · intro hpolling hopen hunseen
    have hunread := h.unread (by rw [hpolling]; exact fun h => nomatch h)
    have hpolled := UntilImportedOrTimeout.pollNext_cases s.now s.stream
    unfold Task.step Task.resume
    dsimp only
    generalize s.stream.pollNext s.now = answer at hpolled
    rcases answer with ⟨result, stream⟩
    dsimp only at hpolled ⊢
    cases hpolled with
    | ended hclosed =>
        rw [hopen] at hclosed
        cases hclosed
    | imported _ _ => exact ⟨rfl, rfl⟩
    | lapsed _ _ _ _ _ => exact ⟨rfl, rfl⟩
    | waiting _ _ hnone _ _ => lia
  · exact Nat.le_trans h.paced.le
      (Nat.add_le_add_right (Nat.mul_le_mul_right timeout h.seen) _)

/-- The first poll parks the task, an import wakes it, and after its round it
parks again until the ten seconds are over. -/
theorem loop_wakes_for_an_import_and_for_the_timeout :
    let labels := [TaskLabel.poll, TaskLabel.imported, TaskLabel.poll,
      TaskLabel.passed 3, TaskLabel.rounded, TaskLabel.poll,
      TaskLabel.passed 10, TaskLabel.poll, TaskLabel.rounded, TaskLabel.poll]
    let s := labels.foldl Task.step (Task.new 0 10)
    s.phase = Phase.parked ∧ s.rounds = 2 ∧ s.seen = s.imports ∧
      s.rounds * 10 ≤ s.imports * 10 + s.now := by
  intro labels s
  have hrun : Run Task.Allowed Task.step (Task.new 0 10) labels s := by
    refine Run.cons rfl (Run.cons ⟨rfl, by decide⟩ (Run.cons rfl (Run.cons
      True.intro (Run.cons rfl (Run.cons rfl (Run.cons True.intro (Run.cons rfl
        (Run.cons rfl (Run.single rfl)))))))))
  rcases authoring_loop_keeps_pace hrun with ⟨hparked, _, hpace⟩
  exact ⟨by decide, by decide, (hparked (by decide)).left, hpace⟩

end Pow
end Numen
