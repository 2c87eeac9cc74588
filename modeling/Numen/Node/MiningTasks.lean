import Mathlib.Algebra.Order.BigOperators.Group.List
import Numen.Pow.Authoring

/-!
# The feed of mining tasks

A change of the worker's queue is announced outside the queue's mutex, first by
the version counter and then through a watch channel that wakes the subscribers
of `mining_subscribeTask`.  Each of these is a step of its own here, so a
subscriber may subscribe, read and fall asleep anywhere between them.
Announcements are not tied to the thread that owes them, which allows more
orders than the worker has.
-/

namespace Numen
namespace Node

open Foundation
open Numen.Pow (MiningMetadata Worker WorkerLabel WorkerAllowed Call
  workerStep)

variable {Hash Changes : Type}

/-!
## Tasks on the wire
-/

/-- Everything an external miner needs to compute the work for one task. -/
structure MiningTask (Hash : Type) where
  preHash : Hash
  difficulty : Nat
  miner : String
  protocol : String
deriving DecidableEq

/-- The reward address and the protocol string, fixed when the node starts. -/
structure Mining where
  miner : String
  protocol : String

structure RpcError where
  code : Int
  message : String
deriving DecidableEq

def noTask : RpcError :=
  { code := 9001, message := "no mining task available yet" }

/-- `MiningHandle::metadata`, of the newest build. -/
def metadata (worker : Worker Hash Changes) : Option (MiningMetadata Hash) :=
  worker.builds.getLast?.map fun build => build.metadata

def Mining.taskOf (rpc : Mining) (worker : Worker Hash Changes) :
    Option (MiningTask Hash) :=
  (metadata worker).map fun task =>
    { preHash := task.preHash
      difficulty := task.difficulty
      miner := rpc.miner
      protocol := rpc.protocol }

def Mining.getTask (rpc : Mining) (worker : Worker Hash Changes) :
    Except RpcError (MiningTask Hash) :=
  match rpc.taskOf worker with
  | some task => Except.ok task
  | none => Except.error noTask

/-!
## The board
-/

/-- Where a subscription stands: before it holds a receiver, about to read the
task, about to send what it read, waiting for a change, and gone. -/
inductive Phase (Hash : Type) where
  | accepted
  | reading
  | sending (task : MiningTask Hash)
  | waiting
  | closed

/-- A subscription: the state of the channel its receiver has seen, the task it
read last, and the tasks it has sent. -/
structure Subscriber (Hash : Type) where
  phase : Phase Hash
  seen : Nat
  lastRead : Option (MiningTask Hash)
  delivered : List (MiningTask Hash)

/-- Whether the subscription holds a receiver of the channel. -/
def Subscriber.listens (subscriber : Subscriber Hash) : Bool :=
  match subscriber.phase with
  | Phase.accepted => false
  | Phase.closed => false
  | _ => true

/-- The worker with its version counter and its watch channel.  `counting` of
the announcements due have not reached the counter, and `sending` have reached
it but not the channel. -/
structure Board (Hash Changes : Type) where
  worker : Worker Hash Changes
  version : Nat
  counting : Nat
  sending : Nat
  sends : Nat
  subscribers : List (Subscriber Hash)

namespace Board

/-- `MiningHandle::new`, before anybody subscribes. -/
def new : Board Hash Changes where
  worker := Worker.new
  version := 0
  counting := 0
  sending := 0
  sends := 0
  subscribers := []

/-- `MiningHandle::version`, a `usize`. -/
def readVersion (s : Board Hash Changes) : Nat :=
  s.version % 2 ^ 64

def count (s : Board Hash Changes) : Board Hash Changes :=
  { s with
    version := s.version + 1
    counting := s.counting - 1
    sending := s.sending + 1 }

/-- The other half.  A channel nobody listens to refuses the value. -/
def announce (s : Board Hash Changes) : Board Hash Changes :=
  { s with
    sending := s.sending - 1
    sends := if s.subscribers.any Subscriber.listens then s.sends + 1
      else s.sends }

def accept (s : Board Hash Changes) : Board Hash Changes :=
  { s with
    subscribers := s.subscribers ++
      [{ phase := Phase.accepted
         seen := 0
         lastRead := none
         delivered := [] }] }

def update (s : Board Hash Changes) (i : Nat) (subscriber : Subscriber Hash) :
    Board Hash Changes :=
  { s with subscribers := s.subscribers.set i subscriber }

/-- One step of the `i`th run of `subscribe_task`.  `sent` tells whether the
sink takes the message. -/
def advance (rpc : Mining) (sent : Bool) (s : Board Hash Changes)
    (subscriber : Subscriber Hash) : Subscriber Hash :=
  match subscriber.phase with
  | Phase.accepted =>
      { subscriber with phase := Phase.reading, seen := s.sends }
  | Phase.reading =>
      { subscriber with
        phase :=
          match rpc.taskOf s.worker with
          | some task => Phase.sending task
          | none => Phase.waiting
        lastRead := rpc.taskOf s.worker }
  | Phase.sending task =>
      if sent then
        { subscriber with
          phase := Phase.waiting
          delivered := subscriber.delivered ++ [task] }
      else
        { subscriber with phase := Phase.closed }
  | Phase.waiting =>
      -- `changed` returns once the channel is past what was seen
      if subscriber.seen ≠ s.sends then
        { subscriber with phase := Phase.reading, seen := s.sends }
      else
        subscriber
  | Phase.closed => subscriber

def Ready (s : Board Hash Changes) (subscriber : Subscriber Hash) : Prop :=
  match subscriber.phase with
  | Phase.waiting => subscriber.seen ≠ s.sends
  | Phase.closed => False
  | _ => True

end Board

inductive BoardLabel (Hash Changes : Type) where
  | work (label : WorkerLabel Hash Changes)
  | count
  | announce
  | accept
  | advance (i : Nat) (sent : Bool)

variable [DecidableEq Hash]

/-- Whether a section of the worker goes on to `increment_version`. -/
def announces (worker : Worker Hash Changes) :
    WorkerLabel Hash Changes -> Bool
  | WorkerLabel.onBuild _ => true
  | WorkerLabel.onMajorSyncing => true
  | WorkerLabel.take call =>
      match worker.calls[call]? with
      | some (Call.verified preHash _) =>
          worker.builds.any (Worker.isTask preHash)
      | _ => false
  | WorkerLabel.clear call =>
      match worker.calls[call]? with
      | some (Call.landed _) => true
      | _ => false
  | _ => false

section Steps

variable (algorithm : Pow.PowAlgorithm Hash)
  (powEngineId : Pow.ConsensusEngineId) (rpc : Mining)

def boardStep (s : Board Hash Changes) :
    BoardLabel Hash Changes -> Board Hash Changes
  | BoardLabel.work label =>
      { s with
        worker := workerStep algorithm powEngineId s.worker label
        counting :=
          if announces s.worker label then s.counting + 1 else s.counting }
  | BoardLabel.count => s.count
  | BoardLabel.announce => s.announce
  | BoardLabel.accept => s.accept
  | BoardLabel.advance i sent =>
      match s.subscribers[i]? with
      | some subscriber => s.update i (s.advance rpc sent subscriber)
      | none => s

omit [DecidableEq Hash] in
def BoardAllowed (s : Board Hash Changes) : BoardLabel Hash Changes -> Prop
  | BoardLabel.work label => WorkerAllowed s.worker label
  | BoardLabel.count => 0 < s.counting
  | BoardLabel.announce => 0 < s.sending
  | BoardLabel.accept => True
  | BoardLabel.advance i _ =>
      exists subscriber, s.subscribers[i]? = some subscriber ∧
        s.Ready subscriber

def BoardReachedBy (labels : List (BoardLabel Hash Changes))
    (s : Board Hash Changes) : Prop :=
  Run BoardAllowed (boardStep algorithm powEngineId rpc) Board.new labels s

end Steps

/-!
## What subscribers are told
-/

theorem workerStep_builds_eq (algorithm : Pow.PowAlgorithm Hash)
    (powEngineId : Pow.ConsensusEngineId) (worker : Worker Hash Changes)
    {label : WorkerLabel Hash Changes}
    (h : announces worker label = false) :
    (workerStep algorithm powEngineId worker label).builds =
      worker.builds := by
  cases label with
  | onBuild value => cases h
  | onMajorSyncing => cases h
  | submit preHash rawSeal =>
      simp only [workerStep, Worker.submit]
      split
      · rfl
      · rfl
  | verify call =>
      simp only [workerStep, Worker.verify]
      repeat' split
      all_goals rfl
  | take call =>
      simp only [announces] at h
      simp only [workerStep, Worker.take]
      split
      · rename_i preHash rawSeal hcall
        rw [hcall] at h
        have hnone : worker.builds.find? (Worker.isTask preHash) = none := by
          rw [List.find?_eq_none]
          simpa using h
        rw [hnone]
        rfl
      · rfl
  | importBlock call imported =>
      simp only [workerStep, Worker.importBlock]
      repeat' split
      all_goals rfl
  | clear call =>
      simp only [announces] at h
      simp only [workerStep, Worker.clear]
      split
      · rename_i build hcall
        rw [hcall] at h
        cases h
      · rfl

section Follows

variable {algorithm : Pow.PowAlgorithm Hash}
  {powEngineId : Pow.ConsensusEngineId} {rpc : Mining}
variable {s : Board Hash Changes}

/-- Whether the subscription has read the task since it last woke. -/
def Phase.HasRead : Phase Hash -> Prop
  | Phase.sending _ => True
  | Phase.waiting => True
  | _ => False

/-- A subscription that has read a task holds the current one, or has a change
to wake up for, or will have one. -/
structure Follows (rpc : Mining) (s : Board Hash Changes)
    (subscriber : Subscriber Hash) : Prop where
  seen_le : subscriber.seen ≤ s.sends
  sending : forall task, subscriber.phase = Phase.sending task ->
    subscriber.lastRead = some task
  delivered : subscriber.phase = Phase.waiting ->
    forall task, subscriber.lastRead = some task ->
      subscriber.delivered.getLast? = some task
  current : subscriber.phase.HasRead ->
    subscriber.lastRead = rpc.taskOf s.worker ∨ subscriber.seen ≠ s.sends ∨
      0 < s.counting + s.sending

omit [DecidableEq Hash] in
/-- The clauses that look at the board survive when the channel only moves on
and what a reader would notice stays announced. -/
theorem Follows.mono {t : Board Hash Changes} {subscriber : Subscriber Hash}
    (h : Follows rpc s subscriber) (hsends : s.sends ≤ t.sends)
    (hcurrent : subscriber.phase.HasRead ->
      rpc.taskOf t.worker = rpc.taskOf s.worker ∧
          s.counting + s.sending ≤ t.counting + t.sending ∨
        0 < t.counting + t.sending ∨ s.sends < t.sends) :
    Follows rpc t subscriber where
  seen_le := Nat.le_trans h.seen_le hsends
  sending := h.sending
  delivered := h.delivered
  current := by
    intro hread
    have hseen := h.seen_le
    rcases hcurrent hread with ⟨htask, hdue⟩ | hdue | hmoved
    · rw [htask]
      rcases h.current hread with hlast | hnews | hcoming
      · exact Or.inl hlast
      · exact Or.inr (Or.inl (by lia))
      · exact Or.inr (Or.inr (by lia))
    · exact Or.inr (Or.inr hdue)
    · exact Or.inr (Or.inl (by lia))

omit [DecidableEq Hash] in
theorem Follows.of_unread {subscriber : Subscriber Hash}
    (hread : ¬ subscriber.phase.HasRead)
    (hseen : subscriber.seen ≤ s.sends) : Follows rpc s subscriber where
  seen_le := hseen
  sending := by
    intro task hphase
    rw [hphase] at hread
    exact absurd True.intro hread
  delivered := by
    intro hphase
    rw [hphase] at hread
    exact absurd True.intro hread
  current := fun h => absurd h hread

omit [DecidableEq Hash] in
theorem Follows.advance {subscriber : Subscriber Hash}
    (h : Follows rpc s subscriber) (sent : Bool) :
    Follows rpc s (s.advance rpc sent subscriber) := by
  rcases subscriber with ⟨phase, seen, lastRead, delivered⟩
  cases phase with
  | accepted => exact Follows.of_unread id (Nat.le_refl _)
  | reading =>
      unfold Board.advance
      dsimp only
      cases htask : rpc.taskOf s.worker with
      | none =>
          refine ⟨h.seen_le, ?_, ?_, ?_⟩
          · intro task hphase
            cases hphase
          · intro _ task hlast
            cases hlast
          · intro _
            exact Or.inl htask.symm
      | some task =>
          refine ⟨h.seen_le, ?_, ?_, ?_⟩
          · intro other hphase
            cases hphase
            rfl
          · intro hphase
            cases hphase
          · intro _
            exact Or.inl htask.symm
  | sending task =>
      cases sent with
      | false => exact Follows.of_unread id h.seen_le
      | true =>
          refine ⟨h.seen_le, ?_, ?_, ?_⟩
          · intro other hphase
            cases hphase
          · intro _ other hlast
            have hread : lastRead = some task := h.sending task rfl
            have hlast : lastRead = some other := hlast
            rw [hread] at hlast
            cases hlast
            exact List.getLast?_concat
          · intro _
            exact h.current True.intro
  | waiting =>
      unfold Board.advance
      dsimp only
      split
      · exact Follows.of_unread id (Nat.le_refl _)
      · exact h
  | closed => exact h

def AllFollow (rpc : Mining) (s : Board Hash Changes) : Prop :=
  ∀ subscriber ∈ s.subscribers, Follows rpc s subscriber

theorem step_allFollow {label : BoardLabel Hash Changes}
    (hallowed : BoardAllowed s label) (h : AllFollow rpc s) :
    AllFollow rpc (boardStep algorithm powEngineId rpc s label) := by
  intro subscriber hmem
  cases label with
  | work label =>
      refine (h subscriber hmem).mono (Nat.le_refl _) ?_
      intro _
      simp only [boardStep]
      cases hannounces : announces s.worker label with
      | true =>
          rw [if_pos rfl]
          exact Or.inr (Or.inl (by lia))
      | false =>
          rw [if_neg Bool.false_ne_true]
          refine Or.inl ⟨?_, Nat.le_refl _⟩
          unfold Mining.taskOf metadata
          rw [workerStep_builds_eq algorithm powEngineId s.worker hannounces]
  | count =>
      refine (h subscriber hmem).mono (Nat.le_refl _) ?_
      intro _
      refine Or.inr (Or.inl ?_)
      simp only [boardStep, Board.count]
      lia
  | announce =>
      refine (h subscriber hmem).mono ?_ ?_
      · simp only [boardStep, Board.announce]
        split
        · exact Nat.le_succ _
        · exact Nat.le_refl _
      · intro hread
        have hlistens : s.subscribers.any Subscriber.listens = true := by
          refine List.any_eq_true.mpr ⟨subscriber, hmem, ?_⟩
          unfold Subscriber.listens
          revert hread
          cases subscriber.phase <;> simp [Phase.HasRead]
        refine Or.inr (Or.inr ?_)
        simp only [boardStep, Board.announce]
        rw [if_pos hlistens]
        exact Nat.lt_succ_self _
  | accept =>
      rcases List.mem_append.mp hmem with hold | hnew
      · refine (h subscriber hold).mono (Nat.le_refl _) ?_
        intro _
        exact Or.inl ⟨rfl, Nat.le_refl _⟩
      · rw [List.mem_singleton.mp hnew]
        exact Follows.of_unread id (Nat.zero_le _)
  | advance i sent =>
      rcases hallowed with ⟨before, hbefore, _⟩
      simp only [boardStep, hbefore, Board.update] at hmem ⊢
      have hfollows : Follows rpc s subscriber := by
        rcases List.mem_or_eq_of_mem_set hmem with hold | rfl
        · exact h subscriber hold
        · exact (h before (List.mem_of_getElem? hbefore)).advance sent
      refine hfollows.mono (Nat.le_refl _) ?_
      intro _
      exact Or.inl ⟨rfl, Nat.le_refl _⟩

/-!
## The feed settles
-/

omit [DecidableEq Hash] in
/-- What goes on while the worker leaves its queue alone and nobody else
subscribes. -/
def Settling : BoardLabel Hash Changes -> Prop
  | BoardLabel.count => True
  | BoardLabel.announce => True
  | BoardLabel.advance _ _ => True
  | _ => False

/-- A bound on the steps a subscription takes before it waits for news, with
three for the news it has not seen. -/
def Subscriber.weight (sends : Nat) (subscriber : Subscriber Hash) : Nat :=
  (match subscriber.phase with
    | Phase.accepted => 3
    | Phase.reading => 2
    | Phase.sending _ => 1
    | Phase.waiting => 0
    | Phase.closed => 0) + if subscriber.seen = sends then 0 else 3

/-- An announcement takes two steps, and the second is news to everybody. -/
def Board.rank (s : Board Hash Changes) : Nat :=
  (2 * s.counting + s.sending) * (3 * s.subscribers.length + 1) +
    (s.subscribers.map (Subscriber.weight s.sends)).sum

omit [DecidableEq Hash] in
theorem Subscriber.weight_le (sends sends' : Nat)
    (subscriber : Subscriber Hash) :
    subscriber.weight sends' ≤ subscriber.weight sends + 3 := by
  unfold Subscriber.weight
  split <;> split <;> lia

omit [DecidableEq Hash] in
theorem Subscriber.weight_advance_lt {subscriber : Subscriber Hash}
    (hready : s.Ready subscriber) (sent : Bool) :
    (s.advance rpc sent subscriber).weight s.sends <
      subscriber.weight s.sends := by
  rcases subscriber with ⟨phase, seen, lastRead, delivered⟩
  cases phase with
  | accepted =>
      simp only [Board.advance, Subscriber.weight]
      split <;> lia
  | reading =>
      simp only [Board.advance, Subscriber.weight]
      refine Nat.add_lt_add_right ?_ _
      cases rpc.taskOf s.worker with
      | none => exact Nat.zero_lt_two
      | some task => exact Nat.one_lt_two
  | sending task =>
      cases sent <;> simp [Board.advance, Subscriber.weight]
  | waiting =>
      have hnews : seen ≠ s.sends := hready
      simp [Board.advance, Subscriber.weight, hnews]
  | closed => exact absurd hready id

theorem sum_map_set_lt {Item : Type} (f : Item -> Nat) {items : List Item}
    {i : Nat} {x y : Item} (hx : items[i]? = some x) (hlt : f y < f x) :
    ((items.set i y).map f).sum < (items.map f).sum := by
  induction items generalizing i with
  | nil => cases hx
  | cons first rest ih =>
      cases i with
      | zero =>
          cases hx
          simp only [List.set_cons_zero, List.map_cons, List.sum_cons]
          lia
      | succ i =>
          have hrest := ih (i := i) hx
          simp only [List.set_cons_succ, List.map_cons, List.sum_cons]
          lia

omit [DecidableEq Hash] in
theorem sum_weight_le (sends sends' : Nat)
    (subscribers : List (Subscriber Hash)) :
    (subscribers.map (Subscriber.weight sends')).sum ≤
      (subscribers.map (Subscriber.weight sends)).sum +
        3 * subscribers.length := by
  induction subscribers with
  | nil => exact Nat.le_refl _
  | cons first rest ih =>
      have hfirst := first.weight_le sends sends'
      simp only [List.map_cons, List.sum_cons, List.length_cons]
      lia

theorem rank_step_lt {label : BoardLabel Hash Changes}
    (hallowed : BoardAllowed s label) (hsettling : Settling label) :
    (boardStep algorithm powEngineId rpc s label).rank < s.rank := by
  unfold Board.rank
  cases label with
  | work label => cases hsettling
  | accept => cases hsettling
  | count =>
      have hdue : 2 * s.counting + s.sending =
          2 * (s.counting - 1) + (s.sending + 1) + 1 := by
        have hpos : 0 < s.counting := hallowed
        lia
      simp only [boardStep, Board.count]
      rw [hdue, Nat.add_one_mul]
      lia
  | announce =>
      have hdue : 2 * s.counting + s.sending =
          2 * s.counting + (s.sending - 1) + 1 := by
        have hpos : 0 < s.sending := hallowed
        lia
      have hweights := sum_weight_le s.sends
        (if s.subscribers.any Subscriber.listens then s.sends + 1
          else s.sends) s.subscribers
      simp only [boardStep, Board.announce]
      rw [hdue, Nat.add_one_mul]
      lia
  | advance i sent =>
      rcases hallowed with ⟨subscriber, hsubscriber, hready⟩
      have hlighter : (s.advance rpc sent subscriber).weight s.sends <
          subscriber.weight s.sends :=
        Subscriber.weight_advance_lt hready sent
      simp only [boardStep, hsubscriber, Board.update, List.length_set]
      exact Nat.add_lt_add_left
        (sum_map_set_lt (Subscriber.weight s.sends) hsubscriber hlighter) _

def Settled (s : Board Hash Changes) : Prop :=
  forall label, Settling label -> ¬ BoardAllowed s label

omit [DecidableEq Hash] in
theorem Follows.of_settled {subscriber : Subscriber Hash}
    (h : Follows rpc s subscriber) (hmem : subscriber ∈ s.subscribers)
    (hsettled : Settled s) :
    subscriber.phase = Phase.closed ∨
      subscriber.phase = Phase.waiting ∧
        subscriber.lastRead = rpc.taskOf s.worker ∧
        forall task, rpc.taskOf s.worker = some task ->
          subscriber.delivered.getLast? = some task := by
  have hidle : ¬ s.Ready subscriber := by
    intro hready
    rcases List.mem_iff_getElem?.mp hmem with ⟨i, hi⟩
    exact hsettled (BoardLabel.advance i true) True.intro
      ⟨subscriber, hi, hready⟩
  have hcounted : ¬ 0 < s.counting := hsettled BoardLabel.count True.intro
  have hsent : ¬ 0 < s.sending := hsettled BoardLabel.announce True.intro
  unfold Board.Ready at hidle
  cases hphase : subscriber.phase with
  | accepted =>
      rw [hphase] at hidle
      exact absurd True.intro hidle
  | reading =>
      rw [hphase] at hidle
      exact absurd True.intro hidle
  | sending task =>
      rw [hphase] at hidle
      exact absurd True.intro hidle
  | closed => exact Or.inl rfl
  | waiting =>
      rw [hphase] at hidle
      have hread : subscriber.phase.HasRead := by
        rw [hphase]
        exact True.intro
      have hlast : subscriber.lastRead = rpc.taskOf s.worker := by
        rcases h.current hread with hlast | hnews | hdue
        · exact hlast
        · exact absurd hnews hidle
        · lia
      refine Or.inr ⟨rfl, hlast, ?_⟩
      intro task htask
      exact h.delivered hphase task (hlast.trans htask)

theorem settling_worker_eq {label : BoardLabel Hash Changes}
    (hsettling : Settling label) :
    (boardStep algorithm powEngineId rpc s label).worker = s.worker := by
  cases label with
  | work label => cases hsettling
  | accept => cases hsettling
  | count => rfl
  | announce => rfl
  | advance i sent =>
      simp only [boardStep]
      split
      · rfl
      · rfl

theorem BoardReachedBy.allFollow {labels : List (BoardLabel Hash Changes)}
    (h : BoardReachedBy algorithm powEngineId rpc labels s) :
    AllFollow rpc s := by
  refine Run.preserves (AllFollow rpc)
    (fun _ _ hallowed hs => step_allFollow hallowed hs) h ?_
  intro subscriber hmem
  cases hmem

/-- No wake-up is lost: whatever the worker, its announcements and the
subscriptions have been doing, once the worker leaves its queue alone the rest
comes to an end, within a bound fixed when it does, and then every open
subscription has read, and sent, the task `mining_getTask` answers with. -/
theorem subscriptions_settle_on_the_current_task {t : Board Hash Changes}
    {labels settling : List (BoardLabel Hash Changes)}
    (h : BoardReachedBy algorithm powEngineId rpc labels s)
    (hrun : Run (fun s label => BoardAllowed s label ∧ Settling label)
      (boardStep algorithm powEngineId rpc) s settling t) :
    settling.length ≤ s.rank ∧
      (Settled t -> ∀ subscriber ∈ t.subscribers,
        subscriber.phase = Phase.closed ∨
          subscriber.phase = Phase.waiting ∧
            subscriber.lastRead = (rpc.getTask s.worker).toOption ∧
            forall task, rpc.getTask s.worker = Except.ok task ->
              subscriber.delivered.getLast? = some task) := by
  have hworker : t.worker = s.worker :=
    Run.preserves (fun t => t.worker = s.worker)
      (fun _ _ hallowed hs =>
        (settling_worker_eq hallowed.right).trans hs) hrun rfl
  have hfollow : AllFollow rpc t :=
    Run.preserves (AllFollow rpc)
      (fun _ _ hallowed hs => step_allFollow hallowed.left hs) hrun
      h.allFollow
  have htask : (rpc.getTask s.worker).toOption = rpc.taskOf t.worker := by
    rw [hworker]
    unfold Mining.getTask
    cases rpc.taskOf s.worker <;> rfl
  refine ⟨Run.length_le Board.rank
    (fun _ _ hallowed => rank_step_lt hallowed.left hallowed.right) hrun, ?_⟩
  intro hsettled subscriber hmem
  rcases (hfollow subscriber hmem).of_settled hmem hsettled with
    hclosed | ⟨hwaiting, hlast, hsent⟩
  · exact Or.inl hclosed
  · refine Or.inr ⟨hwaiting, hlast.trans htask.symm, ?_⟩
    intro task hok
    rw [hok] at htask
    exact hsent task htask.symm

/-- A build lands when the subscription has fallen asleep without a task. -/
def toyFeed : List (BoardLabel Nat Unit) :=
  [BoardLabel.accept, BoardLabel.advance 0 true, BoardLabel.advance 0 true,
    BoardLabel.work (WorkerLabel.onBuild Pow.toyTask)]

def toySettling : List (BoardLabel Nat Unit) :=
  [BoardLabel.count, BoardLabel.announce, BoardLabel.advance 0 true,
    BoardLabel.advance 0 true, BoardLabel.advance 0 true]

def toyRpc : Mining :=
  { miner := "5Miner", protocol := "proto-v1" }

def toyBoard (labels : List (BoardLabel Nat Unit)) : Board Nat Unit :=
  labels.foldl
    (boardStep Pow.toyNode.algorithm Pow.toyNode.powEngineId toyRpc) Board.new

theorem toy_subscription_is_woken :
    let task : MiningTask Nat := ⟨2, 2, "5Miner", "proto-v1"⟩
    exists subscriber,
      (toyBoard (toyFeed ++ toySettling)).subscribers = [subscriber] ∧
        subscriber.lastRead = some task ∧
        subscriber.delivered.getLast? = some task := by
  intro task
  have hreached : BoardReachedBy Pow.toyNode.algorithm
      Pow.toyNode.powEngineId toyRpc toyFeed (toyBoard toyFeed) :=
    Run.cons True.intro (Run.cons ⟨_, rfl, True.intro⟩
      (Run.cons ⟨_, rfl, True.intro⟩ (Run.single True.intro)))
  have hrun : Run (fun s label => BoardAllowed s label ∧ Settling label)
      (boardStep Pow.toyNode.algorithm Pow.toyNode.powEngineId toyRpc)
      (toyBoard toyFeed) toySettling (toyBoard (toyFeed ++ toySettling)) :=
    Run.cons ⟨Nat.zero_lt_one, True.intro⟩
      (Run.cons ⟨Nat.zero_lt_one, True.intro⟩
        (Run.cons ⟨⟨_, rfl, Nat.zero_ne_one⟩, True.intro⟩
          (Run.cons ⟨⟨_, rfl, True.intro⟩, True.intro⟩
            (Run.single ⟨⟨_, rfl, True.intro⟩, True.intro⟩))))
  have hsettled : Settled (toyBoard (toyFeed ++ toySettling)) := by
    intro label hsettling hallowed
    cases label with
    | work label => cases hsettling
    | accept => cases hsettling
    | count => exact absurd hallowed (Nat.lt_irrefl 0)
    | announce => exact absurd hallowed (Nat.lt_irrefl 0)
    | advance i sent =>
        rcases hallowed with ⟨subscriber, hsubscriber, hready⟩
        cases i with
        | zero =>
            cases hsubscriber
            exact absurd rfl hready
        | succ i => cases hsubscriber
  have hmain := (subscriptions_settle_on_the_current_task hreached hrun).right
    hsettled
  refine ⟨_, rfl, ?_⟩
  rcases hmain _ List.mem_cons_self with hclosed | ⟨_, hlast, hsent⟩
  · cases hclosed
  · exact ⟨hlast, hsent task rfl⟩

/-!
## What the version tells
-/

/-- The sections that changed the queue, counted or not. -/
def Board.changes (s : Board Hash Changes) : Nat :=
  s.version + s.counting

theorem step_changes {t : Board Hash Changes}
    {label : BoardLabel Hash Changes} (hallowed : BoardAllowed s label)
    (hstep : boardStep algorithm powEngineId rpc s label = t) :
    s.version ≤ t.version ∧
      (s.changes < t.changes ∨
        t.changes = s.changes ∧ t.worker.builds = s.worker.builds) := by
  rw [← hstep]
  unfold Board.changes
  cases label with
  | work label =>
      refine ⟨Nat.le_refl _, ?_⟩
      simp only [boardStep]
      cases hannounces : announces s.worker label with
      | true =>
          rw [if_pos rfl]
          exact Or.inl (by lia)
      | false =>
          rw [if_neg Bool.false_ne_true]
          exact Or.inr ⟨rfl,
            workerStep_builds_eq algorithm powEngineId s.worker hannounces⟩
  | count =>
      have hpos : 0 < s.counting := hallowed
      refine ⟨Nat.le_succ _, Or.inr ⟨?_, rfl⟩⟩
      simp only [boardStep, Board.count]
      lia
  | announce => exact ⟨Nat.le_refl _, Or.inr ⟨rfl, rfl⟩⟩
  | accept => exact ⟨Nat.le_refl _, Or.inr ⟨rfl, rfl⟩⟩
  | advance i sent =>
      simp only [boardStep]
      split
      · exact ⟨Nat.le_refl _, Or.inr ⟨rfl, rfl⟩⟩
      · exact ⟨Nat.le_refl _, Or.inr ⟨rfl, rfl⟩⟩

theorem run_changes {t : Board Hash Changes}
    {labels : List (BoardLabel Hash Changes)}
    (hrun : Run BoardAllowed (boardStep algorithm powEngineId rpc) s labels
      t) :
    s.version ≤ t.version ∧
      (s.changes < t.changes ∨
        t.changes = s.changes ∧ t.worker.builds = s.worker.builds) := by
  refine Run.preserves (fun t => s.version ≤ t.version ∧
    (s.changes < t.changes ∨
      t.changes = s.changes ∧ t.worker.builds = s.worker.builds)) ?_ hrun
    ⟨Nat.le_refl _, Or.inr ⟨rfl, rfl⟩⟩
  intro u label hallowed hu
  rcases step_changes hallowed
      (rfl : boardStep algorithm powEngineId rpc u label = _) with
    ⟨hversion, hstep⟩
  refine ⟨Nat.le_trans hu.left hversion, ?_⟩
  rcases hu.right with hmore | ⟨hsame, hbuilds⟩
  · exact Or.inl (by lia)
  · rcases hstep with hmore | ⟨hsame', hbuilds'⟩
    · exact Or.inl (by lia)
    · exact Or.inr ⟨hsame'.trans hsame, hbuilds'.trans hbuilds⟩

/-- A version that reads the same twice vouches for the whole queue, provided
no change is still on its way to the counter at the second reading and the
counter has not gone round. -/
theorem equal_versions_vouch_for_the_queue {t : Board Hash Changes}
    {labels : List (BoardLabel Hash Changes)}
    (hrun : Run BoardAllowed (boardStep algorithm powEngineId rpc) s labels t)
    (hsame : t.readVersion = s.readVersion)
    (hround : t.version < s.version + 2 ^ 64) (hcounted : t.counting = 0) :
    t.worker.builds = s.worker.builds ∧
      metadata t.worker = metadata s.worker := by
  rcases run_changes hrun with ⟨hversion, hchanges⟩
  unfold Board.readVersion at hsame
  have hequal : t.version = s.version := by lia
  have hbuilds : t.worker.builds = s.worker.builds := by
    unfold Board.changes at hchanges
    rcases hchanges with hmore | ⟨_, hbuilds⟩
    · lia
    · exact hbuilds
  refine ⟨hbuilds, ?_⟩
  unfold metadata
  rw [hbuilds]

end Follows

theorem submit_leaves_toy_version_and_queue :
    let s := toyBoard [BoardLabel.work (WorkerLabel.onBuild Pow.toyTask),
      BoardLabel.count]
    let t := toyBoard [BoardLabel.work (WorkerLabel.onBuild Pow.toyTask),
      BoardLabel.count, BoardLabel.work (WorkerLabel.submit 2 [7])]
    t.worker.builds = s.worker.builds ∧ metadata t.worker = metadata s.worker := by
  intro s t
  have hrun : Run BoardAllowed
      (boardStep Pow.toyNode.algorithm Pow.toyNode.powEngineId toyRpc) s
      [BoardLabel.work (WorkerLabel.submit 2 [7])] t :=
    Run.single True.intro
  exact equal_versions_vouch_for_the_queue hrun rfl (by decide) rfl

/-- Until the change is counted, the old version goes with the new task. -/
example :
    let t := toyBoard [BoardLabel.work (WorkerLabel.onBuild Pow.toyTask)]
    t.readVersion = (Board.new : Board Nat Unit).readVersion ∧
      metadata t.worker = some Pow.toyTask.metadata ∧
      metadata (Board.new : Board Nat Unit).worker = none :=
  ⟨rfl, rfl, rfl⟩

end Node
end Numen
