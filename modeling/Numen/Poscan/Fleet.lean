import Mathlib.Data.List.Chain
import Numen.Poscan.Algorithm
import Numen.Poscan.Target

/-!
# The node's scan threads

`new_full` starts a number of scan threads that share one cell, the head the
last seal was submitted for.  Each thread starts at its own number and strides
by their count.  A round of a thread is one step: it reads a task, which may be
out of date by the time the round ends, scans one nonce, and goes through the
cell's mutex at most once.
-/

namespace Numen
namespace Poscan

open Foundation

/-!
## The fleet
-/

structure Thread where
  nonce : U256
  best : Option BestSolution

/-- A seal on its way to the worker, with the task it was found for. -/
structure Submission where
  task : MiningTask
  raw : List UInt8

/-- The shared cell, the threads, and what they have done so far: the nonces
scanned, each with its thread, and the seals submitted in the order of their
claims. -/
structure Fleet where
  claimed : Option H256
  threads : List Thread
  scanned : List (Nat × U256)
  submitted : List Submission

/-- The loop of `new_full` that spawns the threads. -/
def Fleet.spawn (count : Nat) : Fleet where
  claimed := none
  threads := (List.range count).map fun i => ⟨toU256 i, none⟩
  scanned := []
  submitted := []

structure FleetRound where
  thread : Nat
  task : Option MiningTask

def Fleet.step (scan : Scan) (stride : U256) (fleet : Fleet)
    (round : FleetRound) : Fleet :=
  match fleet.threads[round.thread]?, round.task with
  | some thread, some task =>
      let (miner, submission) := mineRound scan stride (some task)
        ⟨thread.nonce, thread.best, fleet.claimed⟩
      { claimed := miner.claimed
        threads := fleet.threads.set round.thread ⟨miner.nonce, miner.best⟩
        scanned := fleet.scanned ++ [(round.thread, thread.nonce)]
        submitted := fleet.submitted ++
          submission.toList.map fun found => ⟨task, found.2⟩ }
  -- without a task the thread sleeps
  | _, _ => fleet

/-- `count` threads go through the rounds in the given order. -/
def Fleet.ReachedBy (scan : Scan) (count : Nat) (rounds : List FleetRound)
    (fleet : Fleet) : Prop :=
  Run (fun _ _ => True) (Fleet.step scan (toU256 count)) (Fleet.spawn count)
    rounds fleet

/-!
## What a round can do
-/

theorem mineRound_cases (scan : Scan) (stride : U256) (task : MiningTask)
    (miner : Miner) :
    (exists best, mineRound scan stride (some task) miner =
        (⟨miner.nonce + stride, best, miner.claimed⟩, none)) ∨
      exists best raw, miner.claimed ≠ some task.preHash ∧
        mineRound scan stride (some task) miner =
          (⟨miner.nonce + stride, best, some task.preHash⟩,
            some (task.preHash, raw)) := by
  unfold mineRound
  dsimp only
  split
  · exact Or.inl ⟨_, rfl⟩
  · split
    · split
      · exact Or.inl ⟨_, rfl⟩
      · rename_i hfree
        exact Or.inr ⟨_, _, hfree, rfl⟩
    · exact Or.inl ⟨_, rfl⟩

def Fleet.minerOf (fleet : Fleet) (thread : Thread) : Miner :=
  ⟨thread.nonce, thread.best, fleet.claimed⟩

inductive FleetCase (scan : Scan) (stride : U256) (fleet : Fleet)
    (round : FleetRound) : Fleet -> Prop where
  | slept : FleetCase scan stride fleet round fleet
  | scanned (thread : Thread) (task : MiningTask)
      (best : Option BestSolution) :
      fleet.threads[round.thread]? = some thread -> round.task = some task ->
      mineRound scan stride (some task) (fleet.minerOf thread) =
        (⟨thread.nonce + stride, best, fleet.claimed⟩, none) ->
      FleetCase scan stride fleet round
        { fleet with
          threads := fleet.threads.set round.thread
            ⟨thread.nonce + stride, best⟩
          scanned := fleet.scanned ++ [(round.thread, thread.nonce)] }
  | submitted (thread : Thread) (task : MiningTask)
      (best : Option BestSolution) (raw : List UInt8) :
      fleet.threads[round.thread]? = some thread -> round.task = some task ->
      fleet.claimed ≠ some task.preHash ->
      mineRound scan stride (some task) (fleet.minerOf thread) =
        (⟨thread.nonce + stride, best, some task.preHash⟩,
          some (task.preHash, raw)) ->
      FleetCase scan stride fleet round
        { claimed := some task.preHash
          threads := fleet.threads.set round.thread
            ⟨thread.nonce + stride, best⟩
          scanned := fleet.scanned ++ [(round.thread, thread.nonce)]
          submitted := fleet.submitted ++ [⟨task, raw⟩] }

theorem Fleet.step_cases (scan : Scan) (stride : U256) (fleet : Fleet)
    (round : FleetRound) :
    FleetCase scan stride fleet round (fleet.step scan stride round) := by
  unfold Fleet.step
  split
  · rename_i thread task hthread htask
    rcases mineRound_cases scan stride task (fleet.minerOf thread) with
      ⟨best, hround⟩ | ⟨best, raw, hfree, hround⟩
    · have hcase := FleetCase.scanned thread task best hthread htask hround
      unfold Fleet.minerOf at hround
      rw [hround]
      simpa using hcase
    · have hcase := FleetCase.submitted thread task best raw hthread htask
        hfree hround
      unfold Fleet.minerOf at hround
      rw [hround]
      exact hcase
  · exact FleetCase.slept

/-!
## What the fleet submits
-/

/-- Every thread, seen alone, has gone through rounds of its own and claims of
its siblings. -/
def Fleet.Threaded (scan : Scan) (stride : U256) (fleet : Fleet) : Prop :=
  forall (i : Nat) (thread : Thread), fleet.threads[i]? = some thread ->
    exists start events,
      (fleet.minerOf thread).ReachedBy scan stride start none events

theorem Fleet.spawn_getElem? {count i : Nat} {thread : Thread}
    (h : (Fleet.spawn count).threads[i]? = some thread) :
    thread = ⟨toU256 i, none⟩ := by
  unfold Fleet.spawn at h
  rw [List.getElem?_map] at h
  rcases Option.map_eq_some_iff.mp h with ⟨j, hj, rfl⟩
  rcases List.getElem?_eq_some_iff.mp hj with ⟨_, hij⟩
  rw [← hij, List.getElem_range]

theorem Fleet.spawn_threaded (scan : Scan) (stride : U256) (count : Nat) :
    (Fleet.spawn count).Threaded scan stride := by
  intro i thread hthread
  rw [Fleet.spawn_getElem? hthread]
  exact ⟨toU256 i, [], Run.nil _⟩

theorem Fleet.Threaded.set {scan : Scan} {stride : U256} {fleet : Fleet}
    (hfleet : fleet.Threaded scan stride) {i : Nat} {thread : Thread}
    (hthread : fleet.threads[i]? = some thread) (task : MiningTask)
    {after : Fleet} {moved : Thread}
    (hround : (mineRound scan stride (some task) (fleet.minerOf thread)).1 =
      after.minerOf moved)
    (hthreads : after.threads = fleet.threads.set i moved)
    (hclaimed : after.claimed = fleet.claimed ∨
      exists preHash, after.claimed = some preHash) :
    after.Threaded scan stride := by
  intro j other hother
  rw [hthreads, List.getElem?_set] at hother
  split at hother
  · split at hother
    · cases hother
      rename_i hij _
      cases hij
      rcases hfleet i thread hthread with ⟨start, events, hreached⟩
      refine ⟨start, events ++ [MinerEvent.round (some task)], ?_⟩
      have hstep : mineStep scan stride (fleet.minerOf thread)
          (MinerEvent.round (some task)) = after.minerOf moved := hround
      rw [← hstep]
      exact hreached.append (Run.single True.intro)
    · cases hother
  · rcases hfleet j other hother with ⟨start, events, hreached⟩
    rcases hclaimed with hsame | ⟨preHash, hnew⟩
    · refine ⟨start, events, ?_⟩
      unfold Fleet.minerOf
      rw [hsame]
      exact hreached
    · refine ⟨start, events ++ [MinerEvent.siblingClaims preHash], ?_⟩
      have hstep : mineStep scan stride (fleet.minerOf other)
          (MinerEvent.siblingClaims preHash) = after.minerOf other := by
        unfold Fleet.minerOf mineStep
        rw [hnew]
      rw [← hstep]
      exact hreached.append (Run.single True.intro)

theorem Fleet.step_threaded {scan : Scan} {stride : U256} {fleet : Fleet}
    (round : FleetRound) (h : fleet.Threaded scan stride) :
    (fleet.step scan stride round).Threaded scan stride := by
  have hcase := fleet.step_cases scan stride round
  generalize fleet.step scan stride round = after at hcase ⊢
  cases hcase with
  | slept => exact h
  | scanned thread task best hthread htask hround =>
      refine h.set hthread task ?_ rfl (Or.inl rfl)
      rw [hround]
      rfl
  | submitted thread task best raw hthread htask hfree hround =>
      refine h.set hthread task ?_ rfl (Or.inr ⟨_, rfl⟩)
      rw [hround]
      rfl

/-- The seal of a submission passes the verifier for its task. -/
def Submission.Accepted (scan : Scan) (submission : Submission) : Prop :=
  verifySeal scan submission.task.preHash submission.raw
    submission.task.difficulty = Except.ok true

theorem Fleet.step_accepted {scan : Scan} {stride : U256} {fleet : Fleet}
    (round : FleetRound) (hthreaded : fleet.Threaded scan stride)
    (h : ∀ submission ∈ fleet.submitted, submission.Accepted scan) :
    ∀ submission ∈ (fleet.step scan stride round).submitted,
      submission.Accepted scan := by
  have hcase := fleet.step_cases scan stride round
  generalize fleet.step scan stride round = after at hcase ⊢
  cases hcase with
  | slept => exact h
  | scanned thread task best hthread htask hround => exact h
  | submitted thread task best raw hthread htask hfree hround =>
      intro submission hmem
      rcases List.mem_append.mp hmem with hold | hnew
      · exact h submission hold
      · rw [List.mem_singleton.mp hnew]
        rcases hthreaded round.thread thread hthread with
          ⟨start, events, hreached⟩
        exact (submitted_seals_are_accepted hreached
          (congrArg Prod.snd hround)).right

/-!
## How often a head is submitted
-/

def Fleet.heads (fleet : Fleet) : List H256 :=
  fleet.submitted.map fun submission => submission.task.preHash

/-- The cell holds the last head, and no head follows itself. -/
structure Fleet.Alternates (fleet : Fleet) : Prop where
  claimed_eq : fleet.claimed = fleet.heads.getLast?
  apart : fleet.heads.IsChain (· ≠ ·)

theorem Fleet.step_alternates (scan : Scan) (stride : U256) {fleet : Fleet}
    (round : FleetRound) (h : fleet.Alternates) :
    (fleet.step scan stride round).Alternates := by
  have hcase := fleet.step_cases scan stride round
  generalize fleet.step scan stride round = after at hcase ⊢
  cases hcase with
  | slept => exact h
  | scanned thread task best hthread htask hround =>
      exact ⟨h.claimed_eq, h.apart⟩
  | submitted thread task best raw hthread htask hfree hround =>
      have hheads : (fleet.submitted ++ [(⟨task, raw⟩ : Submission)]).map
          (fun submission => submission.task.preHash) =
            fleet.heads ++ [task.preHash] := by
        rw [List.map_append]
        rfl
      constructor
      · unfold Fleet.heads
        dsimp only
        rw [hheads, List.getLast?_concat]
      · unfold Fleet.heads
        dsimp only
        rw [hheads, List.isChain_append]
        refine ⟨h.apart, List.isChain_singleton _, ?_⟩
        intro last hlast other hother heq
        rw [h.claimed_eq, Option.mem_def.mp hlast, heq] at hfree
        cases hother
        exact hfree rfl

def NoReturn {α : Type} (l : List α) : Prop :=
  forall a b, [a, b, a].Sublist l -> b = a

theorem nodup_of_noReturn {α : Type} {l : List α} (happart : l.IsChain (· ≠ ·))
    (hreturn : NoReturn l) : l.Nodup := by
  induction l with
  | nil => exact List.nodup_nil
  | cons a rest ih =>
      have hrest : rest.Nodup := by
        refine ih happart.tail ?_
        intro x y hsub
        exact hreturn x y (hsub.trans (List.sublist_cons_self a rest))
      refine List.nodup_cons.mpr ⟨?_, hrest⟩
      intro hmem
      cases rest with
      | nil => cases hmem
      | cons b later =>
          have hne : a ≠ b := (List.isChain_cons_cons.mp happart).left
          have hlater : a ∈ later := (List.mem_cons.mp hmem).resolve_left hne
          have hsub : [a, b, a].Sublist (a :: b :: later) :=
            ((List.singleton_sublist.mpr hlater).cons_cons b).cons_cons a
          exact hne (hreturn a b hsub).symm

def FleetRound.head (round : FleetRound) : Option H256 :=
  round.task.map fun task => task.preHash

theorem Fleet.run_heads {scan : Scan} {stride : U256} {fleet after : Fleet}
    {rounds : List FleetRound}
    (hrun : Run (fun _ _ => True) (Fleet.step scan stride) fleet rounds
      after) :
    exists later, after.heads = fleet.heads ++ later ∧
      later.Sublist (rounds.filterMap FleetRound.head) := by
  induction hrun with
  | nil fleet => exact ⟨[], (List.append_nil _).symm, List.Sublist.refl _⟩
  | @cons fleet after round rounds _ _ ih =>
      rcases ih with ⟨later, hlater, hsub⟩
      have hskip : later.Sublist
          ((round :: rounds).filterMap FleetRound.head) :=
        hsub.trans ((List.sublist_cons_self round rounds).filterMap _)
      have hcase := fleet.step_cases scan stride round
      generalize fleet.step scan stride round = next at hcase hlater
      cases hcase with
      | slept => exact ⟨later, hlater, hskip⟩
      | scanned thread task best hthread htask hround =>
          exact ⟨later, hlater, hskip⟩
      | submitted thread task best raw hthread htask hfree hround =>
          refine ⟨task.preHash :: later, ?_, ?_⟩
          · rw [hlater]
            unfold Fleet.heads
            simp
          · have hhead : round.head = some task.preHash := by
              unfold FleetRound.head
              rw [htask]
              rfl
            rw [List.filterMap_cons_some hhead]
            exact hsub.cons_cons task.preHash

theorem Submission.Accepted.verify_eq {scan : Scan} {submission : Submission}
    (h : submission.Accepted scan) {runtime : Runtime} {parent : H256}
    (hstate : (runtime.stateAt parent).isSome)
    (hscan : runtime.scanAt parent = scan)
    (preDigest : Option (List UInt8)) :
    (poScanAlgorithm runtime.api).verify parent submission.task.preHash
      preDigest submission.raw submission.task.difficulty =
        Except.ok true := by
  rcases Option.isSome_iff_exists.mp hstate with ⟨state, hstate⟩
  have hdifficulty : toU256 submission.task.difficulty.val =
      submission.task.difficulty :=
    Fin.ofNat_val_eq_self _
  have hverdict : PowVerifyApi.verifySeal scan submission.task.preHash
      submission.raw submission.task.difficulty = true :=
    (PowVerifyApi.verifySeal_iff _ _ _ _).mpr h
  unfold poScanAlgorithm Runtime.api
  dsimp only
  rw [hstate, hdifficulty, hscan, hverdict]

/-- However the rounds of the threads interleave, and however far a thread lags
behind the worker's task: every seal submitted is one the nodes that run the
same scan accept for the task it was found for, and two seals for one head are
submitted only with another head's between them.  A fleet whose rounds never
return to a head they left submits at most one seal for each. -/
theorem fleet_submits_one_good_seal_per_head {scan : Scan} {count : Nat}
    {rounds : List FleetRound} {fleet : Fleet}
    (h : fleet.ReachedBy scan count rounds) :
    (∀ submission ∈ fleet.submitted, forall (runtime : Runtime) parent
      preDigest, (runtime.stateAt parent).isSome ->
        runtime.scanAt parent = scan ->
        (poScanAlgorithm runtime.api).verify parent submission.task.preHash
          preDigest submission.raw submission.task.difficulty =
            Except.ok true) ∧
      fleet.heads.IsChain (· ≠ ·) ∧
      (NoReturn (rounds.filterMap FleetRound.head) -> fleet.heads.Nodup) := by
  have hgood : fleet.Threaded scan (toU256 count) ∧
      ∀ submission ∈ fleet.submitted, submission.Accepted scan := by
    refine Run.preserves
      (fun fleet => Fleet.Threaded scan (toU256 count) fleet ∧
        ∀ submission ∈ fleet.submitted, submission.Accepted scan) ?_ h
      ⟨Fleet.spawn_threaded scan _ count, ?_⟩
    · intro s round _ hs
      exact ⟨s.step_threaded round hs.left,
        s.step_accepted round hs.left hs.right⟩
    · intro submission hmem
      cases hmem
  have halternates : fleet.Alternates :=
    Run.preserves Fleet.Alternates
      (fun s round _ hs => s.step_alternates scan _ round hs) h
      ⟨rfl, List.isChain_nil⟩
  refine ⟨?_, halternates.apart, ?_⟩
  · intro submission hmem runtime parent preDigest hstate hscan
    exact (hgood.right submission hmem).verify_eq hstate hscan preDigest
  · intro hreturn
    rcases Fleet.run_heads h with ⟨later, hlater, hsub⟩
    have hheads : fleet.heads = later := hlater
    rw [← hheads] at hsub
    refine nodup_of_noReturn halternates.apart ?_
    intro a b htriple
    exact hreturn a b (htriple.trans hsub)

/-- A task at difficulty five for the head of the given number. -/
def toyHead (n : Nat) : MiningTask :=
  ⟨BigEndian.word 32 n, toU256 5⟩

/-- The first thread still holds the task of head one when its sibling has
moved on to head two. -/
def toyFleet : Fleet :=
  [⟨0, some (toyHead 1)⟩, ⟨1, some (toyHead 2)⟩, ⟨0, some (toyHead 1)⟩].foldl
    (Fleet.step unitScan (toU256 2)) (Fleet.spawn 2)

theorem toyFleet_reached : toyFleet.ReachedBy unitScan 2
    [⟨0, some (toyHead 1)⟩, ⟨1, some (toyHead 2)⟩, ⟨0, some (toyHead 1)⟩] :=
  Run.cons True.intro (Run.cons True.intro (Run.single True.intro))

/-- A lagging thread gets a head submitted again, with a seal as good as the
first. -/
theorem lagging_thread_submits_head_again :
    toyFleet.heads =
        [(toyHead 1).preHash, (toyHead 2).preHash, (toyHead 1).preHash] ∧
      toyFleet.heads.IsChain (· ≠ ·) ∧
      ∀ submission ∈ toyFleet.submitted,
        (poScanAlgorithm toyRuntime.api).verify (Bytes.replicate 32 0)
          submission.task.preHash none submission.raw
          submission.task.difficulty = Except.ok true := by
  have hmain := fleet_submits_one_good_seal_per_head toyFleet_reached
  refine ⟨?_, hmain.right.left, ?_⟩
  · decide +kernel
  · intro submission hmem
    exact hmain.left submission hmem toyRuntime _ none rfl rfl

/-!
## Which nonces the fleet scans
-/

def Fleet.noncesOf (fleet : Fleet) (i : Nat) : List U256 :=
  (fleet.scanned.filter fun entry => entry.1 = i).map Prod.snd

theorem Fleet.noncesOf_append {fleet after : Fleet} {i : Nat} {nonce : U256}
    (hscanned : after.scanned = fleet.scanned ++ [(i, nonce)]) (j : Nat) :
    after.noncesOf j =
      if i = j then fleet.noncesOf j ++ [nonce] else fleet.noncesOf j := by
  unfold Fleet.noncesOf
  rw [hscanned, List.filter_append, List.map_append]
  split
  · rename_i hij
    rw [List.filter_cons_of_pos (by simpa using hij)]
    rfl
  · rename_i hij
    rw [List.filter_cons_of_neg (by simpa using hij)]
    exact List.append_nil _

def strideNonce (count i k : Nat) : U256 :=
  toU256 (i + count * k)

theorem strideNonce_succ (count i k : Nat) :
    strideNonce count i k + toU256 count = strideNonce count i (k + 1) := by
  apply Fin.ext
  unfold strideNonce toU256
  rw [Fin.val_add]
  change ((i + count * k) % 2 ^ 256 + count % 2 ^ 256) % 2 ^ 256 =
    (i + count * (k + 1)) % 2 ^ 256
  rw [← Nat.add_mod, Nat.mul_add_one, Nat.add_assoc]

/-- Every thread has gone through the nonces of its stride, and stands at the
next one. -/
structure Fleet.Strides (count : Nat) (fleet : Fleet) : Prop where
  length_eq : fleet.threads.length = count
  next_eq : forall (i : Nat) (thread : Thread),
    fleet.threads[i]? = some thread ->
      thread.nonce = strideNonce count i (fleet.noncesOf i).length
  scanned_eq : forall i, fleet.noncesOf i =
    (List.range (fleet.noncesOf i).length).map (strideNonce count i)
  thread_lt : ∀ entry ∈ fleet.scanned, entry.1 < count

theorem Fleet.spawn_strides (count : Nat) :
    (Fleet.spawn count).Strides count := by
  refine ⟨?_, ?_, ?_, ?_⟩
  · unfold Fleet.spawn
    rw [List.length_map, List.length_range]
  · intro i thread hthread
    rw [Fleet.spawn_getElem? hthread]
    rfl
  · intro i
    rfl
  · intro entry hmem
    cases hmem

theorem Fleet.Strides.scan {count : Nat} {fleet after : Fleet}
    (h : fleet.Strides count) {i : Nat} {thread : Thread}
    (hthread : fleet.threads[i]? = some thread) {best : Option BestSolution}
    (hthreads : after.threads =
      fleet.threads.set i ⟨thread.nonce + toU256 count, best⟩)
    (hscanned : after.scanned = fleet.scanned ++ [(i, thread.nonce)]) :
    after.Strides count := by
  have hnonces := Fleet.noncesOf_append hscanned
  refine ⟨?_, ?_, ?_, ?_⟩
  · rw [hthreads, List.length_set]
    exact h.length_eq
  · intro j other hother
    rw [hthreads, List.getElem?_set] at hother
    split at hother
    · rename_i hij
      split at hother
      · cases hother
        cases hij
        rw [hnonces, if_pos rfl, List.length_append, h.next_eq i thread hthread]
        exact strideNonce_succ count i _
      · cases hother
    · rename_i hij
      rw [hnonces, if_neg hij]
      exact h.next_eq j other hother
  · intro j
    rw [hnonces]
    split
    · rename_i hij
      cases hij
      rw [List.length_append, List.length_singleton, List.range_succ,
        List.map_append, ← h.scanned_eq i, h.next_eq i thread hthread]
      rfl
    · exact h.scanned_eq j
  · intro entry hmem
    rw [hscanned] at hmem
    rcases List.mem_append.mp hmem with hold | hnew
    · exact h.thread_lt entry hold
    · rw [List.mem_singleton.mp hnew, ← h.length_eq]
      exact (List.getElem?_eq_some_iff.mp hthread).choose

theorem Fleet.step_strides {count : Nat} {fleet : Fleet} (scan : Scan)
    (round : FleetRound) (h : fleet.Strides count) :
    (fleet.step scan (toU256 count) round).Strides count := by
  have hcase := fleet.step_cases scan (toU256 count) round
  generalize fleet.step scan (toU256 count) round = after at hcase ⊢
  cases hcase with
  | slept => exact h
  | scanned thread task best hthread htask hround =>
      exact h.scan hthread rfl rfl
  | submitted thread task best raw hthread htask hfree hround =>
      exact h.scan hthread rfl rfl

section Partition

variable {count : Nat} {fleet : Fleet}

theorem Fleet.mem_noncesOf {i : Nat} {nonce : U256} :
    nonce ∈ fleet.noncesOf i <-> (i, nonce) ∈ fleet.scanned := by
  unfold Fleet.noncesOf
  constructor
  · intro hmem
    rcases List.mem_map.mp hmem with ⟨entry, hentry, rfl⟩
    rcases List.mem_filter.mp hentry with ⟨hscanned, hthread⟩
    rw [← of_decide_eq_true hthread]
    exact hscanned
  · intro hmem
    exact List.mem_map.mpr
      ⟨(i, nonce), List.mem_filter.mpr ⟨hmem, decide_eq_true rfl⟩, rfl⟩

theorem Fleet.Strides.mem_iff (h : fleet.Strides count) {i : Nat}
    {nonce : U256} : (i, nonce) ∈ fleet.scanned <->
      exists k, k < (fleet.noncesOf i).length ∧
        strideNonce count i k = nonce := by
  rw [← Fleet.mem_noncesOf, h.scanned_eq i, List.mem_map]
  simp only [List.mem_range, List.length_map, List.length_range]

/-- As long as the strides have not gone round, a nonce is the number it was
reached as. -/
theorem Fleet.Strides.nonce_val (h : fleet.Strides count)
    (hfits : forall j, count * (fleet.noncesOf j).length ≤ 2 ^ 256) {i k : Nat}
    (hk : k < (fleet.noncesOf i).length) :
    i < count ∧ (strideNonce count i k).val = i + count * k := by
  have hi : i < count := h.thread_lt _ (h.mem_iff.mpr ⟨k, hk, rfl⟩)
  have hturn : count * (k + 1) ≤ 2 ^ 256 :=
    Nat.le_trans (Nat.mul_le_mul_left count hk) (hfits i)
  have hbound : i + count * k < 2 ^ 256 := by
    rw [Nat.mul_add_one] at hturn
    lia
  exact ⟨hi, Nat.mod_eq_of_lt hbound⟩

theorem Fleet.Strides.thread_eq (h : fleet.Strides count)
    (hfits : forall j, count * (fleet.noncesOf j).length ≤ 2 ^ 256) {i : Nat}
    {nonce : U256} (hmem : (i, nonce) ∈ fleet.scanned) : nonce.val % count = i := by
  rcases h.mem_iff.mp hmem with ⟨k, hk, rfl⟩
  rcases h.nonce_val hfits hk with ⟨hi, hvalue⟩
  rw [hvalue, Nat.add_mul_mod_self_left, Nat.mod_eq_of_lt hi]

theorem Fleet.Strides.noncesOf_nodup (h : fleet.Strides count)
    (hfits : forall j, count * (fleet.noncesOf j).length ≤ 2 ^ 256) (i : Nat) :
    (fleet.noncesOf i).Nodup := by
  rw [h.scanned_eq i]
  refine List.Nodup.map_on ?_ List.nodup_range
  intro k hk l hl hsame
  rcases h.nonce_val hfits (List.mem_range.mp hk) with ⟨hi, hkvalue⟩
  rcases h.nonce_val hfits (List.mem_range.mp hl) with ⟨_, hlvalue⟩
  rw [hsame, hlvalue] at hkvalue
  exact (Nat.mul_left_cancel (Nat.zero_lt_of_lt hi)
    (Nat.add_left_cancel hkvalue)).symm

theorem Fleet.Strides.nodup (h : fleet.Strides count)
    (hfits : forall i, count * (fleet.noncesOf i).length ≤ 2 ^ 256) :
    (fleet.scanned.map Prod.snd).Nodup := by
  rw [List.nodup_iff_count_le_one]
  intro nonce
  -- all scans of one nonce are by the thread of its residue
  have hthread : (fleet.scanned.map Prod.snd).count nonce =
      (fleet.noncesOf (nonce.val % count)).count nonce := by
    unfold Fleet.noncesOf
    rw [List.count_eq_countP, List.count_eq_countP, List.countP_map,
      List.countP_map, List.countP_filter]
    refine List.countP_congr ?_
    rintro ⟨i, other⟩ hmem
    have hi := h.thread_eq hfits hmem
    simp only [Function.comp, beq_iff_eq, Bool.and_eq_true, decide_eq_true_eq]
    constructor
    · intro hother
      rw [← hother, hi]
      exact ⟨rfl, rfl⟩
    · exact And.left
  rw [hthread]
  exact List.nodup_iff_count_le_one.mp (h.noncesOf_nodup hfits _) nonce

/-- The threads divide the nonces among themselves: until the stride of one has
gone round, no nonce is scanned twice, by one thread or by two, and the nonces
scanned are the first ones of each residue, as many as its thread has gone
through. -/
theorem fleet_scans_no_nonce_twice {scan : Scan} {rounds : List FleetRound}
    (h : fleet.ReachedBy scan count rounds)
    (hfits : forall i, count * (fleet.noncesOf i).length ≤ 2 ^ 256) :
    (fleet.scanned.map Prod.snd).Nodup ∧
      forall nonce : U256, nonce ∈ fleet.scanned.map Prod.snd <->
        nonce.val / count < (fleet.noncesOf (nonce.val % count)).length := by
  have hstrides : fleet.Strides count :=
    Run.preserves (Fleet.Strides count)
      (fun s round _ hs => s.step_strides scan round hs) h
      (Fleet.spawn_strides count)
  refine ⟨hstrides.nodup hfits, ?_⟩
  intro nonce
  constructor
  · intro hmem
    rcases List.mem_map.mp hmem with ⟨⟨i, _⟩, hscanned, rfl⟩
    rcases hstrides.mem_iff.mp hscanned with ⟨k, hk, rfl⟩
    rcases hstrides.nonce_val hfits hk with ⟨hi, hvalue⟩
    dsimp only
    rw [hstrides.thread_eq hfits hscanned, hvalue,
      Nat.add_mul_div_left _ _ (Nat.zero_lt_of_lt hi), Nat.div_eq_of_lt hi,
      Nat.zero_add]
    exact hk
  · intro hturn
    refine List.mem_map.mpr ⟨(nonce.val % count, nonce), ?_, rfl⟩
    refine hstrides.mem_iff.mpr ⟨nonce.val / count, hturn, ?_⟩
    apply Fin.ext
    rw [(hstrides.nonce_val hfits hturn).right, Nat.mod_add_div]

theorem toyFleet_scans_no_nonce_twice :
    toyFleet.scanned = [(0, 0), (1, 1), (0, 2)] ∧
      (toyFleet.scanned.map Prod.snd).Nodup := by
  have hscanned : toyFleet.scanned = [(0, 0), (1, 1), (0, 2)] := by
    decide +kernel
  have hfits : forall i, 2 * (toyFleet.noncesOf i).length ≤ 2 ^ 256 := by
    intro i
    have hthree : (toyFleet.noncesOf i).length ≤ 3 := by
      unfold Fleet.noncesOf
      rw [List.length_map, hscanned]
      exact List.length_filter_le _ _
    exact Nat.le_trans (Nat.mul_le_mul_left 2 hthree) (by decide)
  exact ⟨hscanned, (fleet_scans_no_nonce_twice toyFleet_reached hfits).left⟩

end Partition

end Poscan
end Numen
