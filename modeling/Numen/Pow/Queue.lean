import Numen.Pow.Worker

/-!
# The mining queue under concurrent submits

Between its sections a `submit` holds no lock on the queue, so head changes,
evictions and rival submits may fall into every gap.  The invariants below hold
after every step of every interleaving.
-/

namespace Numen
namespace Pow

open Foundation

variable {Hash Changes : Type} [DecidableEq Hash]
variable {algorithm : PowAlgorithm Hash} {powEngineId : ConsensusEngineId}

/-!
## What a step can do
-/

/-- `algorithm.verify` accepted the seal for a task. -/
def Accepts (algorithm : PowAlgorithm Hash) (metadata : MiningMetadata Hash)
    (rawSeal : Seal) : Prop :=
  algorithm.verify metadata.bestHash metadata.preHash metadata.preRuntime
    rawSeal metadata.difficulty = Except.ok true

inductive WorkerCase (algorithm : PowAlgorithm Hash)
    (powEngineId : ConsensusEngineId) (s : Worker Hash Changes) :
    WorkerLabel Hash Changes -> Worker Hash Changes -> Prop where
  | stacked (value : MiningBuild Hash Changes) :
      s.bestHash = some value.metadata.bestHash ->
      WorkerCase algorithm powEngineId s (WorkerLabel.onBuild value)
        ({ s with builds := trim maxLiveTasks (s.builds ++ [value]) }.record
          [WorkerEvent.pushed value])
  | restarted (value : MiningBuild Hash Changes) :
      s.bestHash ≠ some value.metadata.bestHash ->
      WorkerCase algorithm powEngineId s (WorkerLabel.onBuild value)
        ({ s with builds := [value] }.record
          [WorkerEvent.cleared, WorkerEvent.pushed value])
  | syncing :
      WorkerCase algorithm powEngineId s WorkerLabel.onMajorSyncing
        ({ s with builds := [] }.record [WorkerEvent.cleared])
  | missed (preHash : Hash) (rawSeal : Seal) :
      WorkerCase algorithm powEngineId s (WorkerLabel.submit preHash rawSeal)
        { s with calls := s.calls ++ [Call.returned false] }
  | found (preHash : Hash) (rawSeal : Seal)
      (build : MiningBuild Hash Changes) :
      build ∈ s.builds -> build.metadata.preHash = preHash ->
      WorkerCase algorithm powEngineId s (WorkerLabel.submit preHash rawSeal)
        { s with
          calls := s.calls ++ [Call.found preHash rawSeal build.metadata] }
  | verified (call : Nat) (preHash : Hash) (rawSeal : Seal)
      (metadata : MiningMetadata Hash) :
      s.calls[call]? = some (Call.found preHash rawSeal metadata) ->
      Accepts algorithm metadata rawSeal ->
      WorkerCase algorithm powEngineId s (WorkerLabel.verify call)
        (s.setCall call (Call.verified preHash rawSeal))
  | gaveUp (label : WorkerLabel Hash Changes) (call : Nat)
      (before : Call Hash Changes) :
      s.calls[call]? = some before ->
      (forall rawSeal build, before ≠ Call.taken rawSeal build) ->
      WorkerCase algorithm powEngineId s label
        (s.setCall call (Call.returned false))
  | took (call : Nat) (rawSeal : Seal) (build : MiningBuild Hash Changes)
      (older newer : List (MiningBuild Hash Changes)) :
      s.calls[call]? = some (Call.verified build.metadata.preHash rawSeal) ->
      s.builds = older ++ build :: newer ->
      WorkerCase algorithm powEngineId s (WorkerLabel.take call)
        (({ s with builds := older ++ newer }.setCall call
          (Call.taken rawSeal build)).record [WorkerEvent.taken build])
  | handedOver (call : Nat) (rawSeal : Seal)
      (build : MiningBuild Hash Changes) (imported : Bool)
      (importing : Option Nat) (after : Call Hash Changes) :
      s.calls[call]? = some (Call.taken rawSeal build) ->
      after = Call.landed build ∨ after = Call.returned false ->
      WorkerCase algorithm powEngineId s
        (WorkerLabel.importBlock call imported)
        (({ s with importing := importing }.record
          [WorkerEvent.handedOver build.metadata.preHash
            (minedBlock powEngineId build rawSeal)]).setCall call after)
  | finished (call : Nat) (build : MiningBuild Hash Changes) :
      s.calls[call]? = some (Call.landed build) ->
      WorkerCase algorithm powEngineId s (WorkerLabel.clear call)
        (({ s with builds := [], importing := none }.setCall call
          (Call.returned true)).record [WorkerEvent.cleared])
  | idle (label : WorkerLabel Hash Changes) :
      WorkerCase algorithm powEngineId s label s

omit [DecidableEq Hash] in
theorem trim_singleton (value : MiningBuild Hash Changes) :
    trim maxLiveTasks [value] = [value] :=
  trim_of_length_le (Nat.le_add_left 1 255)

theorem Worker.onBuild_cases (s : Worker Hash Changes)
    (value : MiningBuild Hash Changes) :
    WorkerCase algorithm powEngineId s (WorkerLabel.onBuild value)
      (s.onBuild value) := by
  unfold Worker.onBuild
  split
  · rename_i hhead
    rw [trim_singleton]
    exact WorkerCase.restarted value hhead
  · rename_i hhead
    exact WorkerCase.stacked value (not_not.mp hhead)

theorem Worker.submit_cases (s : Worker Hash Changes) (preHash : Hash)
    (rawSeal : Seal) :
    WorkerCase algorithm powEngineId s (WorkerLabel.submit preHash rawSeal)
      (s.submit preHash rawSeal) := by
  unfold Worker.submit
  cases hfind : s.builds.find? (Worker.isTask preHash) with
  | none => exact WorkerCase.missed preHash rawSeal
  | some build =>
      have htask := Worker.isTask_eq_true.mp (List.find?_some hfind)
      exact WorkerCase.found preHash rawSeal build
        (List.mem_of_find?_eq_some hfind) htask

omit [DecidableEq Hash] in
theorem Worker.verify_cases (s : Worker Hash Changes) (call : Nat) :
    WorkerCase algorithm powEngineId s (WorkerLabel.verify call)
      (s.verify algorithm call) := by
  unfold Worker.verify
  split
  · rename_i preHash rawSeal metadata hcall
    have hgiveUp : WorkerCase algorithm powEngineId s
        (WorkerLabel.verify call) (s.setCall call (Call.returned false)) :=
      WorkerCase.gaveUp _ call _ hcall (by simp)
    split
    · rename_i haccepted
      exact WorkerCase.verified call preHash rawSeal metadata hcall haccepted
    · exact hgiveUp
    · exact hgiveUp
  · exact WorkerCase.idle _

theorem Worker.take_cases (s : Worker Hash Changes) (call : Nat) :
    WorkerCase algorithm powEngineId s (WorkerLabel.take call)
      (s.take call) := by
  unfold Worker.take
  split
  · rename_i preHash rawSeal hcall
    cases hfind : s.builds.find? (Worker.isTask preHash) with
    | none => exact WorkerCase.gaveUp _ call _ hcall (by simp)
    | some build =>
        rcases List.find?_eq_some_iff_append.mp hfind with
          ⟨htask, older, newer, hsplit, holder⟩
        cases Worker.isTask_eq_true.mp htask
        have hrest : s.builds.eraseP (Worker.isTask build.metadata.preHash) =
            older ++ newer := by
          rw [hsplit, List.eraseP_append_right, List.eraseP_cons_of_pos htask]
          intro other hmem
          simpa using holder other hmem
        dsimp only
        rw [hrest]
        exact WorkerCase.took call rawSeal build older newer hcall hsplit
  · exact WorkerCase.idle _

omit [DecidableEq Hash] in
theorem Worker.importBlock_cases (s : Worker Hash Changes) (call : Nat)
    (imported : Bool) :
    WorkerCase algorithm powEngineId s (WorkerLabel.importBlock call imported)
      (s.importBlock powEngineId call imported) := by
  unfold Worker.importBlock
  split
  · rename_i rawSeal build hcall
    cases imported with
    | true =>
        exact WorkerCase.handedOver call rawSeal build true (some call) _ hcall
          (Or.inl rfl)
    | false =>
        exact WorkerCase.handedOver call rawSeal build false s.importing _ hcall
          (Or.inr rfl)
  · exact WorkerCase.idle _

theorem workerStep_cases (s : Worker Hash Changes)
    (label : WorkerLabel Hash Changes) :
    WorkerCase algorithm powEngineId s label
      (workerStep algorithm powEngineId s label) := by
  cases label with
  | onBuild value => exact Worker.onBuild_cases s value
  | onMajorSyncing => exact WorkerCase.syncing
  | submit preHash rawSeal => exact Worker.submit_cases s preHash rawSeal
  | verify call => exact Worker.verify_cases s call
  | take call => exact Worker.take_cases s call
  | importBlock call imported => exact Worker.importBlock_cases s call imported
  | clear call =>
      simp only [workerStep, Worker.clear]
      split
      · rename_i build hcall
        exact WorkerCase.finished call build hcall
      · exact WorkerCase.idle _

/-!
## The queue itself
-/

/-- The builds pushed and the builds taken since the queue was last cleared. -/
def sinceCleared (history : List (WorkerEvent Hash Changes)) :
    List (MiningBuild Hash Changes) × List (MiningBuild Hash Changes) :=
  history.foldl
    (fun acc event =>
      match event with
      | WorkerEvent.pushed build => (acc.1 ++ [build], acc.2)
      | WorkerEvent.cleared => ([], [])
      | WorkerEvent.taken build => (acc.1, acc.2 ++ [build])
      | WorkerEvent.handedOver _ _ => acc)
    ([], [])

omit [DecidableEq Hash] in
theorem sinceCleared_pushed (history : List (WorkerEvent Hash Changes))
    (build : MiningBuild Hash Changes) :
    sinceCleared (history ++ [WorkerEvent.pushed build]) =
      ((sinceCleared history).1 ++ [build], (sinceCleared history).2) := by
  simp [sinceCleared]

omit [DecidableEq Hash] in
theorem sinceCleared_cleared (history : List (WorkerEvent Hash Changes)) :
    sinceCleared (history ++ [WorkerEvent.cleared]) = ([], []) := by
  simp [sinceCleared]

omit [DecidableEq Hash] in
theorem sinceCleared_taken (history : List (WorkerEvent Hash Changes))
    (build : MiningBuild Hash Changes) :
    sinceCleared (history ++ [WorkerEvent.taken build]) =
      ((sinceCleared history).1, (sinceCleared history).2 ++ [build]) := by
  simp [sinceCleared]

omit [DecidableEq Hash] in
theorem sinceCleared_handedOver (history : List (WorkerEvent Hash Changes))
    (preHash : Hash) (block : MinedBlock Hash Changes) :
    sinceCleared (history ++ [WorkerEvent.handedOver preHash block]) =
      sinceCleared history := by
  simp [sinceCleared]

structure QueueSound (s : Worker Hash Changes) : Prop where
  head : forall build other, build ∈ s.builds -> other ∈ s.builds ->
    build.metadata.bestHash = other.metadata.bestHash
  cap : s.builds.length ≤ maxLiveTasks
  window : Window maxLiveTasks (sinceCleared s.history).1
    (sinceCleared s.history).2 s.builds
  queued : forall build, build ∈ s.builds ->
    WorkerEvent.pushed build ∈ s.history

omit [DecidableEq Hash] in
theorem new_queueSound : QueueSound (Worker.new : Worker Hash Changes) where
  head := by
    intro build other hmem
    cases hmem
  cap := Nat.zero_le _
  window := Window.empty maxLiveTasks
  queued := by
    intro build hmem
    cases hmem

omit [DecidableEq Hash] in
theorem QueueSound.bestHash_eq {s : Worker Hash Changes} (hs : QueueSound s)
    {build : MiningBuild Hash Changes} (hmem : build ∈ s.builds) :
    s.bestHash = some build.metadata.bestHash := by
  unfold Worker.bestHash
  cases hlast : s.builds.getLast? with
  | none =>
      rw [List.getLast?_eq_none_iff.mp hlast] at hmem
      cases hmem
  | some last =>
      exact congrArg some
        (hs.head last build (List.mem_of_getLast? hlast) hmem)

omit [DecidableEq Hash] in
theorem QueueSound.congr {s t : Worker Hash Changes} (hs : QueueSound s)
    (hbuilds : t.builds = s.builds) (hhistory : t.history = s.history) :
    QueueSound t where
  head := by
    rw [hbuilds]
    exact hs.head
  cap := by
    rw [hbuilds]
    exact hs.cap
  window := by
    rw [hbuilds, hhistory]
    exact hs.window
  queued := by
    rw [hbuilds, hhistory]
    exact hs.queued

omit [DecidableEq Hash] in
theorem cleared_queueSound {t : Worker Hash Changes}
    {history : List (WorkerEvent Hash Changes)} (hbuilds : t.builds = [])
    (hhistory : t.history = history ++ [WorkerEvent.cleared]) :
    QueueSound t where
  head := by
    intro build other hmem
    rw [hbuilds] at hmem
    cases hmem
  cap := by
    rw [hbuilds]
    exact Nat.zero_le _
  window := by
    rw [hbuilds, hhistory, sinceCleared_cleared]
    exact Window.empty maxLiveTasks
  queued := by
    intro build hmem
    rw [hbuilds] at hmem
    cases hmem

omit [DecidableEq Hash] in
theorem stacked_queueSound {s : Worker Hash Changes} (hs : QueueSound s)
    {value : MiningBuild Hash Changes}
    (hhead : forall build, build ∈ s.builds ->
      build.metadata.bestHash = value.metadata.bestHash) :
    QueueSound ({ s with
      builds := trim maxLiveTasks (s.builds ++ [value]) }.record
        [WorkerEvent.pushed value]) := by
  have hmember : forall build,
      build ∈ trim maxLiveTasks (s.builds ++ [value]) ->
        build ∈ s.builds ∨ build = value := by
    intro build hmem
    simpa using (trim_sublist maxLiveTasks (s.builds ++ [value])).subset hmem
  have hall : forall build, build ∈ trim maxLiveTasks (s.builds ++ [value]) ->
      build.metadata.bestHash = value.metadata.bestHash := by
    intro build hmem
    rcases hmember build hmem with hold | rfl
    · exact hhead build hold
    · rfl
  constructor
  · intro build other hbuild hother
    exact (hall build hbuild).trans (hall other hother).symm
  · exact length_trim_le maxLiveTasks _
  · show Window maxLiveTasks
      (sinceCleared (s.history ++ [WorkerEvent.pushed value])).1
      (sinceCleared (s.history ++ [WorkerEvent.pushed value])).2 _
    rw [sinceCleared_pushed]
    exact hs.window.push (by decide) hs.cap value
  · intro build hmem
    show _ ∈ s.history ++ [WorkerEvent.pushed value]
    rcases hmember build hmem with hold | rfl
    · exact List.mem_append_left _ (hs.queued build hold)
    · simp

omit [DecidableEq Hash] in
theorem workerStep_queueSound {s t : Worker Hash Changes}
    {label : WorkerLabel Hash Changes}
    (hcase : WorkerCase algorithm powEngineId s label t)
    (hs : QueueSound s) : QueueSound t := by
  cases hcase with
  | stacked value hhead =>
      apply stacked_queueSound hs
      intro build hmem
      rw [hs.bestHash_eq hmem] at hhead
      exact Option.some.inj hhead
  | restarted value hhead =>
      -- clearing comes first, then the push onto the empty queue
      have hcleared : QueueSound
          ({ s with builds := [] }.record [WorkerEvent.cleared]) :=
        cleared_queueSound rfl rfl
      have hnone : forall build : MiningBuild Hash Changes, build ∈ [] ->
          build.metadata.bestHash = value.metadata.bestHash := by
        intro build hmem
        cases hmem
      refine (stacked_queueSound hcleared hnone).congr ?_ ?_
      · exact (trim_singleton value).symm
      · simp [Worker.record]
  | syncing => exact cleared_queueSound rfl rfl
  | missed preHash rawSeal => exact hs.congr rfl rfl
  | found preHash rawSeal build hmem htask => exact hs.congr rfl rfl
  | verified call preHash rawSeal metadata hcall haccepted =>
      exact hs.congr rfl rfl
  | gaveUp label call before hcall hbefore => exact hs.congr rfl rfl
  | took call rawSeal build older newer hcall hsplit =>
      have hsub : forall other, other ∈ older ++ newer ->
          other ∈ s.builds := by
        intro other hmem
        rw [hsplit]
        rcases List.mem_append.mp hmem with hold | hnew
        · exact List.mem_append_left _ hold
        · exact List.mem_append_right _ (List.mem_cons_of_mem _ hnew)
      have hwindow := hs.window
      have hcap := hs.cap
      rw [hsplit] at hwindow hcap
      constructor
      · intro first second hfirst hsecond
        exact hs.head first second (hsub first hfirst) (hsub second hsecond)
      · show (older ++ newer).length ≤ maxLiveTasks
        rw [List.length_append, List.length_cons] at hcap
        rw [List.length_append]
        lia
      · show Window maxLiveTasks
          (sinceCleared (s.history ++ [WorkerEvent.taken build])).1
          (sinceCleared (s.history ++ [WorkerEvent.taken build])).2
          (older ++ newer)
        rw [sinceCleared_taken]
        exact hwindow.take
      · intro other hmem
        exact List.mem_append_left _ (hs.queued other (hsub other hmem))
  | handedOver call rawSeal build imported importing after hcall hafter =>
      refine ⟨hs.head, hs.cap, ?_, ?_⟩
      · show Window maxLiveTasks
          (sinceCleared (s.history ++ [WorkerEvent.handedOver _ _])).1
          (sinceCleared (s.history ++ [WorkerEvent.handedOver _ _])).2 s.builds
        rw [sinceCleared_handedOver]
        exact hs.window
      · intro other hmem
        exact List.mem_append_left _ (hs.queued other hmem)
  | finished call build hcall => exact cleared_queueSound rfl rfl
  | idle label => exact hs

/-!
## What reaches the import
-/

/-- The seal was accepted for some build pushed with the pre-hash. -/
def Vouched (algorithm : PowAlgorithm Hash)
    (history : List (WorkerEvent Hash Changes)) (preHash : Hash)
    (rawSeal : Seal) : Prop :=
  exists build, WorkerEvent.pushed build ∈ history ∧
    build.metadata.preHash = preHash ∧ Accepts algorithm build.metadata rawSeal

def CallSound (algorithm : PowAlgorithm Hash)
    (history : List (WorkerEvent Hash Changes)) : Call Hash Changes -> Prop
  | Call.found preHash _ metadata =>
      exists build, WorkerEvent.pushed build ∈ history ∧
        build.metadata = metadata ∧ metadata.preHash = preHash
  | Call.verified preHash rawSeal =>
      Vouched algorithm history preHash rawSeal
  | Call.taken rawSeal build =>
      WorkerEvent.pushed build ∈ history ∧
        Vouched algorithm history build.metadata.preHash rawSeal
  | Call.landed _ => True
  | Call.returned _ => True

omit [DecidableEq Hash] in
theorem Vouched.mono {history later : List (WorkerEvent Hash Changes)}
    {preHash : Hash} {rawSeal : Seal}
    (h : Vouched algorithm history preHash rawSeal) :
    Vouched algorithm (history ++ later) preHash rawSeal := by
  rcases h with ⟨build, hpushed, htask, haccepted⟩
  exact ⟨build, List.mem_append_left _ hpushed, htask, haccepted⟩

omit [DecidableEq Hash] in
theorem CallSound.mono {history later : List (WorkerEvent Hash Changes)}
    {call : Call Hash Changes} (h : CallSound algorithm history call) :
    CallSound algorithm (history ++ later) call := by
  cases call with
  | found preHash rawSeal metadata =>
      rcases h with ⟨build, hpushed, hmetadata⟩
      exact ⟨build, List.mem_append_left _ hpushed, hmetadata⟩
  | verified preHash rawSeal => exact Vouched.mono h
  | taken rawSeal build =>
      exact ⟨List.mem_append_left _ h.left, h.right.mono⟩
  | landed build => exact True.intro
  | returned result => exact True.intro

/-- Every block that reaches `import_block` is the proposal of a build pushed
before, with a seal accepted before for a build of that pre-hash. -/
def HandoversSound (algorithm : PowAlgorithm Hash)
    (powEngineId : ConsensusEngineId)
    (history : List (WorkerEvent Hash Changes)) : Prop :=
  forall before preHash block,
    before ++ [WorkerEvent.handedOver preHash block] <+: history ->
      exists build rawSeal, WorkerEvent.pushed build ∈ before ∧
        build.metadata.preHash = preHash ∧
        block = minedBlock powEngineId build rawSeal ∧
        Vouched algorithm before preHash rawSeal

omit [DecidableEq Hash] in
theorem HandoversSound.append
    {history : List (WorkerEvent Hash Changes)}
    (h : HandoversSound algorithm powEngineId history)
    {event : WorkerEvent Hash Changes}
    (hevent : forall preHash block,
      event = WorkerEvent.handedOver preHash block ->
        exists build rawSeal, WorkerEvent.pushed build ∈ history ∧
          build.metadata.preHash = preHash ∧
          block = minedBlock powEngineId build rawSeal ∧
          Vouched algorithm history preHash rawSeal) :
    HandoversSound algorithm powEngineId (history ++ [event]) := by
  intro before preHash block hbefore
  rcases List.prefix_concat_iff.mp hbefore with hlast | hearlier
  · rcases List.append_inj' hlast rfl with ⟨rfl, hsame⟩
    exact hevent preHash block (List.singleton_inj.mp hsame).symm
  · exact h before preHash block hearlier

structure ImportsSound (algorithm : PowAlgorithm Hash)
    (powEngineId : ConsensusEngineId) (s : Worker Hash Changes) : Prop where
  calls : forall call, call ∈ s.calls -> CallSound algorithm s.history call
  handovers : HandoversSound algorithm powEngineId s.history

omit [DecidableEq Hash] in
theorem new_importsSound : ImportsSound algorithm powEngineId
    (Worker.new : Worker Hash Changes) where
  calls := by
    intro call hmem
    cases hmem
  handovers := by
    intro before preHash block hbefore
    have hnil := List.prefix_nil.mp hbefore
    simp at hnil

omit [DecidableEq Hash] in
theorem ImportsSound.step {s t : Worker Hash Changes}
    (hs : ImportsSound algorithm powEngineId s)
    {event : WorkerEvent Hash Changes}
    (hhistory : t.history = s.history ++ [event])
    (hcalls : forall call, call ∈ t.calls ->
      call ∈ s.calls ∨ CallSound algorithm s.history call)
    (hevent : forall preHash block,
      event = WorkerEvent.handedOver preHash block ->
        exists build rawSeal, WorkerEvent.pushed build ∈ s.history ∧
          build.metadata.preHash = preHash ∧
          block = minedBlock powEngineId build rawSeal ∧
          Vouched algorithm s.history preHash rawSeal) :
    ImportsSound algorithm powEngineId t where
  calls := by
    intro call hmem
    rw [hhistory]
    rcases hcalls call hmem with hold | hnew
    · exact (hs.calls call hold).mono
    · exact hnew.mono
  handovers := by
    rw [hhistory]
    exact hs.handovers.append hevent

omit [DecidableEq Hash] in
theorem ImportsSound.calls_step {s t : Worker Hash Changes}
    (hs : ImportsSound algorithm powEngineId s)
    (hhistory : t.history = s.history)
    (hcalls : forall call, call ∈ t.calls ->
      call ∈ s.calls ∨ CallSound algorithm s.history call) :
    ImportsSound algorithm powEngineId t where
  calls := by
    intro call hmem
    rw [hhistory]
    rcases hcalls call hmem with hold | hnew
    · exact hs.calls call hold
    · exact hnew
  handovers := by
    rw [hhistory]
    exact hs.handovers

omit [DecidableEq Hash] in
theorem workerStep_importsSound {s t : Worker Hash Changes}
    {label : WorkerLabel Hash Changes}
    (hcase : WorkerCase algorithm powEngineId s label t)
    (hqueue : QueueSound s) (hs : ImportsSound algorithm powEngineId s) :
    ImportsSound algorithm powEngineId t := by
  have hset : forall (i : Nat) (call : Call Hash Changes),
      CallSound algorithm s.history call ->
        forall other, other ∈ s.calls.set i call ->
          other ∈ s.calls ∨ CallSound algorithm s.history other := by
    intro i call hcall other hmem
    rcases List.mem_or_eq_of_mem_set hmem with hold | rfl
    · exact Or.inl hold
    · exact Or.inr hcall
  cases hcase with
  | stacked value hhead =>
      exact hs.step rfl (fun _ => Or.inl) (by simp)
  | restarted value hhead =>
      have hcleared : ImportsSound algorithm powEngineId
          ({ s with builds := [] }.record [WorkerEvent.cleared]) :=
        hs.step rfl (fun _ => Or.inl) (by simp)
      have hhistory : ({ s with builds := [value] }.record
          [WorkerEvent.cleared, WorkerEvent.pushed value]).history =
            ({ s with builds := [] }.record [WorkerEvent.cleared]).history ++
              [WorkerEvent.pushed value] := by
        simp [Worker.record]
      exact hcleared.step hhistory (fun _ => Or.inl) (by simp)
  | syncing => exact hs.step rfl (fun _ => Or.inl) (by simp)
  | missed preHash rawSeal =>
      refine hs.calls_step rfl ?_
      intro call hmem
      rcases List.mem_append.mp hmem with hold | hnew
      · exact Or.inl hold
      · rw [List.mem_singleton.mp hnew]
        exact Or.inr True.intro
  | found preHash rawSeal build hmem htask =>
      refine hs.calls_step rfl ?_
      intro call hcall
      rcases List.mem_append.mp hcall with hold | hnew
      · exact Or.inl hold
      · rw [List.mem_singleton.mp hnew]
        exact Or.inr ⟨build, hqueue.queued build hmem, rfl, htask⟩
  | verified call preHash rawSeal metadata hcall haccepted =>
      refine hs.calls_step rfl (hset call _ ?_)
      rcases hs.calls _ (List.mem_of_getElem? hcall) with
        ⟨build, hpushed, rfl, htask⟩
      exact ⟨build, hpushed, htask, haccepted⟩
  | gaveUp label call before hcall hbefore =>
      exact hs.calls_step rfl (hset call _ True.intro)
  | took call rawSeal build older newer hcall hsplit =>
      refine hs.step rfl (hset call _ ?_) (by simp)
      have hmem : build ∈ s.builds := by
        rw [hsplit]
        simp
      exact ⟨hqueue.queued build hmem, hs.calls _ (List.mem_of_getElem? hcall)⟩
  | handedOver call rawSeal build imported importing after hcall hafter =>
      have htaken := hs.calls _ (List.mem_of_getElem? hcall)
      refine hs.step rfl (hset call _ ?_) ?_
      · rcases hafter with rfl | rfl
        · exact True.intro
        · exact True.intro
      · intro preHash block hevent
        cases hevent
        exact ⟨build, rawSeal, htaken.left, rfl, rfl, htaken.right⟩
  | finished call build hcall =>
      exact hs.step rfl (hset call _ True.intro) (by simp)
  | idle label => exact hs

/-!
## How often a task is imported
-/

def WorkerEvent.isPushOf (preHash : Hash) : WorkerEvent Hash Changes -> Bool
  | WorkerEvent.pushed build => Worker.isTask preHash build
  | _ => false

def WorkerEvent.isHandoverOf (preHash : Hash) :
    WorkerEvent Hash Changes -> Bool
  | WorkerEvent.handedOver handed _ => decide (handed = preHash)
  | _ => false

/-- Whether a call has taken a build of the pre-hash and not yet handed it
over. -/
def Call.holdsTask (preHash : Hash) : Call Hash Changes -> Bool
  | Call.taken _ build => Worker.isTask preHash build
  | _ => false

/-- Every push pays for one import: the builds handed over, held by a call and
still queued never outnumber the builds pushed. -/
def ImportsPaidFor (s : Worker Hash Changes) : Prop :=
  forall preHash,
    s.history.countP (WorkerEvent.isHandoverOf preHash) +
        s.calls.countP (Call.holdsTask preHash) +
        s.builds.countP (Worker.isTask preHash) ≤
      s.history.countP (WorkerEvent.isPushOf preHash)

theorem ImportsPaidFor.step {s t : Worker Hash Changes}
    (hs : ImportsPaidFor s) {events : List (WorkerEvent Hash Changes)}
    (hhistory : t.history = s.history ++ events)
    (hbalance : forall preHash,
      events.countP (WorkerEvent.isHandoverOf preHash) +
          t.calls.countP (Call.holdsTask preHash) +
          t.builds.countP (Worker.isTask preHash) ≤
        s.calls.countP (Call.holdsTask preHash) +
          s.builds.countP (Worker.isTask preHash) +
          events.countP (WorkerEvent.isPushOf preHash)) :
    ImportsPaidFor t := by
  intro preHash
  have hpaid := hs preHash
  have hstep := hbalance preHash
  rw [hhistory, List.countP_append, List.countP_append]
  lia

theorem workerStep_importsPaidFor {s t : Worker Hash Changes}
    {label : WorkerLabel Hash Changes}
    (hcase : WorkerCase algorithm powEngineId s label t)
    (hs : ImportsPaidFor s) : ImportsPaidFor t := by
  cases hcase with
  | stacked value hhead =>
      refine hs.step rfl ?_
      intro preHash
      have htrim : (trim maxLiveTasks (s.builds ++ [value])).countP
          (Worker.isTask preHash) ≤
            (s.builds ++ [value]).countP (Worker.isTask preHash) :=
        (trim_sublist maxLiveTasks (s.builds ++ [value])).countP_le
      rw [List.countP_append] at htrim
      show 0 + s.calls.countP (Call.holdsTask preHash) + _ ≤
        _ + _ + [value].countP (Worker.isTask preHash)
      simp only [Worker.record]
      lia
  | restarted value hhead =>
      refine hs.step rfl ?_
      intro preHash
      show 0 + s.calls.countP (Call.holdsTask preHash) +
          [value].countP (Worker.isTask preHash) ≤
        _ + _ + [value].countP (Worker.isTask preHash)
      lia
  | syncing =>
      refine hs.step rfl ?_
      intro preHash
      show 0 + s.calls.countP (Call.holdsTask preHash) + 0 ≤ _ + _ + 0
      lia
  | missed _ rawSeal =>
      refine hs.step (List.append_nil _).symm ?_
      intro preHash
      simp [Call.holdsTask]
  | found _ rawSeal build hmem htask =>
      refine hs.step (List.append_nil _).symm ?_
      intro preHash
      simp [Call.holdsTask]
  | verified call handed rawSeal metadata hcall haccepted =>
      refine hs.step (List.append_nil _).symm ?_
      intro preHash
      have hset := countP_set_add (Call.holdsTask preHash)
        (Call.verified handed rawSeal) hcall
      simp [Call.holdsTask, Worker.setCall] at hset ⊢
      lia
  | gaveUp label call before hcall hbefore =>
      refine hs.step (List.append_nil _).symm ?_
      intro preHash
      have hset := countP_set_add (Call.holdsTask preHash)
        (Call.returned false) hcall
      simp [Call.holdsTask, Worker.setCall] at hset ⊢
      lia
  | took call rawSeal build older newer hcall hsplit =>
      refine hs.step rfl ?_
      intro preHash
      have hset := countP_set_add (Call.holdsTask preHash)
        (Call.taken rawSeal build) hcall
      simp [Call.holdsTask, Worker.setCall, Worker.record, hsplit,
        List.countP_cons, WorkerEvent.isHandoverOf, WorkerEvent.isPushOf]
        at hset ⊢
      lia
  | handedOver call rawSeal build imported importing after hcall hafter =>
      refine hs.step rfl ?_
      intro preHash
      have hset := countP_set_add (Call.holdsTask preHash) after hcall
      rcases hafter with rfl | rfl <;>
      · simp [Call.holdsTask, Worker.setCall, Worker.record, Worker.isTask,
          List.countP_cons, WorkerEvent.isHandoverOf, WorkerEvent.isPushOf]
          at hset ⊢
        lia
  | finished call build hcall =>
      refine hs.step rfl ?_
      intro preHash
      have hset := countP_set_add (Call.holdsTask preHash)
        (Call.returned true) hcall
      simp [Call.holdsTask, Worker.setCall, Worker.record,
        WorkerEvent.isHandoverOf, WorkerEvent.isPushOf] at hset ⊢
      lia
  | idle label => exact hs

/-!
## Every interleaving
-/

theorem WorkerReachedBy.queueSound
    {labels : List (WorkerLabel Hash Changes)} {s : Worker Hash Changes}
    (h : WorkerReachedBy algorithm powEngineId labels s) : QueueSound s :=
  Run.preserves QueueSound
    (fun s label _ => workerStep_queueSound
      (workerStep_cases s label : WorkerCase algorithm powEngineId s label _))
    h new_queueSound

theorem WorkerReachedBy.importsSound
    {labels : List (WorkerLabel Hash Changes)} {s : Worker Hash Changes}
    (h : WorkerReachedBy algorithm powEngineId labels s) :
    ImportsSound algorithm powEngineId s := by
  have hboth := Run.preserves
    (fun s => QueueSound s ∧ ImportsSound algorithm powEngineId s)
    (fun s label _ hs =>
      ⟨workerStep_queueSound (workerStep_cases s label) hs.left,
        workerStep_importsSound (workerStep_cases s label) hs.left hs.right⟩)
    h ⟨new_queueSound, new_importsSound⟩
  exact hboth.right

theorem WorkerReachedBy.importsPaidFor
    {labels : List (WorkerLabel Hash Changes)} {s : Worker Hash Changes}
    (h : WorkerReachedBy algorithm powEngineId labels s) : ImportsPaidFor s :=
  Run.preserves ImportsPaidFor
    (fun s label _ => workerStep_importsPaidFor
      (workerStep_cases s label : WorkerCase algorithm powEngineId s label _))
    h (fun _ => Nat.le_refl 0)

/-- After every prefix of every interleaving: the queued builds share one head,
they are at most `MAX_LIVE_TASKS`, and they are the most recent ones pushed since
the queue was last cleared, in push order, less the taken ones.  Every block
handed to `import_block` is the proposal of a build pushed before, and if equal
pre-hashes mean equal builds, its seal was accepted for that very build.  No
pre-hash is imported more often than it was pushed. -/
theorem no_unverified_or_duplicate_import
    {labels : List (WorkerLabel Hash Changes)} {s : Worker Hash Changes}
    (hs : WorkerReachedBy algorithm powEngineId labels s) :
    (forall build other, build ∈ s.builds -> other ∈ s.builds ->
      build.metadata.bestHash = other.metadata.bestHash) ∧
    s.builds.length ≤ maxLiveTasks ∧
    Window maxLiveTasks (sinceCleared s.history).1
      (sinceCleared s.history).2 s.builds ∧
    ((forall build other, WorkerEvent.pushed build ∈ s.history ->
        WorkerEvent.pushed other ∈ s.history ->
        build.metadata.preHash = other.metadata.preHash -> build = other) ->
      forall before preHash block,
        before ++ [WorkerEvent.handedOver preHash block] <+: s.history ->
          exists build rawSeal, WorkerEvent.pushed build ∈ before ∧
            build.metadata.preHash = preHash ∧
            block = minedBlock powEngineId build rawSeal ∧
            Accepts algorithm build.metadata rawSeal) ∧
    (forall preHash,
      s.history.countP (WorkerEvent.isHandoverOf preHash) ≤
        s.history.countP (WorkerEvent.isPushOf preHash)) := by
  have hqueue := hs.queueSound
  refine ⟨hqueue.head, hqueue.cap, hqueue.window, ?_, ?_⟩
  · intro hsame before preHash block hbefore
    rcases hs.importsSound.handovers before preHash block hbefore with
      ⟨build, rawSeal, hpushed, htask, hblock, other, hother, htask',
        haccepted⟩
    have hsubset : before ⊆ s.history :=
      fun _ hmem => hbefore.subset (List.mem_append_left _ hmem)
    have heq : build = other :=
      hsame build other (hsubset hpushed) (hsubset hother)
        (htask.trans htask'.symm)
    rw [← heq] at haccepted
    exact ⟨build, rawSeal, hpushed, htask, hblock, haccepted⟩
  · intro preHash
    have hpaid := hs.importsPaidFor preHash
    lia

/-!
## A small instance

Numbers for hashes, and an algorithm that accepts every seal.
-/

def acceptAll : PowAlgorithm Nat :=
  { difficulty := fun _ _ => Except.ok 0
    breakTie := defaultBreakTie
    verify := fun _ _ _ _ _ => Except.ok true }

def mockEngineId : ConsensusEngineId :=
  Vector.replicate 4 112

/-- Task `task` on top of `head`. -/
def mockBuild (head task : Nat) : MiningBuild Nat Unit :=
  { metadata :=
      { bestHash := head, preHash := task, preRuntime := none, difficulty := 0 }
    proposal :=
      { header := { parentHash := head, number := 1, logs := [] }
        body := []
        storageChanges := () } }

def mockStep : Worker Nat Unit -> WorkerLabel Nat Unit -> Worker Nat Unit :=
  workerStep acceptAll mockEngineId

/-- Two submits look up, verify and try to take the same task. -/
def racingSubmits : List (WorkerLabel Nat Unit) :=
  [WorkerLabel.onBuild (mockBuild 1 7), WorkerLabel.submit 7 [1],
    WorkerLabel.submit 7 [2], WorkerLabel.verify 0, WorkerLabel.verify 1,
    WorkerLabel.take 1, WorkerLabel.take 0, WorkerLabel.importBlock 1 true]

/-- Both seals verify, one of the submits imports, and it imports the task it
verified. -/
theorem one_of_two_racing_submits_imports :
    let raced := racingSubmits.foldl mockStep Worker.new
    raced.history.countP (WorkerEvent.isHandoverOf 7) = 1 ∧
      raced.builds.length ≤ maxLiveTasks ∧
      exists build rawSeal, build.metadata.preHash = 7 ∧
        raced.history.getLast? = some (WorkerEvent.handedOver 7
          (minedBlock mockEngineId build rawSeal)) ∧
        Accepts acceptAll build.metadata rawSeal := by
  intro raced
  have hreached : WorkerReachedBy acceptAll mockEngineId racingSubmits raced :=
    Run.cons True.intro (Run.cons True.intro (Run.cons True.intro
      (Run.cons True.intro (Run.cons True.intro (Run.cons True.intro
        (Run.cons True.intro (Run.single rfl)))))))
  have hsound := no_unverified_or_duplicate_import hreached
  have hpushes : raced.history.countP (WorkerEvent.isPushOf 7) = 1 := rfl
  have hhandovers : 0 < raced.history.countP (WorkerEvent.isHandoverOf 7) := by
    decide
  have hcount := hsound.right.right.right.right 7
  refine ⟨by lia, hsound.right.left, ?_⟩
  have hhistory : raced.history =
      [WorkerEvent.cleared, WorkerEvent.pushed (mockBuild 1 7),
        WorkerEvent.taken (mockBuild 1 7)] ++
        [WorkerEvent.handedOver 7
          (minedBlock mockEngineId (mockBuild 1 7) [2])] := rfl
  have honly : forall build other, WorkerEvent.pushed build ∈ raced.history ->
      WorkerEvent.pushed other ∈ raced.history ->
      build.metadata.preHash = other.metadata.preHash -> build = other := by
    intro build other hbuild hother _
    rw [hhistory] at hbuild hother
    simp at hbuild hother
    rw [hbuild, hother]
  have hprefix : [WorkerEvent.cleared, WorkerEvent.pushed (mockBuild 1 7),
        WorkerEvent.taken (mockBuild 1 7)] ++ [WorkerEvent.handedOver 7
          (minedBlock mockEngineId (mockBuild 1 7) [2])] <+: raced.history :=
    List.prefix_rfl
  rcases hsound.right.right.right.left honly _ 7 _ hprefix with
    ⟨build, rawSeal, _, htask, hblock, haccepted⟩
  refine ⟨build, rawSeal, htask, ?_, haccepted⟩
  rw [← hblock]
  rfl

end Pow
end Numen
