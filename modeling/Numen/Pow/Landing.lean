import Numen.Pow.Queue

/-!
# What a landed block discards

After a successful import `submit` clears the queue, to drop the builds for the
head its block has just made stale.  By then the worker may already have pushed
the first build of the new head.  The clearing step does not look at heads, so
it discards that build as well.
-/

namespace Numen
namespace Pow

open Foundation

variable {Hash Changes : Type} [DecidableEq Hash]
variable {algorithm : PowAlgorithm Hash} {powEngineId : ConsensusEngineId}

def OnHead (head : Hash) (s : Worker Hash Changes) : Prop :=
  forall build, build ∈ s.builds -> build.metadata.bestHash = head

omit [DecidableEq Hash] in
theorem QueueSound.onHead_iff {s : Worker Hash Changes} (hs : QueueSound s)
    (head : Hash) :
    OnHead head s <-> s.bestHash = none ∨ s.bestHash = some head := by
  constructor
  · intro honHead
    cases hlast : s.builds.getLast? with
    | none =>
        refine Or.inl ?_
        rw [Worker.bestHash, hlast]
        rfl
    | some last =>
        have hmem := List.mem_of_getLast? hlast
        rw [hs.bestHash_eq hmem, honHead last hmem]
        exact Or.inr rfl
  · intro hhead build hmem
    rw [hs.bestHash_eq hmem] at hhead
    rcases hhead with hnone | hsome
    · cases hnone
    · exact Option.some.inj hsome

def WorkerLabel.KeepsHead (head : Hash) : WorkerLabel Hash Changes -> Prop
  | WorkerLabel.onBuild value => value.metadata.bestHash = head
  | _ => True

omit [DecidableEq Hash] in
theorem workerStep_onHead {s t : Worker Hash Changes}
    {label : WorkerLabel Hash Changes} {head : Hash}
    (hcase : WorkerCase algorithm powEngineId s label t)
    (hlabel : label.KeepsHead head) (hs : OnHead head s) : OnHead head t := by
  cases hcase with
  | stacked value hhead =>
      intro build hmem
      have hmem' := (trim_sublist maxLiveTasks (s.builds ++ [value])).subset hmem
      rcases List.mem_append.mp hmem' with hold | hnew
      · exact hs build hold
      · rw [List.mem_singleton.mp hnew]
        exact hlabel
  | restarted value hhead =>
      intro build hmem
      rw [List.mem_singleton.mp hmem]
      exact hlabel
  | syncing =>
      intro build hmem
      cases hmem
  | missed preHash rawSeal => exact hs
  | found preHash rawSeal build hmem htask => exact hs
  | verified call preHash rawSeal metadata hcall haccepted => exact hs
  | gaveUp label call before hcall hbefore => exact hs
  | took call rawSeal build older newer hcall hsplit =>
      intro other hmem
      apply hs other
      rw [hsplit]
      rcases List.mem_append.mp hmem with hold | hnew
      · exact List.mem_append_left _ hold
      · exact List.mem_append_right _ (List.mem_cons_of_mem _ hnew)
  | handedOver call rawSeal build imported importing after hcall hafter =>
      exact hs
  | finished call build hcall =>
      intro build hmem
      cases hmem
  | idle label => exact hs

/-- Taking a build proves that the whole queue is for its head, and nothing but
an `on_build` for another head changes that. -/
theorem run_onHead {s t : Worker Hash Changes} {head : Hash}
    {labels : List (WorkerLabel Hash Changes)}
    (hrun : Run (fun s label => WorkerAllowed s label ∧ label.KeepsHead head)
      (workerStep algorithm powEngineId) s labels t) (hs : OnHead head s) :
    OnHead head t :=
  hrun.preserves (OnHead head)
    (fun s label hlabel => workerStep_onHead
      (workerStep_cases s label : WorkerCase algorithm powEngineId s label _)
      hlabel.right) hs

theorem clear_builds {s : Worker Hash Changes} {call : Nat}
    {build : MiningBuild Hash Changes}
    (hlanded : s.calls[call]? = some (Call.landed build)) :
    (workerStep algorithm powEngineId s (WorkerLabel.clear call)).builds =
      [] := by
  simp only [workerStep, Worker.clear, hlanded]
  rfl

/-- The clearing step of a landed block on head `H` removes builds for `H` only,
exactly when the worker still reports `H` or no head at all at that moment.  No
`on_build` for another head between the taking of the build and the clearing
step is enough for that. -/
theorem landed_block_discards_own_head_iff
    {labels : List (WorkerLabel Hash Changes)} {s : Worker Hash Changes}
    (hs : WorkerReachedBy algorithm powEngineId labels s) :
    (forall call build, s.calls[call]? = some (Call.landed build) ->
      ((forall removed, removed ∈ s.builds ->
          removed ∉ (workerStep algorithm powEngineId s
            (WorkerLabel.clear call)).builds ->
          removed.metadata.bestHash = build.metadata.bestHash) <->
        s.bestHash = none ∨ s.bestHash = some build.metadata.bestHash)) ∧
    (forall build between t, build ∈ s.builds ->
      Run (fun u label => WorkerAllowed u label ∧
          label.KeepsHead build.metadata.bestHash)
        (workerStep algorithm powEngineId) s between t ->
      t.bestHash = none ∨ t.bestHash = some build.metadata.bestHash) := by
  have hqueue := hs.queueSound
  constructor
  · intro call build hlanded
    rw [← hqueue.onHead_iff, clear_builds hlanded]
    constructor
    · intro hremoved other hmem
      exact hremoved other hmem (by simp)
    · intro honHead removed hmem _
      exact honHead removed hmem
  · intro build between t hmem hrun
    have hstart : OnHead build.metadata.bestHash s :=
      fun other hother => hqueue.head other build hother hmem
    have hend := run_onHead hrun hstart
    have hrun' : Run WorkerAllowed (workerStep algorithm powEngineId) s
        between t := hrun.mono (fun _ _ h => h.left)
    have ht : WorkerReachedBy algorithm powEngineId (labels ++ between) t :=
      Run.append hs hrun'
    exact (ht.queueSound.onHead_iff _).mp hend

/-- A submit on head 1 has landed while the worker was still on head 1: the
second task of head 1 goes, and nothing else. -/
theorem landed_block_discards_its_sibling :
    let landed := [WorkerLabel.onBuild (mockBuild 1 7),
      WorkerLabel.onBuild (mockBuild 1 8), WorkerLabel.submit 7 [1],
      WorkerLabel.verify 0, WorkerLabel.take 0,
      WorkerLabel.importBlock 0 true].foldl mockStep Worker.new
    landed.builds.length = 1 ∧
      forall removed, removed ∈ landed.builds ->
        removed ∉ (mockStep landed (WorkerLabel.clear 0)).builds ->
        removed.metadata.bestHash = 1 := by
  intro landed
  have hreached : WorkerReachedBy acceptAll mockEngineId
      [WorkerLabel.onBuild (mockBuild 1 7),
        WorkerLabel.onBuild (mockBuild 1 8), WorkerLabel.submit 7 [1],
        WorkerLabel.verify 0, WorkerLabel.take 0,
        WorkerLabel.importBlock 0 true] landed :=
    Run.cons True.intro (Run.cons True.intro (Run.cons True.intro
      (Run.cons True.intro (Run.cons True.intro (Run.single rfl)))))
  refine ⟨rfl, ?_⟩
  exact ((landed_block_discards_own_head_iff hreached).left 0 (mockBuild 1 7)
    rfl).mpr (Or.inr rfl)

/-- The submit of task 7 on head 1 lands, the worker pushes task 9 of the new
head 2, and only then does the submit clear the queue. -/
def newHeadBeforeClear : List (WorkerLabel Nat Unit) :=
  [WorkerLabel.onBuild (mockBuild 1 7), WorkerLabel.submit 7 [1],
    WorkerLabel.verify 0, WorkerLabel.take 0, WorkerLabel.importBlock 0 true,
    WorkerLabel.onBuild (mockBuild 2 9)]

/-- The clearing step of the block that landed on head 1 removes the only build
of head 2. -/
theorem landed_block_discards_the_new_head :
    let s := newHeadBeforeClear.foldl mockStep Worker.new
    WorkerReachedBy acceptAll mockEngineId newHeadBeforeClear s ∧
      s.calls[0]? = some (Call.landed (mockBuild 1 7)) ∧
      s.builds = [mockBuild 2 9] ∧
      (mockStep s (WorkerLabel.clear 0)).builds = [] ∧
      (mockBuild 2 9).metadata.bestHash ≠
        (mockBuild 1 7).metadata.bestHash := by
  intro s
  refine ⟨?_, rfl, rfl, rfl, by decide⟩
  exact Run.cons True.intro (Run.cons True.intro (Run.cons True.intro
    (Run.cons True.intro (Run.cons rfl (Run.single True.intro)))))

end Pow
end Numen
