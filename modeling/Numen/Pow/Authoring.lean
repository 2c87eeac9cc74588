import Numen.Pow.Heaviest
import Numen.Pow.Queue

/-!
# From the authoring loop to every node

The loop of `start_mining_worker` fills the queue of the mining worker.  A block
mined from one of its tasks is imported by the node that mined it, and by every
other node through `PowVerifier`, which takes the seal off the header again.
Both find the difficulty the task was built for, and the seal good for it.
-/

namespace Numen
namespace Pow

open Foundation

variable {Hash Changes : Type}

/-!
## The authoring loop
-/

/-- Identifiers with the data providers put under them. -/
abbrev InherentData : Type :=
  List (List UInt8 × List UInt8)

abbrev Proposer (Hash Changes : Type) : Type :=
  InherentData -> List DigestItem -> Option (Proposal Hash Changes)

/-- What the loop is told in one round.  A step that answers `none` has failed,
and ends the round. -/
structure RoundAnswers (Hash Changes : Type) where
  isMajorSyncing : Bool
  bestChain : Option (Header Hash)
  createInherentDataProviders : Hash -> Option Unit
  createInherentData : Hash -> Option InherentData
  init : Header Hash -> Option (Proposer Hash Changes)

def inherentDigests (node : Node Hash) :
    Option (List UInt8) -> List DigestItem
  | some preRuntime => [DigestItem.preRuntime node.powEngineId preRuntime]
  | none => []

/-- A round that is not skipped: propose a block on the best one and look up
the difficulty its own timestamp calls for. -/
def buildTask (node : Node Hash) (preRuntime : Option (List UInt8))
    (answers : RoundAnswers Hash Changes) :
    Option (MiningBuild Hash Changes) := do
  let bestHeader <- answers.bestChain
  let bestHash := node.hash bestHeader
  answers.createInherentDataProviders bestHash
  let inherentData <- answers.createInherentData bestHash
  let proposer <- answers.init bestHeader
  let proposal <- proposer inherentData (inherentDigests node preRuntime)
  let timestampInherent <- proposal.body.head?
  let difficulty <- (node.algorithm.difficulty bestHash
    timestampInherent).toOption
  return { metadata :=
            { bestHash := bestHash
              preHash := node.hash proposal.header
              preRuntime := preRuntime
              difficulty := difficulty }
           proposal := proposal }

/-- One round of the loop, and what it does to the worker. -/
def authoringRound (node : Node Hash) (preRuntime : Option (List UInt8))
    (answers : RoundAnswers Hash Changes) :
    Option (WorkerLabel Hash Changes) :=
  if answers.isMajorSyncing then some WorkerLabel.onMajorSyncing
  else (buildTask node preRuntime answers).map WorkerLabel.onBuild

/-- The block builder puts the header on top of its parent and the runtime's
logs behind the inherent digests.  None of those is a pre-runtime digest of the
engine. -/
structure Proposes (node : Node Hash) (above : Header Hash)
    (digests : List DigestItem) (header : Header Hash) : Prop where
  parentHash_eq : header.parentHash = node.hash above
  logs_eq : exists added, header.logs = digests ++ added ∧
    forall data, DigestItem.preRuntime node.powEngineId data ∉ added

def RoundAnswers.Lawful (node : Node Hash)
    (answers : RoundAnswers Hash Changes) : Prop :=
  forall above proposer data digests proposal,
    answers.init above = some proposer ->
    proposer data digests = some proposal ->
      Proposes node above digests proposal.header

def Authored (node : Node Hash) (preRuntime : Option (List UInt8)) :
    WorkerLabel Hash Changes -> Prop
  | WorkerLabel.onBuild value =>
      exists answers : RoundAnswers Hash Changes, answers.Lawful node ∧
        authoringRound node preRuntime answers =
          some (WorkerLabel.onBuild value)
  | WorkerLabel.onMajorSyncing =>
      exists answers : RoundAnswers Hash Changes,
        authoringRound node preRuntime answers =
          some WorkerLabel.onMajorSyncing
  | _ => True

section Reached

variable [DecidableEq Hash]

/-- The worker of a node that authors with the pre-runtime digest, among any
interleaving of submits. -/
def AuthoringReachedBy (node : Node Hash) (preRuntime : Option (List UInt8))
    (labels : List (WorkerLabel Hash Changes)) (s : Worker Hash Changes) :
    Prop :=
  Run (fun s label => WorkerAllowed s label ∧ Authored node preRuntime label)
    (workerStep node.algorithm node.powEngineId) Worker.new labels s

theorem AuthoringReachedBy.workerReachedBy {node : Node Hash}
    {preRuntime : Option (List UInt8)}
    {labels : List (WorkerLabel Hash Changes)} {s : Worker Hash Changes}
    (h : AuthoringReachedBy node preRuntime labels s) :
    WorkerReachedBy node.algorithm node.powEngineId labels s :=
  Run.mono (fun _ _ hallowed => hallowed.left) h

end Reached

/-!
## What the loop builds
-/

/-- The task is about its own proposal: the parent, the pre-hash, the digest
and the difficulty all belong to the block. -/
structure WellBuilt (node : Node Hash) (preRuntime : Option (List UInt8))
    (build : MiningBuild Hash Changes) : Prop where
  proposes : exists above, build.metadata.bestHash = node.hash above ∧
    Proposes node above (inherentDigests node preRuntime)
      build.proposal.header
  preHash_eq : build.metadata.preHash = node.hash build.proposal.header
  preRuntime_eq : build.metadata.preRuntime = preRuntime
  difficulty_eq : exists first rest, build.proposal.body = first :: rest ∧
    node.algorithm.difficulty build.metadata.bestHash first =
      Except.ok build.metadata.difficulty

theorem wellBuilt_of_buildTask {node : Node Hash}
    {preRuntime : Option (List UInt8)} {answers : RoundAnswers Hash Changes}
    (hlawful : answers.Lawful node) {build : MiningBuild Hash Changes}
    (h : buildTask node preRuntime answers = some build) :
    WellBuilt node preRuntime build := by
  unfold buildTask at h
  simp only [Option.bind_eq_bind, Option.bind_eq_some_iff] at h
  rcases h with ⟨above, _, _, _, data, _, proposer, hinit, proposal, hpropose,
    first, hfirst, difficulty, hdifficulty, hbuild⟩
  cases hbuild
  refine ⟨⟨above, rfl, hlawful above proposer data _ proposal hinit hpropose⟩,
    rfl, rfl, ?_⟩
  rcases List.head?_eq_some_iff.mp hfirst with ⟨rest, hbody⟩
  refine ⟨first, rest, hbody, ?_⟩
  cases hanswer : node.algorithm.difficulty (node.hash above) first with
  | error error =>
      rw [hanswer] at hdifficulty
      cases hdifficulty
  | ok answer =>
      rw [hanswer] at hdifficulty
      cases hdifficulty
      rfl

theorem wellBuilt_of_authored {node : Node Hash}
    {preRuntime : Option (List UInt8)} {build : MiningBuild Hash Changes}
    (h : Authored node preRuntime (WorkerLabel.onBuild build)) :
    WellBuilt node preRuntime build := by
  rcases h with ⟨answers, hlawful, hround⟩
  unfold authoringRound at hround
  split at hround
  · cases hround
  · rcases Option.map_eq_some_iff.mp hround with ⟨other, hbuild, hsame⟩
    cases hsame
    exact wellBuilt_of_buildTask hlawful hbuild

theorem pushed_cases {algorithm : PowAlgorithm Hash}
    {powEngineId : ConsensusEngineId} {s t : Worker Hash Changes}
    {label : WorkerLabel Hash Changes}
    (hcase : WorkerCase algorithm powEngineId s label t)
    {build : MiningBuild Hash Changes}
    (h : WorkerEvent.pushed build ∈ t.history) :
    WorkerEvent.pushed build ∈ s.history ∨
      label = WorkerLabel.onBuild build := by
  cases hcase with
  | stacked value hhead =>
      rcases List.mem_append.mp h with hold | hnew
      · exact Or.inl hold
      · cases List.mem_singleton.mp hnew
        exact Or.inr rfl
  | restarted value hhead =>
      rcases List.mem_append.mp h with hold | hnew
      · exact Or.inl hold
      · simp only [List.mem_cons, reduceCtorEq, WorkerEvent.pushed.injEq,
          List.not_mem_nil, or_false, false_or] at hnew
        exact Or.inr (congrArg WorkerLabel.onBuild hnew.symm)
  | syncing => exact Or.inl ((List.mem_append.mp h).resolve_right (by simp))
  | missed preHash rawSeal => exact Or.inl h
  | found preHash rawSeal build hmem htask => exact Or.inl h
  | verified call preHash rawSeal metadata hcall haccepted => exact Or.inl h
  | gaveUp label call before hcall hbefore => exact Or.inl h
  | took call rawSeal build older newer hcall hsplit =>
      exact Or.inl ((List.mem_append.mp h).resolve_right (by simp))
  | handedOver call rawSeal build imported importing after hcall hafter =>
      exact Or.inl ((List.mem_append.mp h).resolve_right (by simp))
  | finished call build hcall =>
      exact Or.inl ((List.mem_append.mp h).resolve_right (by simp))
  | idle label => exact Or.inl h

section Reached

variable [DecidableEq Hash]

theorem pushed_wellBuilt {node : Node Hash}
    {preRuntime : Option (List UInt8)}
    {labels : List (WorkerLabel Hash Changes)} {s : Worker Hash Changes}
    (h : AuthoringReachedBy node preRuntime labels s) :
    forall build, WorkerEvent.pushed build ∈ s.history ->
      WellBuilt node preRuntime build := by
  refine Run.preserves (fun s : Worker Hash Changes =>
    forall build, WorkerEvent.pushed build ∈ s.history ->
      WellBuilt node preRuntime build) ?_ h ?_
  · intro s label hallowed hs build hpushed
    rcases pushed_cases (workerStep_cases s label) hpushed with hold | rfl
    · exact hs build hold
    · exact wellBuilt_of_authored hallowed.right
  · intro build hpushed
    cases hpushed

end Reached

/-!
## Importing a mined block
-/

theorem findPreDigest_of_no_preRuntime [DecidableEq Hash] {node : Node Hash}
    {logs : List DigestItem}
    (h : forall data, DigestItem.preRuntime node.powEngineId data ∉ logs)
    (found : Option (List UInt8)) :
    findPreDigest node found logs = Except.ok found := by
  induction logs with
  | nil => rfl
  | cons item rest ih =>
      have hrest := ih fun data hmem => h data (List.mem_cons_of_mem _ hmem)
      rcases item with ⟨engine, data⟩ | ⟨engine, data⟩ | data
      · have hother : engine ≠ node.powEngineId := by
          rintro rfl
          exact h data List.mem_cons_self
        rw [findPreDigest, if_neg hother]
        exact hrest
      · exact hrest
      · exact hrest

theorem Proposes.findPreDigest_eq [DecidableEq Hash] {node : Node Hash}
    {above header : Header Hash} {preRuntime : Option (List UInt8)}
    (h : Proposes node above (inherentDigests node preRuntime) header) :
    findPreDigest node none header.logs = Except.ok preRuntime := by
  rcases h.logs_eq with ⟨added, hlogs, hadded⟩
  rw [hlogs]
  cases preRuntime with
  | none => exact findPreDigest_of_no_preRuntime hadded none
  | some data =>
      change findPreDigest node none
        (DigestItem.preRuntime node.powEngineId data :: added) = _
      rw [findPreDigest, if_pos rfl]
      exact findPreDigest_of_no_preRuntime hadded (some data)

section Import

variable [DecidableEq Hash] {node : Node Hash}
variable {preRuntime : Option (List UInt8)} {build : MiningBuild Hash Changes}
variable {rawSeal : Seal}

theorem WellBuilt.verifiedDifficulty_eq (hbuild : WellBuilt node preRuntime build)
    (haccepts : Accepts node.algorithm build.metadata rawSeal) :
    verifiedDifficulty node (minedBlock node.powEngineId build rawSeal).block
      rawSeal = Except.ok build.metadata.difficulty := by
  rcases hbuild.proposes with ⟨above, hbest, hproposes⟩
  rcases hbuild.difficulty_eq with ⟨first, rest, hbody, hdifficulty⟩
  have hinherent : timestampInherent
      (minedBlock node.powEngineId build rawSeal).block = Except.ok first := by
    simp only [timestampInherent, minedBlock, hbody]
  have hparent : build.proposal.header.parentHash = build.metadata.bestHash :=
    hproposes.parentHash_eq.trans hbest.symm
  have hverify : node.algorithm.verify build.metadata.bestHash
      (node.hash build.proposal.header) preRuntime rawSeal
        build.metadata.difficulty = Except.ok true := by
    rw [← hbuild.preHash_eq, ← hbuild.preRuntime_eq]
    exact haccepts
  unfold verifiedDifficulty
  rw [hinherent, except_ok_bind]
  change (node.algorithm.difficulty build.proposal.header.parentHash first >>=
    _) = _
  rw [hparent, hdifficulty, except_ok_bind]
  change (findPreDigest node none build.proposal.header.logs >>= _) = _
  rw [hproposes.findPreDigest_eq, except_ok_bind]
  change (node.algorithm.verify build.proposal.header.parentHash
    (node.hash build.proposal.header) _ _ _ >>= _) = _
  rw [hparent, hverify]
  rfl

/-- `import_block` once the difficulty of the block is known and its seal has
been verified. -/
def importAtDifficulty (node : Node Hash) (answers : InherentAnswers Hash)
    (block : BlockImportParams Hash) (rawSeal : Seal) (difficulty : Nat)
    (s : Client Hash) : Except (Error Hash) (Client Hash) := do
  let bestHeader <- bestChain s
  checkBody node answers block
  let total := satAdd u256Max (totalOf s block.header.parentHash) difficulty
  let strategy <- chooseFork node s block bestHeader rawSeal total
  node.inner
    { hash := postHash node block
      header :=
        { block.header with logs := block.header.logs ++ block.postDigests }
      aux := { difficulty := difficulty, totalDifficulty := total }
      forkChoice := strategy } s

/-- What is left to fail is the chain lookup, the inherents, the fork choice and
the import behind. -/
theorem WellBuilt.importBlock_eq (hbuild : WellBuilt node preRuntime build)
    (haccepts : Accepts node.algorithm build.metadata rawSeal)
    (answers : InherentAnswers Hash) (s : Client Hash) :
    importBlock node answers (minedBlock node.powEngineId build rawSeal).block
        s =
      importAtDifficulty node answers
        (minedBlock node.powEngineId build rawSeal).block rawSeal
        build.metadata.difficulty s := by
  have hseal : fetchSeal node
      (minedBlock node.powEngineId build rawSeal).block.postDigests.getLast?
      (node.hash (minedBlock node.powEngineId build rawSeal).block.header) =
        Except.ok rawSeal :=
    if_pos rfl
  unfold importBlock importAtDifficulty
  rw [hseal]
  simp only [except_ok_bind, hbuild.verifiedDifficulty_eq haccepts]

end Import

/-!
## The verifier
-/

inductive VerifierError (Hash : Type) where
  | headerUnsealed (hash : Hash)
  | wrongEngine (engine : ConsensusEngineId)
  | failedPreliminaryVerify
  | algorithm (error : Error Hash)

abbrev PreliminaryVerify (Hash : Type) : Type :=
  Hash -> Seal -> Except (Error Hash) (Option Bool)

/-- By default nothing can be said before the parent is imported. -/
def defaultPreliminaryVerify : PreliminaryVerify Hash :=
  fun _ _ => Except.ok none

/-- `check_header` takes the seal off the header. -/
def checkHeader (node : Node Hash)
    (preliminaryVerify : PreliminaryVerify Hash) (header : Header Hash) :
    Except (VerifierError Hash) (Header Hash × DigestItem) :=
  match header.logs.getLast? with
  | some (DigestItem.seal engine innerSeal) =>
      if engine = node.powEngineId then
        let stripped := { header with logs := header.logs.dropLast }
        match preliminaryVerify (node.hash stripped) innerSeal with
        | Except.error error => Except.error (VerifierError.algorithm error)
        | Except.ok verdict =>
            if verdict.getD true then
              Except.ok (stripped, DigestItem.seal engine innerSeal)
            else
              Except.error VerifierError.failedPreliminaryVerify
      else
        Except.error (VerifierError.wrongEngine engine)
  | _ => Except.error (VerifierError.headerUnsealed (node.hash header))

/-- `PowVerifier::verify`.  The hash it remembers is the one the importer
computes from the post digests. -/
def verifyBlock (node : Node Hash)
    (preliminaryVerify : PreliminaryVerify Hash)
    (block : BlockImportParams Hash) :
    Except (VerifierError Hash) (BlockImportParams Hash) := do
  let (header, item) <- checkHeader node preliminaryVerify block.header
  return { block with
    header := header
    postDigests := block.postDigests ++ [item] }

/-- A block as it travels, with the seal at the end of its header. -/
def announced (block : BlockImportParams Hash) : BlockImportParams Hash :=
  { block with
    header :=
      { block.header with logs := block.header.logs ++ block.postDigests }
    postDigests := [] }

theorem verifyBlock_announced (node : Node Hash)
    {block : BlockImportParams Hash} {rawSeal : Seal}
    (hsealed : block.postDigests =
      [DigestItem.seal node.powEngineId rawSeal]) :
    verifyBlock node defaultPreliminaryVerify (announced block) =
      Except.ok block := by
  unfold verifyBlock checkHeader announced
  simp only [hsealed, List.getLast?_concat, List.dropLast_concat, if_pos,
    defaultPreliminaryVerify, Option.getD_none, except_ok_bind, List.nil_append]
  rw [← hsealed]
  rfl

/-!
## Every node agrees with the miner
-/

/-- Two nodes of one network: they hash headers alike and run the same
algorithm, but keep their own chains. -/
structure SameRules (node other : Node Hash) : Prop where
  hash_eq : other.hash = node.hash
  powEngineId_eq : other.powEngineId = node.powEngineId
  algorithm_eq : other.algorithm = node.algorithm

theorem WellBuilt.of_sameRules {node other : Node Hash}
    {preRuntime : Option (List UInt8)} {build : MiningBuild Hash Changes}
    (h : WellBuilt node preRuntime build) (hsame : SameRules node other) :
    WellBuilt other preRuntime build := by
  rcases h with ⟨⟨above, hbest, hparent, added, hlogs, hadded⟩, hpre, hruntime,
    first, rest, hbody, hdifficulty⟩
  rw [← hsame.hash_eq] at hbest hparent hpre
  rw [← hsame.powEngineId_eq] at hadded
  rw [← hsame.algorithm_eq] at hdifficulty
  refine ⟨⟨above, hbest, hparent, added, ?_, hadded⟩, hpre, hruntime, first,
    rest, hbody, hdifficulty⟩
  rw [hlogs]
  unfold inherentDigests
  rw [hsame.powEngineId_eq]

section Agreement

variable [DecidableEq Hash] {node : Node Hash}
variable {preRuntime : Option (List UInt8)}
variable {labels : List (WorkerLabel Hash Changes)} {s : Worker Hash Changes}

/-- A block on its way into the import comes from a build of the loop.  The seal
was found good for a build with the same pre-hash. -/
theorem AuthoringReachedBy.exists_handover
    (h : AuthoringReachedBy node preRuntime labels s) {preHash : Hash}
    {mined : MinedBlock Hash Changes}
    (hmined : WorkerEvent.handedOver preHash mined ∈ s.history) :
    exists build other rawSeal, WorkerEvent.pushed build ∈ s.history ∧
      WorkerEvent.pushed other ∈ s.history ∧
      build.metadata.preHash = preHash ∧ other.metadata.preHash = preHash ∧
      mined = minedBlock node.powEngineId build rawSeal ∧
      Accepts node.algorithm other.metadata rawSeal := by
  rcases List.append_of_mem hmined with ⟨before, after, hhistory⟩
  have hprefix : before ++ [WorkerEvent.handedOver preHash mined] <+:
      s.history := by
    refine ⟨after, ?_⟩
    rw [hhistory, List.append_assoc]
    rfl
  have hearlier : forall event, event ∈ before -> event ∈ s.history := by
    intro event hmem
    rw [hhistory]
    exact List.mem_append_left _ hmem
  rcases h.workerReachedBy.importsSound.handovers before preHash mined hprefix
    with ⟨build, rawSeal, hpushed, htask, hblock, hvouched⟩
  rcases hvouched with ⟨other, hother, hotherTask, haccepts⟩
  exact ⟨build, other, rawSeal, hearlier _ hpushed, hearlier _ hother, htask,
    hotherTask, hblock, haccepts⟩

theorem AuthoringReachedBy.exists_build
    (h : AuthoringReachedBy node preRuntime labels s)
    (hapart : forall build other, WorkerEvent.pushed build ∈ s.history ->
      WorkerEvent.pushed other ∈ s.history ->
      build.metadata.preHash = other.metadata.preHash -> build = other)
    {preHash : Hash} {mined : MinedBlock Hash Changes}
    (hmined : WorkerEvent.handedOver preHash mined ∈ s.history) :
    exists build rawSeal, WellBuilt node preRuntime build ∧
      build.metadata.preHash = preHash ∧
      mined = minedBlock node.powEngineId build rawSeal ∧
      Accepts node.algorithm build.metadata rawSeal := by
  rcases h.exists_handover hmined with
    ⟨build, other, rawSeal, hpushed, hother, htask, hotherTask, hblock,
      haccepts⟩
  have hsame := hapart build other hpushed hother
    (htask.trans hotherTask.symm)
  rw [← hsame] at haccepts
  exact ⟨build, rawSeal, pushed_wellBuilt h build hpushed, htask, hblock,
    haccepts⟩

/-- Whatever the authoring loop and any number of submits do: a block that the
worker hands to its own import passes the verifier of every node of the network
unchanged, and there and at home the importer demands the difficulty its
timestamp calls for, finds its seal good, and goes on to the fork choice. -/
theorem mined_blocks_pass_on_every_node
    (h : AuthoringReachedBy node preRuntime labels s)
    (hapart : forall build other, WorkerEvent.pushed build ∈ s.history ->
      WorkerEvent.pushed other ∈ s.history ->
      build.metadata.preHash = other.metadata.preHash -> build = other)
    {preHash : Hash} {mined : MinedBlock Hash Changes}
    (hmined : WorkerEvent.handedOver preHash mined ∈ s.history) :
    node.hash mined.block.header = preHash ∧
      exists rawSeal difficulty,
        (exists first rest, mined.block.body = some (first :: rest) ∧
          node.algorithm.difficulty mined.block.header.parentHash first =
            Except.ok difficulty) ∧
        forall other, SameRules node other ->
          verifyBlock other defaultPreliminaryVerify (announced mined.block) =
            Except.ok mined.block ∧
          postHash other mined.block =
            other.hash (announced mined.block).header ∧
          forall answers client,
            importBlock other answers mined.block client =
              importAtDifficulty other answers mined.block rawSeal difficulty
                client := by
  rcases h.exists_build hapart hmined with
    ⟨build, rawSeal, hbuild, htask, rfl, haccepts⟩
  refine ⟨hbuild.preHash_eq.symm.trans htask, rawSeal,
    build.metadata.difficulty, ?_, ?_⟩
  · rcases hbuild.proposes with ⟨above, hbest, hproposes⟩
    rcases hbuild.difficulty_eq with ⟨first, rest, hbody, hdifficulty⟩
    refine ⟨first, rest, congrArg some hbody, ?_⟩
    change node.algorithm.difficulty build.proposal.header.parentHash first = _
    rw [hproposes.parentHash_eq, ← hbest]
    exact hdifficulty
  · intro other hsame
    have hengine : minedBlock node.powEngineId build rawSeal =
        minedBlock other.powEngineId build rawSeal := by
      rw [hsame.powEngineId_eq]
    rw [hengine]
    refine ⟨verifyBlock_announced other rfl, rfl, ?_⟩
    refine (hbuild.of_sameRules hsame).importBlock_eq ?_
    rw [hsame.algorithm_eq]
    exact haccepts

end Agreement

/-!
## A small instance
-/

/-- A builder that puts one log and a two byte inherent into its block. -/
def toyAnswers : RoundAnswers Nat Unit :=
  { isMajorSyncing := false
    bestChain := some { parentHash := 0, number := 0, logs := [] }
    createInherentDataProviders := fun _ => some ()
    createInherentData := fun _ => some []
    init := fun above => some fun _ digests => some
      { header :=
          { parentHash := toyNode.hash above
            number := above.number + 1
            logs := digests ++ [DigestItem.other []] }
        body := [[1, 2]]
        storageChanges := () } }

theorem toyAnswers_lawful : toyAnswers.Lawful toyNode := by
  rintro above proposer data digests proposal ⟨⟩ ⟨⟩
  exact ⟨rfl, [DigestItem.other []], rfl, by simp⟩

/-- The task the toy builder makes for the miner `[9]`. -/
def toyTask : MiningBuild Nat Unit :=
  { metadata :=
      { bestHash := 0, preHash := 2, preRuntime := some [9], difficulty := 2 }
    proposal :=
      { header :=
          { parentHash := 0
            number := 1
            logs := [DigestItem.preRuntime toyNode.powEngineId [9],
              DigestItem.other []] }
        body := [[1, 2]]
        storageChanges := () } }

def toySubmit : List (WorkerLabel Nat Unit) :=
  [WorkerLabel.onBuild toyTask, WorkerLabel.submit 2 [7],
    WorkerLabel.verify 0, WorkerLabel.take 0, WorkerLabel.importBlock 0 true]

theorem toySubmit_reached :
    AuthoringReachedBy toyNode (some [9]) toySubmit
      (toySubmit.foldl (workerStep toyNode.algorithm toyNode.powEngineId)
        Worker.new) := by
  have hbuilt : Authored toyNode (some [9]) (WorkerLabel.onBuild toyTask) :=
    ⟨toyAnswers, toyAnswers_lawful, rfl⟩
  exact Run.cons ⟨True.intro, hbuilt⟩ (Run.cons ⟨True.intro, True.intro⟩
    (Run.cons ⟨True.intro, True.intro⟩ (Run.cons ⟨True.intro, True.intro⟩
      (Run.single ⟨rfl, True.intro⟩))))

/-- The submit of a toy task hands over a block that a node with a different
chain behind it imports at the same difficulty. -/
theorem toy_block_passes_elsewhere :
    let mined := minedBlock toyNode.powEngineId toyTask [7]
    let elsewhere := { toyNode with
      checkInherentsAfter := 5
      inner := fun _ _ => Except.error Error.inner }
    verifyBlock elsewhere defaultPreliminaryVerify (announced mined.block) =
        Except.ok mined.block ∧
      exists rawSeal difficulty, forall answers client,
        importBlock elsewhere answers mined.block client =
          importAtDifficulty elsewhere answers mined.block rawSeal difficulty
            client := by
  intro mined elsewhere
  let worker := toySubmit.foldl (workerStep toyNode.algorithm
    toyNode.powEngineId) Worker.new
  have hhistory : worker.history =
      [WorkerEvent.cleared, WorkerEvent.pushed toyTask,
        WorkerEvent.taken toyTask, WorkerEvent.handedOver 2 mined] := rfl
  have hapart : forall build other, WorkerEvent.pushed build ∈ worker.history ->
      WorkerEvent.pushed other ∈ worker.history ->
      build.metadata.preHash = other.metadata.preHash -> build = other := by
    intro build other hbuild hother _
    rw [hhistory] at hbuild hother
    simp at hbuild hother
    rw [hbuild, hother]
  have hmined : WorkerEvent.handedOver 2 mined ∈ worker.history := by
    rw [hhistory]
    simp
  rcases mined_blocks_pass_on_every_node toySubmit_reached hapart hmined with
    ⟨_, rawSeal, difficulty, _, hother⟩
  rcases hother elsewhere ⟨rfl, rfl, rfl⟩ with ⟨hverify, _, himport⟩
  exact ⟨hverify, rawSeal, difficulty, himport⟩

end Pow
end Numen
