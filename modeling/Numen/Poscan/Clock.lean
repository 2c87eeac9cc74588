import Numen.Difficulty.Monotone
import Numen.Poscan.Algorithm

/-!
# The clock of a block

A later timestamp asks for a lower difficulty, so a miner would rather claim to
be late.  The runtime's `check_inherents` holds the timestamp of a block against
the clock of the node that imports it and against the parent.
-/

namespace Numen
namespace Poscan

open Foundation
open Numen.Pow (DigestItem Header Client BlockImportParams)

/-!
## Checking the inherents
-/

/-- Whether any inherent was found wrong.  Which errors are kept is up to the
crate of the result. -/
structure CheckInherentsResult where
  okay : Bool
deriving DecidableEq

def CheckInherentsResult.putError (_result : CheckInherentsResult) :
    CheckInherentsResult :=
  { okay := false }

def maxTimestampDriftMs : UInt64 :=
  2000

def checkTimestampDrift (result : CheckInherentsResult)
    (blockTsMs nodeTsMs parentTsMs : UInt64) : CheckInherentsResult :=
  let result :=
    if nodeTsMs + maxTimestampDriftMs < blockTsMs then result.putError
    else result
  if blockTsMs < parentTsMs then result.putError else result

/-- The runtime with its timestamp pallet: the time each block has set, and the
checks the pallets make of their own inherents. -/
structure ClockedRuntime extends Runtime where
  nowAt : H256 -> UInt64
  checkExtrinsics : H256 -> List (List UInt8) -> CheckInherentsResult

namespace ClockedRuntime

variable (runtime : ClockedRuntime)

/-- The time an extrinsic sets, if that is what it does. -/
def timeOf (extrinsic : List UInt8) : Option UInt64 :=
  Difficulty.timestampFromInherent runtime.decode extrinsic

/-- `check_inherents` of the runtime, on top of `parent`.  The first extrinsic
that sets the time is checked, wherever it stands. -/
def checkInherents (parent : H256) (body : List (List UInt8))
    (timestampInherentData : Option UInt64) : CheckInherentsResult :=
  let result := runtime.checkExtrinsics parent body
  match timestampInherentData with
  | none => result
  | some nodeTsMs =>
      match body.findSome? runtime.timeOf with
      | none => result
      | some now =>
          checkTimestampDrift result now nodeTsMs (runtime.nowAt parent)

/-- What the importer hears while it imports `block`, with its provider reading
`clock` from the system. -/
def answers (clock : UInt64) (block : BlockImportParams H256) :
    Pow.InherentAnswers H256 where
  createInherentDataProviders := Except.ok ()
  checkInherents :=
    if (runtime.checkInherents block.header.parentHash
        (block.body.getD []) (some clock)).okay then
      Except.ok ()
    else
      Except.error Pow.Error.checkInherents

end ClockedRuntime

theorem checkTimestampDrift_okay {result : CheckInherentsResult}
    {blockTsMs nodeTsMs parentTsMs : UInt64}
    (h : (checkTimestampDrift result blockTsMs nodeTsMs parentTsMs).okay =
      true) :
    blockTsMs ≤ nodeTsMs + maxTimestampDriftMs ∧ parentTsMs ≤ blockTsMs := by
  unfold checkTimestampDrift at h
  dsimp only at h
  split at h
  · cases h
  · rename_i hparent
    split at h
    · cases h
    · rename_i hdrift
      exact ⟨UInt64.not_lt.mp hdrift, UInt64.not_lt.mp hparent⟩

/-!
## What an import lets through
-/

/-- The block was checked when the clock showed `clock`, and its first extrinsic
sets a time that is neither before its parent's nor more than the drift ahead
of the clock. -/
structure InTime (runtime : ClockedRuntime) (clock : UInt64)
    (block : BlockImportParams H256) (now : UInt64) : Prop where
  dated : (Pow.timestampInherent block).toOption.bind runtime.decode =
    some (Difficulty.RuntimeCall.timestampSet now)
  notAhead : now ≤ clock + maxTimestampDriftMs
  notBefore : runtime.nowAt block.header.parentHash ≤ now

theorem importBlock_inTime {runtime : ClockedRuntime} {node : Pow.Node H256}
    (hafter : node.checkInherentsAfter = 0)
    {clock : UInt64} {block : BlockImportParams H256}
    (hexecutes : block.skipExecutionChecks = false) {s t : Client H256}
    (h : Pow.importBlock node (runtime.answers clock block) block s =
      Except.ok t) {now : UInt64}
    (hdated : (Pow.timestampInherent block).toOption.bind runtime.decode =
      some (Difficulty.RuntimeCall.timestampSet now)) :
    InTime runtime clock block now := by
  rcases hbody : block.body with _ | (_ | ⟨first, rest⟩)
  · simp only [Pow.timestampInherent, hbody, Except.toOption,
      Option.bind_none, reduceCtorEq] at hdated
  · simp only [Pow.timestampInherent, hbody, Except.toOption,
      Option.bind_none, reduceCtorEq] at hdated
  · -- the first extrinsic is the one the drift is checked for
    have htime : runtime.timeOf first = some now := by
      have hfirst : runtime.decode first =
          some (Difficulty.RuntimeCall.timestampSet now) := by
        have hset := hdated
        simp only [Pow.timestampInherent, hbody] at hset
        exact hset
      unfold ClockedRuntime.timeOf Difficulty.timestampFromInherent
      rw [hfirst]
    have hchecked : Pow.checkBody node (runtime.answers clock block) block =
        Except.ok () := by
      unfold Pow.importBlock at h
      rcases except_bind_eq_ok h with ⟨_, _, h⟩
      dsimp only at h
      rcases except_bind_eq_ok h with ⟨_, hcheck, _⟩
      exact hcheck
    have hokay : (runtime.checkInherents block.header.parentHash
        (first :: rest) (some clock)).okay = true := by
      unfold Pow.checkBody at hchecked
      rw [if_pos ⟨by rw [hbody]; rfl, hexecutes⟩] at hchecked
      unfold Pow.checkInherents ClockedRuntime.answers at hchecked
      rw [except_ok_bind, hafter, if_neg (Nat.not_lt_zero _), hbody] at hchecked
      dsimp only at hchecked
      rw [Option.getD_some] at hchecked
      split at hchecked
      · rename_i hokay
        exact hokay
      · cases hchecked
    unfold ClockedRuntime.checkInherents at hokay
    rw [List.findSome?_cons, htime] at hokay
    rcases checkTimestampDrift_okay hokay with ⟨hahead, hbefore⟩
    exact ⟨hdated, hahead, hbefore⟩

/-!
## Runs
-/

/-- The imports of a run are of blocks to execute, each answered by the runtime
with the clock of its own moment, and executing a block sets the time its first
extrinsic asks for. -/
structure Clocked (runtime : ClockedRuntime) (node : Pow.Node H256)
    (labels : List (Pow.Label H256)) : Prop where
  imports : forall answers block,
    Pow.Label.importBlock answers block ∈ labels ->
      block.skipExecutionChecks = false ∧
        exists clock, answers = runtime.answers clock block
  executes : forall answers block now,
    Pow.Label.importBlock answers block ∈ labels ->
      (Pow.timestampInherent block).toOption.bind runtime.decode =
          some (Difficulty.RuntimeCall.timestampSet now) ->
        runtime.nowAt (Pow.postHash node block) = now

/-- The block was imported in the run, when the clock showed `clock`, and it was
in time. -/
def ImportedAt (runtime : ClockedRuntime) (labels : List (Pow.Label H256))
    (clock : UInt64) (block : BlockImportParams H256) : Prop :=
  Pow.Label.importBlock (runtime.answers clock block) block ∈ labels ∧
    forall now, (Pow.timestampInherent block).toOption.bind runtime.decode =
        some (Difficulty.RuntimeCall.timestampSet now) ->
      InTime runtime clock block now

section Runs

variable {runtime : ClockedRuntime} {node : Pow.Node H256}
variable {genesis : H256} {header : Header H256}
variable {labels : List (Pow.Label H256)} {s : Client H256}

theorem Clocked.allCarryWork (hclocked : Clocked runtime node labels)
    (hlawful : node.Lawful)
    (halgorithm : node.algorithm = poScanAlgorithm runtime.api)
    (hafter : node.checkInherentsAfter = 0)
    (h : Pow.ReachedBy node genesis header labels s) :
    AllCarryWork runtime.toRuntime node
      (fun block => exists clock, ImportedAt runtime labels clock block) s := by
  rcases h with ⟨hzero, hrun⟩
  refine Run.preserves (AllCarryWork runtime.toRuntime node _) ?_
    hrun.labelled (genesis_allCarryWork genesis hzero)
  intro u label hallowed hu
  refine step_allCarryWork hlawful halgorithm label ?_ hu
  intro answers block t hlabel himport
  rw [hlabel] at hallowed
  rcases hclocked.imports answers block hallowed.right with
    ⟨hexecuted, clock, rfl⟩
  exact ⟨clock, hallowed.right, fun now hdated =>
    importBlock_inTime hafter hexecuted himport hdated⟩

theorem Clocked.nowAt_eq (hclocked : Clocked runtime node labels)
    {answers : Pow.InherentAnswers H256} {block : BlockImportParams H256}
    (hlabel : Pow.Label.importBlock answers block ∈ labels) {b : H256}
    {nonce : U256} {work : H256} {now : UInt64}
    (hcarried : CarriedBy runtime.toRuntime node s b block nonce work now) :
    runtime.nowAt b = now := by
  rw [← hcarried.hash_eq]
  exact hclocked.executes answers block now hlabel hcarried.dated

/-- Whatever is imported in whatever order: a block is stored only with a time
at most two seconds ahead of the clock of the import and no earlier than its
parent's, and so at a difficulty at least the one demanded at the end of these
two seconds.  Along every chain the times do not run back. -/
theorem stored_blocks_keep_to_the_clock
    (hclocked : Clocked runtime node labels) (hlawful : node.Lawful)
    (halgorithm : node.algorithm = poScanAlgorithm runtime.api)
    (hafter : node.checkInherentsAfter = 0)
    (hhalflife : runtime.cfg.halflife ≠ 0)
    (h : Pow.ReachedBy node genesis header labels s) :
    (forall b header, s.headers.get b = some header -> header.number ≠ 0 ->
      exists block clock state floor,
        Pow.Label.importBlock (runtime.answers clock block) block ∈ labels ∧
        Pow.postHash node block = b ∧
        runtime.nowAt b ≤ clock + maxTimestampDriftMs ∧
        runtime.stateAt block.header.parentHash = some state ∧
        Difficulty.realtimeDifficulty runtime.cfg state
            ((clock + maxTimestampDriftMs).toNat / 1000) = Except.ok floor ∧
        floor ≤ (Pow.readAux s b).difficulty) ∧
      forall b above, Pow.parentOf s b = some above ->
        runtime.nowAt above ≤ runtime.nowAt b := by
  have hwork := hclocked.allCarryWork hlawful halgorithm hafter h
  constructor
  · intro b header hget hnumber
    rcases hwork b header hget hnumber with
      ⟨block, nonce, work, now, ⟨clock, hlabel, hintime⟩, hcarried⟩
    have htimely := hintime now hcarried.dated
    have hnow := hclocked.nowAt_eq hlabel hcarried
    rcases hcarried.demanded with ⟨state, hstate, hdemanded⟩
    have hsecs : now.toNat / 1000 ≤
        (clock + maxTimestampDriftMs).toNat / 1000 :=
      Nat.div_le_div_right (UInt64.le_iff_toNat_le.mp htimely.notAhead)
    rcases Difficulty.realtimeDifficulty_antitone hhalflife state hsecs with
      ⟨difficulty, floor, hdifficulty, hfloor, hle⟩
    rw [hdemanded] at hdifficulty
    cases hdifficulty
    refine ⟨block, clock, state, floor, hlabel, hcarried.hash_eq, ?_, hstate,
      hfloor, hle⟩
    rw [hnow]
    exact htimely.notAhead
  · intro b above hparent
    rcases Pow.parentOf_eq_some.mp hparent with
      ⟨header, hget, hnumber, hparentHash⟩
    rcases hwork b header hget hnumber with
      ⟨block, nonce, work, now, ⟨clock, hlabel, hintime⟩, hcarried⟩
    have hnow := hclocked.nowAt_eq hlabel hcarried
    have habove : block.header.parentHash = above := by
      have hstored := hcarried.stored
      rw [hget] at hstored
      cases hstored
      exact hparentHash
    rw [hnow, ← habove]
    exact (hintime now hcarried.dated).notBefore

end Runs

/-- The small runtime, with every block at one time. -/
def toyClock : ClockedRuntime :=
  { toyRuntime with
    nowAt := fun _ => 1700003610000
    checkExtrinsics := fun _ _ => { okay := true } }

/-- A second after the node's clock is early enough. -/
theorem toy_scan_keeps_to_the_clock :
    let zero : Header H256 :=
      { parentHash := Bytes.replicate 32 0, number := 0, logs := [] }
    let label := Pow.Label.importBlock
      (toyClock.answers 1700003609000 toyScanned) toyScanned
    let s := Pow.step toyScanNode
      (Pow.genesisClient (Bytes.replicate 32 0) zero) label
    let b := Pow.postHash toyScanNode toyScanned
    exists block clock state floor,
      Pow.Label.importBlock (toyClock.answers clock block) block ∈ [label] ∧
      Pow.postHash toyScanNode block = b ∧
      toyClock.nowAt b ≤ clock + maxTimestampDriftMs ∧
      toyClock.stateAt block.header.parentHash = some state ∧
      Difficulty.realtimeDifficulty Difficulty.mainnet state
          ((clock + maxTimestampDriftMs).toNat / 1000) = Except.ok floor ∧
      floor ≤ (Pow.readAux s b).difficulty := by
  intro zero label s b
  have hreached : Pow.ReachedBy toyScanNode (Bytes.replicate 32 0) zero
      [label] s :=
    ⟨rfl, Run.single rfl⟩
  have hclocked : Clocked toyClock toyScanNode [label] := by
    constructor
    · intro answers block hmem
      rcases Pow.Label.importBlock.inj (List.mem_singleton.mp hmem) with
        ⟨rfl, rfl⟩
      exact ⟨rfl, 1700003609000, rfl⟩
    · intro answers block now hmem hdated
      rcases Pow.Label.importBlock.inj (List.mem_singleton.mp hmem) with
        ⟨rfl, rfl⟩
      have hnow : some (Difficulty.RuntimeCall.timestampSet 1700003610000) =
          some (Difficulty.RuntimeCall.timestampSet now) := hdated
      cases hnow
      rfl
  have halgorithm : toyScanNode.algorithm = poScanAlgorithm toyClock.api := rfl
  have hhalflife : toyClock.cfg.halflife ≠ 0 := by decide
  have hstored : (s.headers.get b).map (fun header => header.number) =
      some 1 := by
    decide +kernel
  rcases Option.map_eq_some_iff.mp hstored with ⟨header, hget, hnumber⟩
  refine (stored_blocks_keep_to_the_clock hclocked toyScanNode_lawful
    halgorithm rfl hhalflife hreached).left b header hget ?_
  rw [hnumber]
  exact Nat.one_ne_zero

end Poscan
end Numen
