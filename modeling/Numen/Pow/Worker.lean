import Numen.Foundation.Queues
import Numen.Foundation.Runs
import Numen.Pow.Import

/-!
# The mining worker

`MiningHandle` keeps the live mining tasks in a queue behind a mutex.  The
worker task pushes builds and clears the queue, and any number of `submit` calls
race for the builds in it.  A step here is one section that runs under the
queue's mutex, one seal verification, or one import.  The version counter and
the channel that announce a change to readers decide nothing in these sections
and are left out.
-/

namespace Numen
namespace Pow

open Foundation

variable {Hash Changes : Type}

/-!
## Tasks
-/

/-- The information needed to mine a build. -/
structure MiningMetadata (Hash : Type) where
  bestHash : Hash
  preHash : Hash
  preRuntime : Option (List UInt8)
  difficulty : Nat
deriving DecidableEq

/-- A proposed block, taken apart, and the storage changes it makes. -/
structure Proposal (Hash Changes : Type) where
  header : Header Hash
  body : List (List UInt8)
  storageChanges : Changes

structure MiningBuild (Hash Changes : Type) where
  metadata : MiningMetadata Hash
  proposal : Proposal Hash Changes

def maxLiveTasks : Nat :=
  256

/-- What a `submit` hands to `import_block`: the block with its seal, and the
storage changes to apply instead of executing it. -/
structure MinedBlock (Hash Changes : Type) where
  block : BlockImportParams Hash
  storageChanges : Changes

def minedBlock (powEngineId : ConsensusEngineId)
    (build : MiningBuild Hash Changes) (rawSeal : Seal) :
    MinedBlock Hash Changes :=
  { block :=
      { header := build.proposal.header
        postDigests := [DigestItem.seal powEngineId rawSeal]
        body := some build.proposal.body
        skipExecutionChecks := false
        forkChoice := none }
    storageChanges := build.proposal.storageChanges }

/-!
## The state of the worker
-/

/-- Where a `submit` call stands: after the lookup, after the verification,
after taking the build, after a successful import, and after its return. -/
inductive Call (Hash Changes : Type) where
  | found (preHash : Hash) (rawSeal : Seal) (metadata : MiningMetadata Hash)
  | verified (preHash : Hash) (rawSeal : Seal)
  | taken (rawSeal : Seal) (build : MiningBuild Hash Changes)
  | landed (build : MiningBuild Hash Changes)
  | returned (result : Bool)

/-- What happens to the queue, and what reaches `import_block` for which
pre-hash. -/
inductive WorkerEvent (Hash Changes : Type) where
  | pushed (build : MiningBuild Hash Changes)
  | cleared
  | taken (build : MiningBuild Hash Changes)
  | handedOver (preHash : Hash) (block : MinedBlock Hash Changes)

/-- The queue from oldest to newest, the `submit` calls made so far, the call
that holds the mutex of the block import, and everything that has happened. -/
structure Worker (Hash Changes : Type) where
  builds : List (MiningBuild Hash Changes)
  calls : List (Call Hash Changes)
  importing : Option Nat
  history : List (WorkerEvent Hash Changes)

namespace Worker

/-- `MiningHandle::new`. -/
def new : Worker Hash Changes :=
  { builds := [], calls := [], importing := none, history := [] }

/-- `best_hash`. -/
def bestHash (s : Worker Hash Changes) : Option Hash :=
  s.builds.getLast?.map (fun build => build.metadata.bestHash)

def record (s : Worker Hash Changes)
    (events : List (WorkerEvent Hash Changes)) : Worker Hash Changes :=
  { s with history := s.history ++ events }

def setCall (s : Worker Hash Changes) (i : Nat) (call : Call Hash Changes) :
    Worker Hash Changes :=
  { s with calls := s.calls.set i call }

/-!
## The sections
-/

def onMajorSyncing (s : Worker Hash Changes) : Worker Hash Changes :=
  { s with builds := [] }.record [WorkerEvent.cleared]

variable [DecidableEq Hash]

def onBuild (s : Worker Hash Changes) (value : MiningBuild Hash Changes) :
    Worker Hash Changes :=
  if s.bestHash ≠ some value.metadata.bestHash then
    { s with builds := trim maxLiveTasks [value] }.record
      [WorkerEvent.cleared, WorkerEvent.pushed value]
  else
    { s with builds := trim maxLiveTasks (s.builds ++ [value]) }.record
      [WorkerEvent.pushed value]

def isTask (preHash : Hash) (build : MiningBuild Hash Changes) : Bool :=
  decide (build.metadata.preHash = preHash)

theorem isTask_eq_true {preHash : Hash} {build : MiningBuild Hash Changes} :
    isTask preHash build = true <-> build.metadata.preHash = preHash :=
  decide_eq_true_iff

/-- The first section of `submit` looks the task up. -/
def submit (s : Worker Hash Changes) (preHash : Hash) (rawSeal : Seal) :
    Worker Hash Changes :=
  match s.builds.find? (isTask preHash) with
  | some build =>
      { s with calls := s.calls ++ [Call.found preHash rawSeal build.metadata] }
  | none => { s with calls := s.calls ++ [Call.returned false] }

/-- The seal is verified against the metadata found, without any lock. -/
def verify (algorithm : PowAlgorithm Hash) (s : Worker Hash Changes)
    (i : Nat) : Worker Hash Changes :=
  match s.calls[i]? with
  | some (Call.found preHash rawSeal metadata) =>
      match algorithm.verify metadata.bestHash metadata.preHash
          metadata.preRuntime rawSeal metadata.difficulty with
      | Except.ok true => s.setCall i (Call.verified preHash rawSeal)
      | Except.ok false => s.setCall i (Call.returned false)
      | Except.error _ => s.setCall i (Call.returned false)
  | _ => s

/-- The first build still queued for the pre-hash is taken out. -/
def take (s : Worker Hash Changes) (i : Nat) : Worker Hash Changes :=
  match s.calls[i]? with
  | some (Call.verified preHash rawSeal) =>
      match s.builds.find? (isTask preHash) with
      | some build =>
          ({ s with builds := s.builds.eraseP (isTask preHash) }.setCall i
            (Call.taken rawSeal build)).record [WorkerEvent.taken build]
      | none => s.setCall i (Call.returned false)
  | _ => s

/-- The import itself.  A call whose block landed keeps the mutex of the
block import until it has cleared the queue. -/
def importBlock (powEngineId : ConsensusEngineId) (s : Worker Hash Changes)
    (i : Nat) (imported : Bool) : Worker Hash Changes :=
  match s.calls[i]? with
  | some (Call.taken rawSeal build) =>
      let handed := s.record [WorkerEvent.handedOver build.metadata.preHash
        (minedBlock powEngineId build rawSeal)]
      if imported then
        { handed with importing := some i }.setCall i (Call.landed build)
      else
        handed.setCall i (Call.returned false)
  | _ => s

def clear (s : Worker Hash Changes) (i : Nat) : Worker Hash Changes :=
  match s.calls[i]? with
  | some (Call.landed _) =>
      ({ s with builds := [], importing := none }.setCall i
        (Call.returned true)).record [WorkerEvent.cleared]
  | _ => s

end Worker

/-!
## Interleavings
-/

inductive WorkerLabel (Hash Changes : Type) where
  | onBuild (value : MiningBuild Hash Changes)
  | onMajorSyncing
  | submit (preHash : Hash) (rawSeal : Seal)
  | verify (call : Nat)
  | take (call : Nat)
  | importBlock (call : Nat) (imported : Bool)
  | clear (call : Nat)

variable [DecidableEq Hash]

def workerStep (algorithm : PowAlgorithm Hash)
    (powEngineId : ConsensusEngineId) (s : Worker Hash Changes) :
    WorkerLabel Hash Changes -> Worker Hash Changes
  | WorkerLabel.onBuild value => s.onBuild value
  | WorkerLabel.onMajorSyncing => s.onMajorSyncing
  | WorkerLabel.submit preHash rawSeal => s.submit preHash rawSeal
  | WorkerLabel.verify call => s.verify algorithm call
  | WorkerLabel.take call => s.take call
  | WorkerLabel.importBlock call imported =>
      s.importBlock powEngineId call imported
  | WorkerLabel.clear call => s.clear call

omit [DecidableEq Hash] in
/-- One import at a time; everything else may happen in any order. -/
def WorkerAllowed (s : Worker Hash Changes) :
    WorkerLabel Hash Changes -> Prop
  | WorkerLabel.importBlock _ _ => s.importing = none
  | _ => True

def WorkerReachedBy (algorithm : PowAlgorithm Hash)
    (powEngineId : ConsensusEngineId)
    (labels : List (WorkerLabel Hash Changes)) (s : Worker Hash Changes) :
    Prop :=
  Run WorkerAllowed (workerStep algorithm powEngineId) Worker.new labels s

end Pow
end Numen
