import Numen.Foundation.Arithmetic
import Numen.Foundation.Storage

/-!
# Block import

`PowBlockImport::import_block` with the functions it calls: reading the stored
total difficulty, fetching seals, checking a candidate against finality and
choosing the fork.  The client it reads from and the import it hands the block
on to belong to other crates; the proof-of-work algorithm is a parameter of the
source itself.
-/

namespace Numen
namespace Pow

open Foundation

abbrev ConsensusEngineId : Type :=
  Vector UInt8 4

abbrev Seal : Type :=
  List UInt8

inductive DigestItem where
  | preRuntime (engine : ConsensusEngineId) (data : List UInt8)
  | seal (engine : ConsensusEngineId) (data : Seal)
  | other (data : List UInt8)
deriving DecidableEq

structure Header (Hash : Type) where
  parentHash : Hash
  number : Nat
  logs : List DigestItem

/-- Difficulty of a block and total difficulty up to it.  Both are zero when
nothing is stored. -/
structure PowAux where
  difficulty : Nat := 0
  totalDifficulty : Nat := 0
deriving DecidableEq, Repr

inductive ForkChoiceStrategy where
  | longestChain
  | custom (isBest : Bool)
deriving DecidableEq

inductive Error (Hash : Type) where
  | chainLookup
  | headerUnsealed (hash : Hash)
  | wrongEngine (engine : ConsensusEngineId)
  | invalidSeal
  | multiplePreRuntimeDigests
  | missingTimestampInherent
  | createInherents
  | checkInherents
  | headerNotFound (hash : Hash)
  | algorithm
  | inner

/-- What the client knows: headers, auxiliary entries, the best block and the
finalized one. -/
structure Client (Hash : Type) where
  headers : StorageMap Hash (Header Hash)
  aux : StorageMap Hash PowAux
  best : Hash
  finalized : Hash
  finalizedNumber : Nat

/-- A block on its way in.  The header does not carry the seal, which is the
last of the post digests. -/
structure BlockImportParams (Hash : Type) where
  header : Header Hash
  postDigests : List DigestItem
  body : Option (List (List UInt8))
  skipExecutionChecks : Bool
  forkChoice : Option ForkChoiceStrategy

/-- What `import_block` hands on: the block with its hash, the auxiliary entry
to store with it and the fork choice. -/
structure ImportRequest (Hash : Type) where
  hash : Hash
  header : Header Hash
  aux : PowAux
  forkChoice : ForkChoiceStrategy

/-- The proof-of-work algorithm. -/
structure PowAlgorithm (Hash : Type) where
  difficulty : Hash -> List UInt8 -> Except (Error Hash) Nat
  breakTie : Seal -> Seal -> Bool
  verify : Hash -> Hash -> Option (List UInt8) -> Seal -> Nat ->
    Except (Error Hash) Bool

/-- By default the block seen first stays. -/
def defaultBreakTie (_ownSeal _newSeal : Seal) : Bool :=
  false

/-- The surroundings of the importer: the hash of a header, the engine id, the
algorithm, the height inherents are checked from and the import behind it. -/
structure Node (Hash : Type) where
  hash : Header Hash -> Hash
  powEngineId : ConsensusEngineId
  algorithm : PowAlgorithm Hash
  checkInherentsAfter : Nat
  inner : ImportRequest Hash -> Client Hash ->
    Except (Error Hash) (Client Hash)

/-- What the inherent providers and the runtime answer while one import
runs. -/
structure InherentAnswers (Hash : Type) where
  createInherentDataProviders : Except (Error Hash) Unit
  checkInherents : Except (Error Hash) Unit

variable {Hash : Type} [DecidableEq Hash]

/-!
## Reading the client
-/

/-- `PowAux::read`. -/
def readAux (s : Client Hash) (hash : Hash) : PowAux :=
  (s.aux.get hash).getD {}

def bestChain (s : Client Hash) : Except (Error Hash) (Header Hash) :=
  match s.headers.get s.best with
  | some header => Except.ok header
  | none => Except.error Error.chainLookup

/-- The header of `hash`, or the error both walks of `finality_conflicts`
raise. -/
def headerOf (s : Client Hash) (hash : Hash) :
    Except (Error Hash) (Header Hash) :=
  match s.headers.get hash with
  | some header => Except.ok header
  | none => Except.error (Error.headerNotFound hash)

/-- `while cur_number > target` of `finality_conflicts`: step to the parent and
count down. -/
def walkBack (s : Client Hash) (target : Nat) :
    Nat -> Hash -> Except (Error Hash) Hash
  | 0, curHash => Except.ok curHash
  | curNumber + 1, curHash =>
      if target < curNumber + 1 then do
        let header <- headerOf s curHash
        walkBack s target curNumber header.parentHash
      else
        Except.ok curHash

/-- `finality_conflicts`. -/
def finalityConflicts (s : Client Hash) (newHash : Hash) (newNumber : Nat)
    (parentHash finalizedHash : Hash) (finalizedNumber : Nat) :
    Except (Error Hash) Bool :=
  if newNumber ≤ finalizedNumber then do
    let curHash <- walkBack s newNumber finalizedNumber finalizedHash
    return decide (curHash ≠ newHash)
  else do
    let curHash <- walkBack s finalizedNumber (newNumber - 1) parentHash
    return decide (curHash ≠ finalizedHash)

/-!
## Digests
-/

def fetchSeal (node : Node Hash) (digest : Option DigestItem) (hash : Hash) :
    Except (Error Hash) Seal :=
  match digest with
  | some (DigestItem.seal engine data) =>
      if engine = node.powEngineId then Except.ok data
      else Except.error (Error.wrongEngine engine)
  | _ => Except.error (Error.headerUnsealed hash)

/-- The loop of `find_pre_digest` over the logs. -/
def findPreDigest (node : Node Hash) :
    Option (List UInt8) -> List DigestItem ->
      Except (Error Hash) (Option (List UInt8))
  | found, [] => Except.ok found
  | found, DigestItem.preRuntime engine data :: rest =>
      if engine = node.powEngineId then
        if found.isSome then Except.error Error.multiplePreRuntimeDigests
        else findPreDigest node (some data) rest
      else
        findPreDigest node found rest
  | found, _ :: rest => findPreDigest node found rest

/-!
## Importing
-/

def checkInherents (node : Node Hash) (answers : InherentAnswers Hash)
    (number : Nat) : Except (Error Hash) Unit := do
  answers.createInherentDataProviders
  if number < node.checkInherentsAfter then
    Except.ok ()
  else
    answers.checkInherents

/-- A block that comes with a body has its inherents checked, unless execution
checks are to be skipped. -/
def checkBody (node : Node Hash) (answers : InherentAnswers Hash)
    (block : BlockImportParams Hash) : Except (Error Hash) Unit :=
  if block.body.isSome ∧ block.skipExecutionChecks = false then
    checkInherents node answers block.header.number
  else
    Except.ok ()

def postHash (node : Node Hash) (block : BlockImportParams Hash) : Hash :=
  node.hash { block.header with logs := block.header.logs ++ block.postDigests }

def timestampInherent (block : BlockImportParams Hash) :
    Except (Error Hash) (List UInt8) :=
  match block.body with
  | some (first :: _) => Except.ok first
  | some [] => Except.error Error.missingTimestampInherent
  | none => Except.error Error.missingTimestampInherent

/-- The difficulty a block has to meet, once its seal has been verified
against it. -/
def verifiedDifficulty (node : Node Hash) (block : BlockImportParams Hash)
    (innerSeal : Seal) : Except (Error Hash) Nat := do
  let inherent <- timestampInherent block
  let difficulty <- node.algorithm.difficulty block.header.parentHash inherent
  let preHash := node.hash block.header
  let preDigest <- findPreDigest node none block.header.logs
  let verified <- node.algorithm.verify block.header.parentHash preHash
    preDigest innerSeal difficulty
  if verified then Except.ok difficulty else Except.error Error.invalidSeal

/-- Whether a block of the given total difficulty becomes the best one. -/
def chooseFork (node : Node Hash) (s : Client Hash)
    (block : BlockImportParams Hash) (bestHeader : Header Hash)
    (innerSeal : Seal) (totalDifficulty : Nat) :
    Except (Error Hash) ForkChoiceStrategy :=
  match block.forkChoice with
  | some strategy => Except.ok strategy
  | none => do
      let conflicts <- finalityConflicts s (postHash node block)
        block.header.number block.header.parentHash s.finalized
        s.finalizedNumber
      if conflicts then
        return ForkChoiceStrategy.custom false
      else
        match compare totalDifficulty (readAux s s.best).totalDifficulty with
        | Ordering.lt => return ForkChoiceStrategy.custom false
        | Ordering.gt => return ForkChoiceStrategy.custom true
        | Ordering.eq => do
            let bestSeal <- fetchSeal node bestHeader.logs.getLast? s.best
            return ForkChoiceStrategy.custom
              (node.algorithm.breakTie bestSeal innerSeal)

/-- `import_block`. -/
def importBlock (node : Node Hash) (answers : InherentAnswers Hash)
    (block : BlockImportParams Hash) (s : Client Hash) :
    Except (Error Hash) (Client Hash) := do
  let bestHeader <- bestChain s
  let parentAux := readAux s block.header.parentHash
  checkBody node answers block
  let innerSeal <- fetchSeal node block.postDigests.getLast?
    (node.hash block.header)
  let difficulty <- verifiedDifficulty node block innerSeal
  let aux : PowAux :=
    { difficulty := difficulty
      totalDifficulty := satAdd u256Max parentAux.totalDifficulty difficulty }
  let strategy <- chooseFork node s block bestHeader innerSeal
    aux.totalDifficulty
  node.inner
    { hash := postHash node block
      header :=
        { block.header with logs := block.header.logs ++ block.postDigests }
      aux := aux
      forkChoice := strategy } s

end Pow
end Numen
