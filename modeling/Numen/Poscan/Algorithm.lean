import Numen.Difficulty.FirstBlock
import Numen.Poscan.Seal
import Numen.Pow.Heaviest

/-!
# Proof of work through the runtime

`PoScanAlgorithm` asks the runtime of a block's parent for the difficulty the
block has to meet and for a verdict on its seal.  Every block a client gets to
store has then been scanned for, at the difficulty its own timestamp calls for.
-/

namespace Numen
namespace Poscan

open Foundation
open Numen.Pow (DigestItem Header Client BlockImportParams ImportRequest)

/-!
## The algorithm
-/

/-- `DifficultyApi` and `PowVerifyApi` at a block.  An error is a call that
could not be made, or that trapped. -/
structure RuntimeApi where
  difficultyForBlock : H256 -> List UInt8 -> Except Unit (Option Nat)
  verifySeal : H256 -> H256 -> List UInt8 -> U256 -> Except Unit Bool

def toU256 (difficulty : Nat) : U256 :=
  Fin.ofNat (2 ^ 256) difficulty

/-- `PoScanAlgorithm`.  Its ties are broken by the default, and the pre-runtime
digest plays no part beyond the pre-hash. -/
def poScanAlgorithm (api : RuntimeApi) : Pow.PowAlgorithm H256 where
  difficulty parent timestampInherent :=
    match api.difficultyForBlock parent timestampInherent with
    | Except.ok (some difficulty) => Except.ok difficulty
    | Except.ok none => Except.error Pow.Error.algorithm
    | Except.error _ => Except.error Pow.Error.algorithm
  breakTie := Pow.defaultBreakTie
  verify parent preHash _ rawSeal difficulty :=
    match api.verifySeal parent preHash rawSeal (toU256 difficulty) with
    | Except.ok verdict => Except.ok verdict
    | Except.error _ => Except.error Pow.Error.algorithm

/-- The runtime after each block: its difficulty pallet, if the state is still
there, and the scan its code runs.  An upgrade may change the scan from one
block to the next. -/
structure Runtime where
  cfg : Difficulty.Config
  decode : List UInt8 -> Option Difficulty.RuntimeCall
  stateAt : H256 -> Option Difficulty.State
  scanAt : H256 -> Scan

def Runtime.api (runtime : Runtime) : RuntimeApi where
  difficultyForBlock parent timestampInherent :=
    match runtime.stateAt parent with
    | none => Except.error ()
    | some state =>
        match Difficulty.difficultyForBlock runtime.decode runtime.cfg state
            timestampInherent with
        | Except.ok difficulty => Except.ok difficulty
        | Except.error _ => Except.error ()
  verifySeal parent preHash rawSeal difficulty :=
    match runtime.stateAt parent with
    | none => Except.error ()
    | some _ => Except.ok (PowVerifyApi.verifySeal (runtime.scanAt parent)
        preHash rawSeal difficulty)

/-!
## What a verified block shows
-/

/-- The difficulty demanded of a block with timestamp `now` on top of
`parent`. -/
def Runtime.Demands (runtime : Runtime) (parent : H256) (now : UInt64)
    (difficulty : Nat) : Prop :=
  exists state, runtime.stateAt parent = some state ∧
    Difficulty.realtimeDifficulty runtime.cfg state (now.toNat / 1000) =
      Except.ok difficulty

theorem Runtime.Demands.lt {runtime : Runtime} {parent : H256} {now : UInt64}
    {difficulty : Nat} (h : runtime.Demands parent now difficulty) :
    difficulty < 2 ^ 256 := by
  rcases h with ⟨state, _, hdifficulty⟩
  rcases except_bind_eq_ok hdifficulty with ⟨target, htarget, hdivide⟩
  rw [divide_of_pos u256Max (Difficulty.computeNextTarget_range htarget).left]
    at hdivide
  cases hdivide
  exact Nat.lt_of_le_of_lt (Nat.div_le_self u256Max target) (by decide)

theorem poScan_difficulty_ok {runtime : Runtime} {parent : H256}
    {inherent : List UInt8} {difficulty : Nat}
    (h : (poScanAlgorithm runtime.api).difficulty parent inherent =
      Except.ok difficulty) :
    exists now, runtime.decode inherent =
        some (Difficulty.RuntimeCall.timestampSet now) ∧
      runtime.Demands parent now difficulty := by
  unfold poScanAlgorithm Runtime.api at h
  dsimp only at h
  cases hstate : runtime.stateAt parent with
  | none =>
      rw [hstate] at h
      cases h
  | some state =>
      rw [hstate] at h
      dsimp only at h
      unfold Difficulty.difficultyForBlock
        Difficulty.timestampFromInherent at h
      rcases hdecode : runtime.decode inherent with _ | (now | _)
      · rw [hdecode] at h
        cases h
      · rw [hdecode] at h
        refine ⟨now, rfl, state, hstate, ?_⟩
        cases hdemand : Difficulty.realtimeDifficulty runtime.cfg state
            (now.toNat / 1000) with
        | error panic =>
            simp only [hdemand] at h
            cases h
        | ok demanded =>
            simp only [hdemand] at h
            cases h
            rfl
      · rw [hdecode] at h
        cases h

theorem poScan_verify_ok {runtime : Runtime} {parent preHash : H256}
    {preDigest : Option (List UInt8)} {rawSeal : List UInt8}
    {difficulty : Nat} (hfits : difficulty < 2 ^ 256)
    (h : (poScanAlgorithm runtime.api).verify parent preHash preDigest rawSeal
      difficulty = Except.ok true) :
    exists nonce work, runtime.scanAt parent preHash nonce = some work ∧
      numHash work * difficulty < 2 ^ 256 ∧
      rawSeal = (⟨nonce, work⟩ : Seal).encode := by
  unfold poScanAlgorithm Runtime.api at h
  dsimp only at h
  cases hstate : runtime.stateAt parent with
  | none =>
      rw [hstate] at h
      cases h
  | some state =>
      rw [hstate] at h
      have haccepts := (PowVerifyApi.verifySeal_iff _ _ _ _).mp
        (Except.ok.inj h)
      rcases (verifySeal_accepts _ _ _ _).mp haccepts with
        ⟨nonce, work, hscan, hmeets, hraw⟩
      refine ⟨nonce, work, hscan, ?_, ?_⟩
      · have hvalue : (toU256 difficulty).val = difficulty :=
          Nat.mod_eq_of_lt hfits
        rw [hvalue] at hmeets
        exact hmeets
      · rw [Seal.encode_eq]
        exact hraw

/-!
## What an import commits
-/

theorem fetchSeal_ok {node : Pow.Node H256} {digest : Option DigestItem}
    {hash : H256} {rawSeal : Pow.Seal}
    (h : Pow.fetchSeal node digest hash = Except.ok rawSeal) :
    digest = some (DigestItem.seal node.powEngineId rawSeal) := by
  unfold Pow.fetchSeal at h
  split at h
  · split at h
    · rename_i hengine
      cases h
      rw [hengine]
    · cases h
  · cases h

/-- The facts `import_block` establishes about a block before it commits it. -/
structure Checked (node : Pow.Node H256) (block : BlockImportParams H256)
    (request : ImportRequest H256) (rawSeal : Pow.Seal) : Prop where
  hash_eq : request.hash = Pow.postHash node block
  header_eq : request.header =
    { block.header with logs := block.header.logs ++ block.postDigests }
  sealed : block.postDigests.getLast? =
    some (DigestItem.seal node.powEngineId rawSeal)
  verified : exists inherent preDigest,
    Pow.timestampInherent block = Except.ok inherent ∧
      node.algorithm.difficulty block.header.parentHash inherent =
        Except.ok request.aux.difficulty ∧
      node.algorithm.verify block.header.parentHash (node.hash block.header)
        preDigest rawSeal request.aux.difficulty = Except.ok true

theorem importBlock_checked {node : Pow.Node H256} (hlawful : node.Lawful)
    {answers : Pow.InherentAnswers H256} {block : BlockImportParams H256}
    {s t : Client H256}
    (h : Pow.importBlock node answers block s = Except.ok t) :
    t = s ∨ exists request rawSeal, Pow.Fresh request s ∧
      Checked node block request rawSeal ∧ t = Pow.commit request s := by
  unfold Pow.importBlock at h
  rcases except_bind_eq_ok h with ⟨bestHeader, _, h⟩
  dsimp only at h
  rcases except_bind_eq_ok h with ⟨_, _, h⟩
  rcases except_bind_eq_ok h with ⟨rawSeal, hseal, h⟩
  rcases except_bind_eq_ok h with ⟨difficulty, hverified, h⟩
  rcases except_bind_eq_ok h with ⟨strategy, _, hinner⟩
  rcases hlawful _ s t hinner with hsame | ⟨hfresh, hcommit⟩
  · exact Or.inl hsame
  · refine Or.inr ⟨_, rawSeal, hfresh,
      ⟨rfl, rfl, fetchSeal_ok hseal, ?_⟩, hcommit⟩
    unfold Pow.verifiedDifficulty at hverified
    rcases except_bind_eq_ok hverified with ⟨inherent, hinherent, hverified⟩
    rcases except_bind_eq_ok hverified with ⟨demanded, hdemanded, hverified⟩
    dsimp only at hverified
    rcases except_bind_eq_ok hverified with ⟨preDigest, _, hverified⟩
    rcases except_bind_eq_ok hverified with ⟨verdict, hverdict, hverified⟩
    cases verdict with
    | false => cases hverified
    | true =>
        cases hverified
        exact ⟨inherent, preDigest, hinherent, hdemanded, hverdict⟩

/-!
## Nothing is stored without its work
-/

/-- `b` is stored as `block`.  The block ends in a seal whose nonce scans, over
the hash of the header as it was built, to work that meets the difficulty
recorded for `b`.  That difficulty is the one demanded at `now`, which the
first extrinsic of the block sets. -/
structure CarriedBy (runtime : Runtime) (node : Pow.Node H256)
    (s : Client H256) (b : H256) (block : BlockImportParams H256)
    (nonce : U256) (work : H256) (now : UInt64) : Prop where
  hash_eq : Pow.postHash node block = b
  stored : s.headers.get b =
    some { block.header with logs := block.header.logs ++ block.postDigests }
  sealed : block.postDigests.getLast? = some
    (DigestItem.seal node.powEngineId (⟨nonce, work⟩ : Seal).encode)
  scanned : runtime.scanAt block.header.parentHash (node.hash block.header)
    nonce = some work
  dated : (Pow.timestampInherent block).toOption.bind runtime.decode =
    some (Difficulty.RuntimeCall.timestampSet now)
  demanded : runtime.Demands block.header.parentHash now
    (Pow.readAux s b).difficulty
  meets : numHash work * (Pow.readAux s b).difficulty < 2 ^ 256

/-- One of the offered blocks is stored as `b` and carries the work for it. -/
def CarriesWork (runtime : Runtime) (node : Pow.Node H256)
    (offered : BlockImportParams H256 -> Prop) (s : Client H256)
    (b : H256) : Prop :=
  exists block nonce work now, offered block ∧
    CarriedBy runtime node s b block nonce work now

section Runs

variable {runtime : Runtime} {node : Pow.Node H256}
variable {offered : BlockImportParams H256 -> Prop}
variable {block : BlockImportParams H256} {request : ImportRequest H256}
variable {s : Client H256}

theorem Checked.carriedBy
    (halgorithm : node.algorithm = poScanAlgorithm runtime.api)
    {rawSeal : Pow.Seal} (h : Checked node block request rawSeal) :
    exists nonce work now, CarriedBy runtime node (Pow.commit request s)
      request.hash block nonce work now := by
  rcases h.verified with
    ⟨inherent, preDigest, hinherent, hdifficulty, hverify⟩
  rw [halgorithm] at hdifficulty hverify
  rcases poScan_difficulty_ok hdifficulty with ⟨now, hdecode, hdemands⟩
  rcases poScan_verify_ok hdemands.lt hverify with
    ⟨nonce, work, hscan, hmeets, hraw⟩
  have haux : (Pow.readAux (Pow.commit request s) request.hash).difficulty =
      request.aux.difficulty := by
    rw [Pow.readAux_commit, if_pos rfl]
  refine ⟨nonce, work, now,
    { hash_eq := h.hash_eq.symm
      stored := ?_
      sealed := ?_
      scanned := hscan
      dated := ?_
      demanded := ?_
      meets := ?_ }⟩
  · rw [Pow.get_headers_commit, if_pos rfl, h.header_eq]
  · rw [← hraw]
    exact h.sealed
  · rw [hinherent]
    exact hdecode
  · rw [haux]
    exact hdemands
  · rw [haux]
    exact hmeets

theorem CarriesWork.of_same {t : Client H256} {b : H256}
    (hheader : t.headers.get b = s.headers.get b)
    (haux : Pow.readAux t b = Pow.readAux s b)
    (h : CarriesWork runtime node offered s b) :
    CarriesWork runtime node offered t b := by
  rcases h with ⟨block, nonce, work, now, hoffered, hcarried⟩
  refine ⟨block, nonce, work, now, hoffered,
    { hcarried with stored := ?_, demanded := ?_, meets := ?_ }⟩
  · rw [hheader]
    exact hcarried.stored
  · rw [haux]
    exact hcarried.demanded
  · rw [haux]
    exact hcarried.meets

theorem CarriesWork.commit (hfresh : Pow.Fresh request s) {b : H256}
    (h : CarriesWork runtime node offered s b) :
    CarriesWork runtime node offered (Pow.commit request s) b := by
  have hne : b ≠ request.hash := by
    rcases h with ⟨_, _, _, _, _, hcarried⟩
    exact hfresh.ne_of_stored ⟨_, hcarried.stored⟩
  refine h.of_same ?_ ?_
  · rw [Pow.get_headers_commit, if_neg hne]
  · rw [Pow.readAux_commit, if_neg hne]

/-- Every stored block but block zero carries its work. -/
def AllCarryWork (runtime : Runtime) (node : Pow.Node H256)
    (offered : BlockImportParams H256 -> Prop) (s : Client H256) : Prop :=
  forall b header, s.headers.get b = some header -> header.number ≠ 0 ->
    CarriesWork runtime node offered s b

theorem step_allCarryWork (hlawful : node.Lawful)
    (halgorithm : node.algorithm = poScanAlgorithm runtime.api)
    (label : Pow.Label H256)
    (hlabel : forall answers block t,
      label = Pow.Label.importBlock answers block ->
        Pow.importBlock node answers block s = Except.ok t -> offered block)
    (hs : AllCarryWork runtime node offered s) :
    AllCarryWork runtime node offered (Pow.step node s label) := by
  cases label with
  | finalize hash =>
      intro b header hget hnumber
      exact CarriesWork.of_same (s := s) rfl rfl (hs b header hget hnumber)
  | importBlock answers block =>
      cases himport : Pow.importBlock node answers block s with
      | error error =>
          simp only [Pow.step, himport]
          exact hs
      | ok t =>
          simp only [Pow.step, himport]
          rcases importBlock_checked hlawful himport with
            rfl | ⟨request, rawSeal, hfresh, hchecked, rfl⟩
          · exact hs
          · intro b header hget hnumber
            rw [Pow.get_headers_commit] at hget
            split at hget
            · rename_i hnew
              rw [hnew]
              rcases hchecked.carriedBy halgorithm with
                ⟨nonce, work, now, hcarried⟩
              exact ⟨block, nonce, work, now,
                hlabel answers block _ rfl himport, hcarried⟩
            · exact (hs b header hget hnumber).commit hfresh

theorem genesis_allCarryWork (genesis : H256) {header : Header H256}
    (hzero : header.number = 0) :
    AllCarryWork runtime node offered (Pow.genesisClient genesis header) := by
  intro b header' hget hnumber
  have hinsert : (Pow.genesisClient genesis header).headers.get b =
      if b = genesis then some header else StorageMap.empty.get b :=
    StorageMap.get_insert StorageMap.empty genesis b header
  rw [hget, StorageMap.get_empty] at hinsert
  split at hinsert
  · cases hinsert
    exact absurd hzero hnumber
  · cases hinsert

def OfferedIn (labels : List (Pow.Label H256))
    (block : BlockImportParams H256) : Prop :=
  exists answers, Pow.Label.importBlock answers block ∈ labels

theorem allCarryWork_of_reachedBy (hlawful : node.Lawful)
    (halgorithm : node.algorithm = poScanAlgorithm runtime.api)
    {genesis : H256} {header : Header H256} {labels : List (Pow.Label H256)}
    (h : Pow.ReachedBy node genesis header labels s) :
    AllCarryWork runtime node (OfferedIn labels) s := by
  rcases h with ⟨hzero, hrun⟩
  refine Run.preserves (AllCarryWork runtime node (OfferedIn labels)) ?_
    hrun.labelled (genesis_allCarryWork genesis hzero)
  intro _ label hallowed hs
  refine step_allCarryWork hlawful halgorithm label ?_ hs
  intro answers block _ hlabel _
  rw [hlabel] at hallowed
  exact ⟨answers, hallowed.right⟩

/-- Whatever is imported and finalized in any order: the total difficulty a
client holds for a block is the sum over the blocks that lead to it, up to the
largest number, and each of those blocks carries the work it counts for. -/
theorem stored_blocks_carry_their_work (hlawful : node.Lawful)
    (halgorithm : node.algorithm = poScanAlgorithm runtime.api)
    {genesis : H256} {header : Header H256} {labels : List (Pow.Label H256)}
    (h : Pow.ReachedBy node genesis header labels s) {b : H256}
    {blocks : List H256} (hlineage : Pow.Lineage s b blocks) :
    Pow.totalOf s b =
        min (blocks.map fun x => (Pow.readAux s x).difficulty).sum u256Max ∧
      ∀ x ∈ blocks, CarriesWork runtime node (OfferedIn labels) s x := by
  have hheaviest : Pow.Heaviest s :=
    Run.preserves Pow.Heaviest
      (fun _ _ hallowed hs => Pow.step_heaviest hlawful hallowed hs) h.right
      (Pow.genesis_heaviest genesis h.left)
  have hwork := allCarryWork_of_reachedBy hlawful halgorithm h
  refine ⟨hheaviest.totals.totalOf_eq_sum hlineage, ?_⟩
  induction hlineage with
  | zero hget hnumber =>
      intro x hmem
      cases hmem
  | child hparent _ ih =>
      intro x hmem
      rcases List.mem_cons.mp hmem with rfl | hrest
      · rcases Pow.parentOf_eq_some.mp hparent with ⟨header, hget, hnumber, _⟩
        exact hwork x header hget hnumber
      · exact ih x hrest

end Runs

/-!
## A small instance
-/

/-- Every block runs on the state after block one, and every nonce scans to
one. -/
def toyRuntime : Runtime where
  cfg := Difficulty.mainnet
  decode := Difficulty.decodeBareTimestamp
  stateAt := fun _ => some Difficulty.anchoredAtBlockOne
  scanAt := fun _ => unitScan

/-- Headers hash to the number of their logs. -/
def toyScanNode : Pow.Node H256 where
  hash := fun header =>
    BigEndian.word 32 header.logs.length
  powEngineId := Pow.toyNode.powEngineId
  algorithm := poScanAlgorithm toyRuntime.api
  checkInherentsAfter := 0
  inner := Pow.commitFresh

/-- A child of block zero with a seal for nonce five, an hour after block one. -/
def toyScanned : BlockImportParams H256 where
  header := { parentHash := Bytes.replicate 32 0, number := 1, logs := [] }
  postDigests := [DigestItem.seal toyScanNode.powEngineId
    (⟨5, BigEndian.word 32 1⟩ : Seal).encode]
  body := some [Difficulty.bareTimestamp 1700003610000]
  skipExecutionChecks := false
  forkChoice := none

theorem toyScanNode_lawful : toyScanNode.Lawful :=
  Pow.lawful_of_commitFresh rfl

/-- The block is imported at the difficulty of its time, a quarter of what the
chain started at. -/
theorem toy_scan_is_carried :
    let zero : Header H256 :=
      { parentHash := Bytes.replicate 32 0, number := 0, logs := [] }
    let s := Pow.step toyScanNode
      (Pow.genesisClient (Bytes.replicate 32 0) zero)
      (Pow.Label.importBlock ⟨Except.ok (), Except.ok ()⟩ toyScanned)
    let b := Pow.postHash toyScanNode toyScanned
    Pow.totalOf s b = 250 ∧ CarriesWork toyRuntime toyScanNode
      (fun block => block = toyScanned) s b := by
  intro zero s b
  have hreached : Pow.ReachedBy toyScanNode (Bytes.replicate 32 0) zero
      [Pow.Label.importBlock ⟨Except.ok (), Except.ok ()⟩ toyScanned] s :=
    ⟨rfl, Run.single rfl⟩
  have hparent : Pow.parentOf s b = some (Bytes.replicate 32 0) := by
    decide +kernel
  have hroot : exists header,
      s.headers.get (Bytes.replicate 32 0) = some header ∧
        header.number = 0 := by
    refine Option.map_eq_some_iff.mp ?_
    decide +kernel
  rcases hroot with ⟨header, hget, hnumber⟩
  have hlineage : Pow.Lineage s b [b] :=
    Pow.Lineage.child hparent (Pow.Lineage.zero hget hnumber)
  have halgorithm : toyScanNode.algorithm = poScanAlgorithm toyRuntime.api :=
    rfl
  have hmain := stored_blocks_carry_their_work toyScanNode_lawful halgorithm
    hreached hlineage
  rcases hmain.right b List.mem_cons_self with
    ⟨block, nonce, work, now, ⟨answers, hmem⟩, hcarried⟩
  cases List.mem_singleton.mp hmem
  refine ⟨?_, toyScanned, nonce, work, now, rfl, hcarried⟩
  decide +kernel

end Poscan
end Numen
