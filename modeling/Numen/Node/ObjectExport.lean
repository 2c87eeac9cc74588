import Numen.Poscan.Algorithm
import Numen.Poscan.Work

/-!
# Exporting the model of a block

A block records the nonce of its miner's model only.  `poscan_getObject` takes
the seal off the stored header, regrows the mesh in the runtime of the parent,
which is the one that verified the block, and writes it out as OBJ text.
-/

namespace Numen
namespace Node

open Foundation
open Numen.Poscan (H256 U256 Word64 Word32 Mesh Pipeline Runtime Compute)
open Numen.Pow (DigestItem Header Client)

/-!
## The mesh on its way to the node
-/

def tripleCodec {Item : Type} (codec : Codec Item) :
    Codec (Item × Item × Item) :=
  codec.pair (codec.pair codec)

/-- `WireMesh`. -/
def wireMeshCodec : Codec Mesh :=
  ((tripleCodec Poscan.word64Codec).vec.pair
    (tripleCodec (Codec.littleEndian 4 (2 ^ 32) (by decide))).vec).imap
    (fun fields => ⟨fields.1, fields.2⟩)
    (fun mesh => (mesh.vertices, mesh.faces)) (fun _ => rfl) (fun _ => rfl)

/-- The runtime at each block, with the revision of the protocol it scans by. -/
structure ObjectRuntime (n : Nat) where
  runtime : Runtime
  pipelineAt : H256 -> Pipeline n
  scanAt_eq : forall parent, runtime.scanAt parent = (pipelineAt parent).toScan

/-- `generate_mesh` of the runtime API at `parent`. -/
def ObjectRuntime.generateMesh {n : Nat} (objects : ObjectRuntime n)
    (parent preHash : H256) (nonce : U256) : List UInt8 :=
  wireMeshCodec.encode ((objects.pipelineAt parent).mesh ⟨preHash, nonce⟩)

/-!
## OBJ text
-/

structure Formatter where
  float : Word64 -> List Char
  index : Word32 -> List Char

def vertexLine (fmt : Formatter) (v : Word64 × Word64 × Word64) : List Char :=
  'v' :: ' ' :: (fmt.float v.1 ++ ' ' :: (fmt.float v.2.1 ++
    ' ' :: fmt.float v.2.2))

def faceLine (fmt : Formatter) (f : Word32 × Word32 × Word32) : List Char :=
  'f' :: ' ' :: (fmt.index (f.1 + 1) ++ ' ' :: (fmt.index (f.2.1 + 1) ++
    ' ' :: fmt.index (f.2.2 + 1)))

def objLines (fmt : Formatter) (mesh : Mesh) : List (List Char) :=
  mesh.vertices.val.map (vertexLine fmt) ++ mesh.faces.val.map (faceLine fmt)

def writeObj (fmt : Formatter) (mesh : Mesh) : List Char :=
  terminated '\n' (objLines fmt mesh)

/-!
## The call
-/

inductive ObjectError where
  | unknownBlock
  | noSeal
  | sealDecodeFailed
  | generateMeshFailed
  | meshDecodeFailed
deriving DecidableEq

def ObjectError.code : ObjectError -> Int
  | ObjectError.unknownBlock => 9101
  | ObjectError.noSeal => 9102
  | _ => 9103

/-- The seal at the end of the logs, and what is left without it. -/
def popSeal (node : Pow.Node H256) (logs : List DigestItem) :
    Option (List DigestItem × Pow.Seal) :=
  match logs.getLast? with
  | some (DigestItem.seal engine data) =>
      if engine = node.powEngineId then some (logs.dropLast, data) else none
  | _ => none

/-- `retained` tells whether the state of a block is still there to call its
runtime. -/
def getObject {n : Nat} (objects : ObjectRuntime n) (node : Pow.Node H256)
    (retained : H256 -> Bool) (fmt : Formatter) (client : Client H256)
    (blockHash : H256) : Except ObjectError (List Char) :=
  match client.headers.get blockHash with
  | none => Except.error ObjectError.unknownBlock
  | some header =>
      match popSeal node header.logs with
      | none => Except.error ObjectError.noSeal
      | some (logs, sealBytes) =>
          let preHash := node.hash { header with logs := logs }
          match Poscan.Seal.codec.decode sealBytes with
          | none => Except.error ObjectError.sealDecodeFailed
          | some (found, _) =>
              if retained header.parentHash then
                match wireMeshCodec.decode (objects.generateMesh
                    header.parentHash preHash found.nonce) with
                | none => Except.error ObjectError.meshDecodeFailed
                | some (mesh, _) => Except.ok (writeObj fmt mesh)
              else
                Except.error ObjectError.generateMeshFailed

/-!
## What comes out
-/

section Export

variable {n : Nat} {objects : ObjectRuntime n} {node : Pow.Node H256}
variable {fmt : Formatter}

theorem decode_generateMesh (objects : ObjectRuntime n)
    (parent preHash : H256) (nonce : U256) :
    wireMeshCodec.decode (objects.generateMesh parent preHash nonce) =
      some ((objects.pipelineAt parent).mesh ⟨preHash, nonce⟩, []) := by
  refine (wireMeshCodec.decode_iff _ _ _).mpr ?_
  rw [List.append_nil]
  rfl

/-- With one seal behind the logs the pre-hash is that of the header without
it. -/
theorem getObject_eq {retained : H256 -> Bool} {client : Client H256}
    {blockHash : H256} (header : Header H256) (found : Poscan.Seal)
    (hget : client.headers.get blockHash = some
      { header with logs := header.logs ++
          [DigestItem.seal node.powEngineId found.encode] })
    (hretained : retained header.parentHash = true) :
    getObject objects node retained fmt client blockHash =
      Except.ok (writeObj fmt ((objects.pipelineAt header.parentHash).mesh
        ⟨node.hash header, found.nonce⟩)) := by
  have hpop : popSeal node (header.logs ++
      [DigestItem.seal node.powEngineId found.encode]) =
        some (header.logs, found.encode) := by
    unfold popSeal
    rw [List.getLast?_concat]
    dsimp only
    rw [if_pos rfl, List.dropLast_concat]
  have hdecode : Poscan.Seal.codec.decode found.encode = some (found, []) := by
    refine (Poscan.Seal.codec.decode_iff _ _ _).mpr ?_
    rw [List.append_nil]
    rfl
  unfold getObject
  rw [hget]
  dsimp only
  rw [hpop]
  dsimp only
  rw [hdecode]
  dsimp only
  rw [if_pos hretained, decode_generateMesh]

/-!
## What the text tells
-/

/-- Displayed numbers hold neither blanks nor line breaks, and among `numbers`
they can be told apart.  Not every `f64` is a number. -/
structure Formatter.Lawful (fmt : Formatter) (numbers : Word64 -> Prop) :
    Prop where
  float_inj : forall a b, numbers a -> numbers b ->
    fmt.float a = fmt.float b -> a = b
  index_inj : forall a b, fmt.index a = fmt.index b -> a = b
  float_plain : forall a, ' ' ∉ fmt.float a ∧ '\n' ∉ fmt.float a
  index_plain : forall a, ' ' ∉ fmt.index a ∧ '\n' ∉ fmt.index a

def Numeric (numbers : Word64 -> Prop) (mesh : Mesh) : Prop :=
  ∀ v ∈ mesh.vertices.val, numbers v.1 ∧ numbers v.2.1 ∧ numbers v.2.2

variable {numbers : Word64 -> Prop}

theorem words_inj {x y z x' y' z' : List Char} (hx : ' ' ∉ x) (hx' : ' ' ∉ x')
    (hy : ' ' ∉ y) (hy' : ' ' ∉ y')
    (h : x ++ ' ' :: (y ++ ' ' :: z) = x' ++ ' ' :: (y' ++ ' ' :: z')) :
    x = x' ∧ y = y' ∧ z = z' := by
  rcases append_sep_inj hx hx' h with ⟨hfirst, hrest⟩
  rcases append_sep_inj hy hy' hrest with ⟨hsecond, hthird⟩
  exact ⟨hfirst, hsecond, hthird⟩

theorem vertexLine_inj (hlawful : fmt.Lawful numbers)
    {v v' : Word64 × Word64 × Word64}
    (hv : numbers v.1 ∧ numbers v.2.1 ∧ numbers v.2.2)
    (hv' : numbers v'.1 ∧ numbers v'.2.1 ∧ numbers v'.2.2)
    (h : vertexLine fmt v = vertexLine fmt v') : v = v' := by
  have hwords := (List.cons.inj (List.cons.inj h).right).right
  rcases words_inj (hlawful.float_plain _).left (hlawful.float_plain _).left
    (hlawful.float_plain _).left (hlawful.float_plain _).left hwords with
    ⟨hx, hy, hz⟩
  refine Prod.ext (hlawful.float_inj _ _ hv.left hv'.left hx) (Prod.ext ?_ ?_)
  · exact hlawful.float_inj _ _ hv.right.left hv'.right.left hy
  · exact hlawful.float_inj _ _ hv.right.right hv'.right.right hz

theorem index_succ_inj {a b : Word32} (h : a + 1 = b + 1) : a = b := by
  apply Fin.ext
  have hval := congrArg Fin.val h
  rw [Fin.val_add, Fin.val_add] at hval
  change (a.val + 1) % 2 ^ 32 = (b.val + 1) % 2 ^ 32 at hval
  have ha := a.isLt
  have hb := b.isLt
  lia

theorem faceLine_inj (hlawful : fmt.Lawful numbers)
    {f f' : Word32 × Word32 × Word32}
    (h : faceLine fmt f = faceLine fmt f') : f = f' := by
  have hwords := (List.cons.inj (List.cons.inj h).right).right
  rcases words_inj (hlawful.index_plain _).left (hlawful.index_plain _).left
    (hlawful.index_plain _).left (hlawful.index_plain _).left hwords with
    ⟨hx, hy, hz⟩
  refine Prod.ext ?_ (Prod.ext ?_ ?_)
  · exact index_succ_inj (hlawful.index_inj _ _ hx)
  · exact index_succ_inj (hlawful.index_inj _ _ hy)
  · exact index_succ_inj (hlawful.index_inj _ _ hz)

theorem newline_notMem_objLines (hlawful : fmt.Lawful numbers) (mesh : Mesh) :
    ∀ line ∈ objLines fmt mesh, '\n' ∉ line := by
  intro line hmem
  rcases List.mem_append.mp hmem with hvertex | hface
  · rcases List.mem_map.mp hvertex with ⟨v, _, rfl⟩
    have hplain := fun a => (hlawful.float_plain a).right
    simp [vertexLine, hplain]
  · rcases List.mem_map.mp hface with ⟨f, _, rfl⟩
    have hplain := fun a => (hlawful.index_plain a).right
    simp [faceLine, hplain]

theorem filter_objLines (fmt : Formatter) (mesh : Mesh) :
    (objLines fmt mesh).filter (fun line => line.head? = some 'v') =
        mesh.vertices.val.map (vertexLine fmt) ∧
      (objLines fmt mesh).filter (fun line => line.head? = some 'f') =
        mesh.faces.val.map (faceLine fmt) := by
  unfold objLines
  rw [List.filter_append, List.filter_append]
  constructor
  · rw [List.filter_eq_self.mpr, List.filter_eq_nil_iff.mpr, List.append_nil]
    · intro line hmem
      rcases List.mem_map.mp hmem with ⟨f, _, rfl⟩
      simp [faceLine]
    · intro line hmem
      rcases List.mem_map.mp hmem with ⟨v, _, rfl⟩
      simp [vertexLine]
  · rw [List.filter_eq_nil_iff.mpr, List.filter_eq_self.mpr, List.nil_append]
    · intro line hmem
      rcases List.mem_map.mp hmem with ⟨f, _, rfl⟩
      simp [faceLine]
    · intro line hmem
      rcases List.mem_map.mp hmem with ⟨v, _, rfl⟩
      simp [vertexLine]

theorem writeObj_inj (hlawful : fmt.Lawful numbers) {mesh mesh' : Mesh}
    (hmesh : Numeric numbers mesh) (hmesh' : Numeric numbers mesh')
    (h : writeObj fmt mesh = writeObj fmt mesh') : mesh = mesh' := by
  have hlines : objLines fmt mesh = objLines fmt mesh' :=
    terminated_inj (newline_notMem_objLines hlawful mesh)
      (newline_notMem_objLines hlawful mesh') h
  have hvertices : mesh.vertices.val = mesh'.vertices.val := by
    refine map_inj_on ?_ ((filter_objLines fmt mesh).left.symm.trans
      (hlines ▸ (filter_objLines fmt mesh').left))
    intro v hv v' hv' hline
    exact vertexLine_inj hlawful (hmesh v hv) (hmesh' v' hv') hline
  have hfaces : mesh.faces.val = mesh'.faces.val := by
    refine map_inj_on ?_ ((filter_objLines fmt mesh).right.symm.trans
      (hlines ▸ (filter_objLines fmt mesh').right))
    intro f _ f' _ hline
    exact faceLine_inj hlawful hline
  cases mesh
  cases mesh'
  exact congrArg₂ Mesh.mk (Subtype.ext hvertices) (Subtype.ext hfaces)

/-!
## From the chain to the text
-/

/-- Whatever was imported, in whatever order, each block with nothing but its
seal behind its header: as long as the state of its parent is kept, a stored
block other than block zero is answered with the text of the very mesh whose
scan is the work that met the block's difficulty, and of no other mesh of
numbers. -/
theorem exported_object_is_the_mined_one (hlawful : node.Lawful)
    (halgorithm : node.algorithm =
      Poscan.poScanAlgorithm objects.runtime.api)
    {genesis : H256} {zero : Header H256} {labels : List (Pow.Label H256)}
    {s : Client H256} (h : Pow.ReachedBy node genesis zero labels s)
    (hdigests : forall block, Poscan.OfferedIn labels block ->
      block.postDigests.length = 1)
    (hfmt : fmt.Lawful numbers) (retained : H256 -> Bool) {b : H256}
    {header : Header H256} (hget : s.headers.get b = some header)
    (hnumber : header.number ≠ 0)
    (hretained : retained header.parentHash = true) :
    exists preHash nonce work,
      let pipeline := objects.pipelineAt header.parentHash
      let mesh := pipeline.mesh ⟨preHash, nonce⟩
      getObject objects node retained fmt s b =
          Except.ok (writeObj fmt mesh) ∧
        pipeline.workOf mesh preHash = some work ∧
        Poscan.numHash work * (Pow.readAux s b).difficulty < 2 ^ 256 ∧
        (Numeric numbers mesh -> forall other, Numeric numbers other ->
          getObject objects node retained fmt s b =
            Except.ok (writeObj fmt other) -> other = mesh) := by
  rcases Poscan.allCarryWork_of_reachedBy hlawful halgorithm h b header hget
    hnumber with ⟨block, nonce, work, now, hoffered, hcarried⟩
  -- the seal is all there is behind the built header
  have hpost : block.postDigests = [DigestItem.seal node.powEngineId
      (⟨nonce, work⟩ : Poscan.Seal).encode] := by
    rcases List.length_eq_one_iff.mp (hdigests block hoffered) with ⟨item, hitem⟩
    have hsealed := hcarried.sealed
    rw [hitem] at hsealed ⊢
    cases hsealed
    rfl
  have hstored := hcarried.stored
  rw [hpost] at hstored
  have hparent : header.parentHash = block.header.parentHash := by
    rw [hget] at hstored
    cases hstored
    rfl
  rw [hparent] at hretained ⊢
  have hobject : getObject objects node retained fmt s b =
      Except.ok (writeObj fmt ((objects.pipelineAt
        block.header.parentHash).mesh ⟨node.hash block.header, nonce⟩)) :=
    getObject_eq block.header ⟨nonce, work⟩ hstored hretained
  have hwork := hcarried.scanned
  rw [objects.scanAt_eq] at hwork
  refine ⟨node.hash block.header, nonce, work, ?_⟩
  intro pipeline mesh
  refine ⟨hobject, hwork, hcarried.meets, ?_⟩
  intro hmesh other hother htext
  rw [hobject] at htext
  exact (writeObj_inj hfmt hmesh hother (Except.ok.inj htext)).symm

end Export

/-!
## A triangle
-/

def oneBits : Word64 :=
  0x3FF0000000000000

def triangle : Mesh where
  vertices := ⟨[(0, 0, 0), (oneBits, 0, 0), (0, oneBits, 0)], by decide⟩
  faces := ⟨[(0, 1, 2)], by decide⟩

def trianglePipeline : Pipeline 0 :=
  { Poscan.toyPipeline with asteroid := fun _ => triangle }

def triangleObjects : ObjectRuntime 0 where
  runtime := Poscan.toyRuntime
  pipelineAt := fun _ => trianglePipeline
  scanAt_eq := fun _ => rfl

/-- Indices in decimal.  Of the floats it knows zero and one. -/
def decimal : Formatter where
  float := fun a => if a = oneBits then ['1'] else Nat.toDigits 10 a.val
  index := fun a => Nat.toDigits 10 a.val

theorem toDigits_inj {a b : Nat} (h : Nat.toDigits 10 a = Nat.toDigits 10 b) :
    a = b := by
  rw [← Nat.ofDigitChars_ten_toDigits (n := a), h,
    Nat.ofDigitChars_ten_toDigits]

theorem toDigits_plain (n : Nat) :
    ' ' ∉ Nat.toDigits 10 n ∧ '\n' ∉ Nat.toDigits 10 n := by
  constructor
  · intro hmem
    cases Nat.isDigit_of_mem_toDigits (by decide) (by decide) hmem
  · intro hmem
    cases Nat.isDigit_of_mem_toDigits (by decide) (by decide) hmem

theorem decimal_lawful : decimal.Lawful fun a => a = 0 ∨ a = oneBits where
  float_inj := by
    rintro a b (rfl | rfl) (rfl | rfl) h
    · rfl
    · exact absurd h (by decide +kernel)
    · exact absurd h (by decide +kernel)
    · rfl
  index_inj := by
    intro a b h
    exact Fin.ext (toDigits_inj h)
  float_plain := by
    intro a
    unfold decimal
    dsimp only
    split
    · decide
    · exact toDigits_plain a.val
  index_plain := fun a => toDigits_plain a.val

/-- The scanned block of the small chain is answered with the text of the
triangle, and the text tells its mesh. -/
theorem toy_object_is_exported :
    let zero : Header H256 :=
      { parentHash := Bytes.replicate 32 0, number := 0, logs := [] }
    let s := Pow.step Poscan.toyScanNode
      (Pow.genesisClient (Bytes.replicate 32 0) zero)
      (Pow.Label.importBlock ⟨Except.ok (), Except.ok ()⟩ Poscan.toyScanned)
    let b := Pow.postHash Poscan.toyScanNode Poscan.toyScanned
    let answer := getObject triangleObjects Poscan.toyScanNode (fun _ => true)
      decimal s b
    answer = Except.ok "v 0 0 0\nv 1 0 0\nv 0 1 0\nf 1 2 3\n".toList ∧
      forall other, Numeric (fun a => a = 0 ∨ a = oneBits) other ->
        answer = Except.ok (writeObj decimal other) -> other = triangle := by
  intro zero s b answer
  have hreached : Pow.ReachedBy Poscan.toyScanNode (Bytes.replicate 32 0) zero
      [Pow.Label.importBlock ⟨Except.ok (), Except.ok ()⟩ Poscan.toyScanned]
      s :=
    ⟨rfl, Run.single rfl⟩
  have halgorithm : Poscan.toyScanNode.algorithm =
      Poscan.poScanAlgorithm triangleObjects.runtime.api := rfl
  have hdigests : forall block, Poscan.OfferedIn
      [Pow.Label.importBlock ⟨Except.ok (), Except.ok ()⟩ Poscan.toyScanned]
      block -> block.postDigests.length = 1 := by
    rintro block ⟨answers, hmem⟩
    cases List.mem_singleton.mp hmem
    rfl
  have hstored : (s.headers.get b).map (fun header => header.number) =
      some 1 := by
    decide +kernel
  rcases Option.map_eq_some_iff.mp hstored with ⟨header, hget, hnumber⟩
  have hnumber : header.number ≠ 0 := by
    rw [hnumber]
    exact Nat.one_ne_zero
  have htext : writeObj decimal triangle =
      "v 0 0 0\nv 1 0 0\nv 0 1 0\nf 1 2 3\n".toList := by
    decide +kernel
  have hnumeric : Numeric (fun a => a = 0 ∨ a = oneBits) triangle := by
    intro v hv
    simp only [triangle, List.mem_cons, List.not_mem_nil, or_false] at hv
    rcases hv with rfl | rfl | rfl
    · exact ⟨Or.inl rfl, Or.inl rfl, Or.inl rfl⟩
    · exact ⟨Or.inr rfl, Or.inl rfl, Or.inl rfl⟩
    · exact ⟨Or.inl rfl, Or.inr rfl, Or.inl rfl⟩
  rcases exported_object_is_the_mined_one Poscan.toyScanNode_lawful halgorithm
    hreached hdigests decimal_lawful (fun _ => true) hget hnumber rfl with
    ⟨preHash, nonce, work, hobject, _, _, honly⟩
  exact ⟨htext ▸ hobject, honly hnumeric⟩

end Node
end Numen
