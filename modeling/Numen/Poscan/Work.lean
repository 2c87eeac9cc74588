import Numen.Foundation.Scale
import Numen.Foundation.Separators
import Numen.Poscan.Seal

/-!
# How the work comes about

The nonce and the pre-hash are hashed into a seed, the seed grows a mesh, the
scan of the mesh gives features, and the features are quantized and hashed with
the pre-hash.  Growing, scanning and quantizing are floating-point code and
enter as parameters.
-/

namespace Numen
namespace Poscan

open Foundation

/-!
## The pipeline
-/

/-- The bits of an `f64`, or of an `i64` in two's complement. -/
abbrev Word64 : Type :=
  Fin (2 ^ 64)

abbrev Word32 : Type :=
  Fin (2 ^ 32)

/-- Vertices, and faces that index them.  Both are few enough to be encoded. -/
structure Mesh where
  vertices : { l : List (Word64 × Word64 × Word64) // l.length < 2 ^ 32 }
  faces : { l : List (Word32 × Word32 × Word32) // l.length < 2 ^ 32 }
deriving DecidableEq

structure Buckets (n : Nat) where
  toList : List Word64
  length_eq : toList.length = n

/-- One revision of the protocol.  `scan` is `None` for a mesh that cannot be
scanned. -/
structure Pipeline (n : Nat) where
  protocol : List UInt8
  sha256 : List UInt8 -> H256
  Features : Type
  asteroid : H256 -> Mesh
  scan : Mesh -> Option Features
  quantize : Features -> Buckets n

def word64Codec : Codec Word64 :=
  Codec.littleEndian 8 (2 ^ 64) (by decide)

namespace Pipeline

variable {n : Nat}

def seedInput (pipeline : Pipeline n) (preHash : H256) (nonce : U256) :
    List UInt8 :=
  pipeline.protocol ++ 0 :: (preHash.toList ++ u256Codec.encode nonce)

def deriveSeed (pipeline : Pipeline n) (preHash : H256) (nonce : U256) :
    H256 :=
  pipeline.sha256 (pipeline.seedInput preHash nonce)

def mesh (pipeline : Pipeline n) (compute : Compute) : Mesh :=
  pipeline.asteroid (pipeline.deriveSeed compute.preHash compute.nonce)

def bucketInput (pipeline : Pipeline n) (buckets : Buckets n)
    (preHash : H256) : List UInt8 :=
  pipeline.protocol ++
    0 :: (preHash.toList ++ word64Codec.encodeItems buckets.toList)

def hashBuckets (pipeline : Pipeline n) (buckets : Buckets n)
    (preHash : H256) : H256 :=
  pipeline.sha256 (pipeline.bucketInput buckets preHash)

/-- What becomes of a mesh. -/
def workOf (pipeline : Pipeline n) (mesh : Mesh) (preHash : H256) :
    Option H256 :=
  (pipeline.scan mesh).map fun features =>
    pipeline.hashBuckets (pipeline.quantize features) preHash

/-- `Compute::work`, as the scan of the verifier. -/
def toScan (pipeline : Pipeline n) : Scan :=
  fun preHash nonce =>
    pipeline.workOf (pipeline.mesh ⟨preHash, nonce⟩) preHash

end Pipeline

/-!
## The strings that are hashed
-/

theorem bytes_append_inj {m : Nat} {a b : Bytes m} {rest rest' : List UInt8}
    (h : a.toList ++ rest = b.toList ++ rest') : a = b ∧ rest = rest' := by
  rcases List.append_inj h (a.length_eq.trans b.length_eq.symm) with
    ⟨hfirst, hrest⟩
  exact ⟨Bytes.ext_toList hfirst, hrest⟩

section Inputs

variable {n : Nat} {p q : Pipeline n}

theorem seedInput_inj (hp : 0 ∉ p.protocol) (hq : 0 ∉ q.protocol)
    {preHash preHash' : H256} {nonce nonce' : U256}
    (h : p.seedInput preHash nonce = q.seedInput preHash' nonce') :
    p.protocol = q.protocol ∧ preHash = preHash' ∧ nonce = nonce' := by
  rcases append_sep_inj hp hq h with ⟨hprotocol, hrest⟩
  rcases bytes_append_inj hrest with ⟨hpreHash, hnonce⟩
  refine ⟨hprotocol, hpreHash, ?_⟩
  exact u256Codec.encode_inj hnonce

theorem bucketInput_inj (hp : 0 ∉ p.protocol) (hq : 0 ∉ q.protocol)
    {preHash preHash' : H256} {buckets buckets' : Buckets n}
    (h : p.bucketInput buckets preHash = q.bucketInput buckets' preHash') :
    p.protocol = q.protocol ∧ preHash = preHash' ∧
      buckets.toList = buckets'.toList := by
  rcases append_sep_inj hp hq h with ⟨hprotocol, hrest⟩
  rcases bytes_append_inj hrest with ⟨hpreHash, hbuckets⟩
  exact ⟨hprotocol, hpreHash, Codec.encodeItems_inj
    (buckets.length_eq.trans buckets'.length_eq.symm) hbuckets⟩

def Collides (hash : List UInt8 -> H256) (x y : List UInt8) : Prop :=
  x ≠ y ∧ hash x = hash y

def Pipeline.hashed (pipeline : Pipeline n) (compute : Compute) :
    Option (List UInt8) :=
  (pipeline.scan (pipeline.mesh compute)).map fun features =>
    pipeline.bucketInput (pipeline.quantize features) compute.preHash

theorem toScan_eq_some {preHash work : H256} {nonce : U256}
    (h : p.toScan preHash nonce = some work) :
    exists features,
      p.hashed ⟨preHash, nonce⟩ =
          some (p.bucketInput (p.quantize features) preHash) ∧
        p.sha256 (p.bucketInput (p.quantize features) preHash) = work := by
  rcases Option.map_eq_some_iff.mp h with ⟨features, hscan, hwork⟩
  refine ⟨features, ?_, hwork⟩
  unfold Pipeline.hashed
  rw [hscan]
  rfl

/-- A seal is good for one block under one revision of the protocol, at any
difficulty.  If the same bytes pass for another, or if two attempts start from
the same seed, then the hash has collided on the very strings these attempts
hash. -/
theorem seals_do_not_carry_over (hsha : q.sha256 = p.sha256)
    (hp : 0 ∉ p.protocol) (hq : 0 ∉ q.protocol) (preHash preHash' : H256) :
    (forall rawSeal difficulty difficulty',
      verifySeal p.toScan preHash rawSeal difficulty = Except.ok true ->
      verifySeal q.toScan preHash' rawSeal difficulty' = Except.ok true ->
        (p.protocol = q.protocol ∧ preHash = preHash') ∨
          exists nonce x y, p.hashed ⟨preHash, nonce⟩ = some x ∧
            q.hashed ⟨preHash', nonce⟩ = some y ∧ Collides p.sha256 x y) ∧
      forall nonce nonce',
        p.deriveSeed preHash nonce = q.deriveSeed preHash' nonce' ->
          (p.protocol = q.protocol ∧ preHash = preHash' ∧ nonce = nonce') ∨
            Collides p.sha256 (p.seedInput preHash nonce)
              (q.seedInput preHash' nonce') := by
  constructor
  · intro rawSeal difficulty difficulty' haccepted haccepted'
    rcases (verifySeal_accepts _ _ _ _).mp haccepted with
      ⟨nonce, work, hscan, _, hraw⟩
    rcases (verifySeal_accepts _ _ _ _).mp haccepted' with
      ⟨nonce', work', hscan', _, hraw'⟩
    -- one encoding, one seal
    have hseal : (⟨nonce, work⟩ : Seal) = ⟨nonce', work'⟩ := by
      apply Seal.codec.encode_inj
      change Seal.encode _ = Seal.encode _
      rw [Seal.encode_eq, Seal.encode_eq]
      exact hraw.symm.trans hraw'
    cases hseal
    rcases toScan_eq_some hscan with ⟨features, hhashed, hwork⟩
    rcases toScan_eq_some hscan' with ⟨features', hhashed', hwork'⟩
    rw [hsha] at hwork'
    by_cases hsame : p.bucketInput (p.quantize features) preHash =
        q.bucketInput (q.quantize features') preHash'
    · rcases bucketInput_inj hp hq hsame with ⟨hprotocol, hpreHash, _⟩
      exact Or.inl ⟨hprotocol, hpreHash⟩
    · exact Or.inr ⟨nonce, _, _, hhashed, hhashed', hsame,
        hwork.trans hwork'.symm⟩
  · intro nonce nonce' hseed
    unfold Pipeline.deriveSeed at hseed
    rw [hsha] at hseed
    by_cases hsame : p.seedInput preHash nonce = q.seedInput preHash' nonce'
    · exact Or.inl (seedInput_inj hp hq hsame)
    · exact Or.inr ⟨hsame, hseed⟩

end Inputs

/-- Every string hashes to one. -/
def toyPipeline : Pipeline 0 where
  protocol := "poscan-v1".toUTF8.toList
  sha256 := fun _ => BigEndian.word 32 1
  Features := Unit
  asteroid := fun _ => ⟨⟨[], by decide⟩, ⟨[], by decide⟩⟩
  scan := fun _ => some ()
  quantize := fun _ => ⟨[], rfl⟩

/-- With such a hash a seal for one block is good for another, and the strings
behind the two have collided. -/
theorem toy_seal_carries_over_by_collision :
    exists nonce x y,
      toyPipeline.hashed ⟨Bytes.replicate 32 1, nonce⟩ = some x ∧
        toyPipeline.hashed ⟨Bytes.replicate 32 2, nonce⟩ = some y ∧
        Collides toyPipeline.sha256 x y := by
  have htag : 0 ∉ toyPipeline.protocol := by decide +kernel
  let rawSeal := (⟨5, ⟨BigEndian.digits 32 1, BigEndian.length_digits 32 1⟩⟩ :
    Seal).encode
  have hfirst : verifySeal toyPipeline.toScan (Bytes.replicate 32 1) rawSeal
      3 = Except.ok true := by
    decide +kernel
  have hsecond : verifySeal toyPipeline.toScan (Bytes.replicate 32 2) rawSeal
      7 = Except.ok true := by
    decide +kernel
  refine ((seals_do_not_carry_over rfl htag htag (Bytes.replicate 32 1)
    (Bytes.replicate 32 2)).left rawSeal 3 7 hfirst hsecond).resolve_left ?_
  intro hsame
  exact absurd hsame.right (by decide)

end Poscan
end Numen
