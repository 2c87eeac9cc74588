import Numen.Foundation.Codec

/-!
# Seals

The seal of a block holds a nonce and the work the scan of that nonce comes to.
The scan itself enters as an arbitrary partial function of the pre-hash and the
nonce; verification replays it.
-/

namespace Numen
namespace Poscan

open Foundation

abbrev H256 : Type :=
  Bytes 32

abbrev U256 : Type :=
  Fin (2 ^ 256)

structure Seal where
  nonce : U256
  work : H256
deriving DecidableEq

/-- A mining attempt. -/
structure Compute where
  preHash : H256
  nonce : U256
deriving DecidableEq

/-- What the scan makes of a pre-hash and a nonce; `none` is a mesh that cannot
be scanned. -/
abbrev Scan : Type :=
  H256 -> U256 -> Option H256

/-- SCALE writes a `U256` as 32 bytes in little-endian order. -/
def u256Codec : Codec U256 :=
  Codec.littleEndian 32 (2 ^ 256) (by decide)

def Seal.codec : Codec Seal :=
  (u256Codec.pair (Codec.bytes 32)).imap (fun fields => ⟨fields.1, fields.2⟩)
    (fun s => (s.nonce, s.work)) (fun _ => rfl) (fun _ => rfl)

def Seal.encode (s : Seal) : List UInt8 :=
  Seal.codec.encode s

def Compute.work (scan : Scan) (compute : Compute) : Option H256 :=
  scan compute.preHash compute.nonce

def Compute.seal (scan : Scan) (compute : Compute) : Option Seal := do
  let work <- compute.work scan
  return { nonce := compute.nonce, work := work }

/-- `U256::from_big_endian`. -/
def numHash (hash : H256) : Nat :=
  BigEndian.value hash.toList

/-- The product overflows if it does not fit 256 bits. -/
def hashMeetsDifficulty (hash : H256) (difficulty : U256) : Bool :=
  !decide (2 ^ 256 ≤ numHash hash * difficulty.val)

def verifySeal (scan : Scan) (preHash : H256) (rawSeal : List UInt8)
    (difficulty : U256) : Except CodecError Bool := do
  let s <- Seal.codec.decodeAll rawSeal
  if !hashMeetsDifficulty s.work difficulty then
    return false
  else
    return decide (Compute.work scan ⟨preHash, s.nonce⟩ = some s.work)

/-- The runtime API's `verify_seal`, which takes an error for a refusal. -/
def PowVerifyApi.verifySeal (scan : Scan) (preHash : H256)
    (s : List UInt8) (difficulty : U256) : Bool :=
  match Poscan.verifySeal scan preHash s difficulty with
  | Except.ok accepted => accepted
  | Except.error _ => false

/-!
## The encoding
-/

theorem Seal.encode_eq (s : Seal) :
    s.encode =
      (BigEndian.digits 32 s.nonce.val).reverse ++ s.work.toList := by
  unfold Seal.encode Seal.codec u256Codec
  rw [Codec.encode_imap, Codec.encode_pair, Codec.encode_littleEndian,
    Codec.encode_bytes]

theorem Seal.length_encode (s : Seal) : s.encode.length = 64 := by
  rw [Seal.encode_eq, List.length_append, List.length_reverse,
    BigEndian.length_digits, s.work.length_eq]

theorem exists_seal_of_length {raw : List UInt8} (h : raw.length = 64) :
    exists s : Seal, raw = s.encode := by
  let low : Bytes 32 := ⟨raw.take 32, by rw [List.length_take, h]; rfl⟩
  let high : Bytes 32 := ⟨raw.drop 32, by rw [List.length_drop, h]⟩
  have hvalue : BigEndian.value low.toList.reverse < 2 ^ 256 := by
    have hlt := BigEndian.value_lt low.toList.reverse
    rw [List.length_reverse, low.length_eq] at hlt
    exact hlt
  refine ⟨⟨⟨BigEndian.value low.toList.reverse, hvalue⟩, high⟩, ?_⟩
  have hdigits := BigEndian.digits_value low.toList.reverse
  rw [List.length_reverse, low.length_eq] at hdigits
  rw [Seal.encode_eq]
  dsimp only
  rw [hdigits, List.reverse_reverse]
  exact (List.take_append_drop 32 raw).symm

theorem decodeAll_seal_cases (raw : List UInt8) :
    (raw.length ≠ 64 ∧ exists error,
        Seal.codec.decodeAll raw = Except.error error) ∨
      exists s : Seal, raw = s.encode ∧
        Seal.codec.decodeAll raw = Except.ok s := by
  by_cases hlength : raw.length = 64
  · rcases exists_seal_of_length hlength with ⟨s, hseal⟩
    exact Or.inr ⟨s, hseal, (Seal.codec.decodeAll_eq_ok raw s).mpr hseal⟩
  · refine Or.inl ⟨hlength, ?_⟩
    cases hdecode : Seal.codec.decodeAll raw with
    | error error => exact ⟨error, rfl⟩
    | ok s =>
        have hraw := (Seal.codec.decodeAll_eq_ok raw s).mp hdecode
        rw [hraw] at hlength
        exact absurd (Seal.length_encode s) hlength

/-!
## Verification
-/

theorem hashMeetsDifficulty_iff (hash : H256) (difficulty : U256) :
    hashMeetsDifficulty hash difficulty = true <->
      numHash hash * difficulty.val < 2 ^ 256 := by
  unfold hashMeetsDifficulty
  rw [Bool.not_eq_true', decide_eq_false_iff_not, Nat.not_le]

theorem verifySeal_encode (scan : Scan) (preHash : H256) (s : Seal)
    (difficulty : U256) :
    verifySeal scan preHash s.encode difficulty =
      Except.ok (hashMeetsDifficulty s.work difficulty &&
        decide (scan preHash s.nonce = some s.work)) := by
  have hdecode := (Seal.codec.decodeAll_eq_ok s.encode s).mpr rfl
  unfold verifySeal
  rw [hdecode, except_ok_bind]
  cases hashMeetsDifficulty s.work difficulty with
  | false => rfl
  | true => rfl

theorem verifySeal_eq_error (scan : Scan) (preHash : H256)
    (raw : List UInt8) (difficulty : U256) :
    (exists error, verifySeal scan preHash raw difficulty =
      Except.error error) <-> raw.length ≠ 64 := by
  rcases decodeAll_seal_cases raw with
    ⟨hlength, error, hdecode⟩ | ⟨s, hraw, _⟩
  · refine iff_of_true ⟨error, ?_⟩ hlength
    unfold verifySeal
    rw [hdecode]
    rfl
  · refine iff_of_false ?_ (not_not.mpr ?_)
    · rintro ⟨error, herror⟩
      rw [hraw, verifySeal_encode] at herror
      cases herror
    · rw [hraw]
      exact Seal.length_encode s

theorem verifySeal_accepts (scan : Scan) (preHash : H256)
    (raw : List UInt8) (difficulty : U256) :
    verifySeal scan preHash raw difficulty = Except.ok true <->
      exists nonce work, scan preHash nonce = some work ∧
        numHash work * difficulty.val < 2 ^ 256 ∧
        raw = (BigEndian.digits 32 nonce.val).reverse ++ work.toList := by
  constructor
  · intro h
    rcases decodeAll_seal_cases raw with ⟨hlength, _⟩ | ⟨s, hraw, _⟩
    · rcases (verifySeal_eq_error scan preHash raw difficulty).mpr hlength with
        ⟨error, herror⟩
      rw [herror] at h
      cases h
    · rw [hraw, verifySeal_encode] at h
      have hboth := Bool.and_eq_true_iff.mp (Except.ok.inj h)
      exact ⟨s.nonce, s.work, of_decide_eq_true hboth.right,
        (hashMeetsDifficulty_iff _ _).mp hboth.left,
        hraw.trans (Seal.encode_eq s)⟩
  · rintro ⟨nonce, work, hscan, hmeets, hraw⟩
    have hseal : raw = (⟨nonce, work⟩ : Seal).encode := by
      rw [Seal.encode_eq]
      exact hraw
    rw [hseal, verifySeal_encode]
    dsimp only
    rw [(hashMeetsDifficulty_iff work difficulty).mpr hmeets,
      decide_eq_true hscan]
    rfl

theorem PowVerifyApi.verifySeal_iff (scan : Scan) (preHash : H256)
    (raw : List UInt8) (difficulty : U256) :
    PowVerifyApi.verifySeal scan preHash raw difficulty = true <->
      Poscan.verifySeal scan preHash raw difficulty = Except.ok true := by
  unfold PowVerifyApi.verifySeal
  cases Poscan.verifySeal scan preHash raw difficulty with
  | error error => simp
  | ok accepted => simp

/-- A seal is accepted exactly if it is the encoding of a nonce and of the work
its scan comes to, and this work meets the difficulty; only a string of another
length than 64 is an error.  So the nonce determines an accepted seal, seals
that are mined are accepted wherever their work suffices, and the runtime API
accepts what the function accepts. -/
theorem seals_are_not_malleable (scan : Scan) (preHash : H256) :
    (forall raw difficulty,
      verifySeal scan preHash raw difficulty = Except.ok true <->
        exists nonce work, scan preHash nonce = some work ∧
          numHash work * difficulty.val < 2 ^ 256 ∧
          raw = (BigEndian.digits 32 nonce.val).reverse ++ work.toList) ∧
    (forall raw difficulty,
      (exists error, verifySeal scan preHash raw difficulty =
        Except.error error) <-> raw.length ≠ 64) ∧
    (forall raw raw' difficulty difficulty' s s',
      Seal.codec.decodeAll raw = Except.ok s ->
      Seal.codec.decodeAll raw' = Except.ok s' ->
      s.nonce = s'.nonce ->
      verifySeal scan preHash raw difficulty = Except.ok true ->
      verifySeal scan preHash raw' difficulty' = Except.ok true ->
      raw = raw') ∧
    (forall nonce s, Compute.seal scan ⟨preHash, nonce⟩ = some s ->
      forall difficulty, verifySeal scan preHash s.encode difficulty =
        Except.ok (hashMeetsDifficulty s.work difficulty)) ∧
    forall raw difficulty,
      PowVerifyApi.verifySeal scan preHash raw difficulty = true <->
        verifySeal scan preHash raw difficulty = Except.ok true := by
  refine ⟨verifySeal_accepts scan preHash, verifySeal_eq_error scan preHash,
    ?_, ?_, PowVerifyApi.verifySeal_iff scan preHash⟩
  · intro raw raw' difficulty difficulty' s s' hdecode hdecode' hnonce
      haccepted haccepted'
    have hraw := (Seal.codec.decodeAll_eq_ok raw s).mp hdecode
    have hraw' := (Seal.codec.decodeAll_eq_ok raw' s').mp hdecode'
    -- both hold the work the one scan of their nonce comes to
    have hwork : forall (s : Seal) d, verifySeal scan preHash s.encode d =
        Except.ok true -> scan preHash s.nonce = some s.work := by
      intro s d h
      rw [verifySeal_encode] at h
      exact of_decide_eq_true (Bool.and_eq_true_iff.mp (Except.ok.inj h)).right
    rw [hraw] at haccepted
    rw [hraw'] at haccepted'
    have hfirst := hwork s difficulty haccepted
    have hsecond := hwork s' difficulty' haccepted'
    rw [hnonce, hsecond] at hfirst
    have hseal : s = s' := by
      cases s
      cases s'
      cases hnonce
      cases hfirst
      rfl
    rw [hraw, hraw', hseal]
  · intro nonce s hseal difficulty
    rcases Option.bind_eq_some_iff.mp hseal with ⟨work, hscan, heq⟩
    cases heq
    rw [verifySeal_encode]
    have hwork : scan preHash nonce = some work := hscan
    dsimp only
    rw [hwork, decide_eq_true rfl, Bool.and_true]

/-- A scan that comes to the number one for every nonce. -/
def unitScan : Scan :=
  fun _ _ => some ⟨BigEndian.digits 32 1, BigEndian.length_digits 32 1⟩

theorem unit_seal_is_accepted_up_to_the_highest_difficulty :
    exists s, Compute.seal unitScan ⟨Bytes.replicate 32 7, 5⟩ = some s ∧
      forall difficulty, verifySeal unitScan (Bytes.replicate 32 7) s.encode
        difficulty = Except.ok true := by
  refine ⟨⟨5, ⟨BigEndian.digits 32 1, BigEndian.length_digits 32 1⟩⟩, rfl, ?_⟩
  intro difficulty
  rw [(seals_are_not_malleable unitScan (Bytes.replicate 32 7)).right.right.right.left
    5 _ rfl difficulty]
  have hone : BigEndian.value (BigEndian.digits 32 1) = 1 :=
    BigEndian.value_digits (by decide)
  refine congrArg Except.ok ((hashMeetsDifficulty_iff _ _).mpr ?_)
  unfold numHash
  rw [hone, Nat.one_mul]
  exact difficulty.isLt

end Poscan
end Numen
