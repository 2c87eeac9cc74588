import Numen.Foundation.BigEndian

/-!
# Codecs

A codec writes values one after another and reads them back from the front of
its input.  What it reads is determined by the value and what follows, and the
other way round: there is one encoding for each value and no other input that
decodes to it.
-/

namespace Numen
namespace Foundation

structure Codec (α : Type) where
  encode : α -> List UInt8
  decode : List UInt8 -> Option (α × List UInt8)
  decode_iff : forall input a rest,
    decode input = some (a, rest) <-> input = encode a ++ rest

inductive CodecError where
  | notEnoughData
  | dataLeft
deriving DecidableEq

namespace Codec

variable {α β : Type}

def decodeAll (codec : Codec α) (input : List UInt8) : Except CodecError α :=
  match codec.decode input with
  | none => Except.error CodecError.notEnoughData
  | some (a, []) => Except.ok a
  | some (_, _ :: _) => Except.error CodecError.dataLeft

theorem decodeAll_eq_ok (codec : Codec α) (input : List UInt8) (a : α) :
    codec.decodeAll input = Except.ok a <-> input = codec.encode a := by
  have hwhole := codec.decode_iff input a []
  rw [List.append_nil] at hwhole
  rw [← hwhole]
  unfold decodeAll
  split
  · rename_i hnone
    rw [hnone]
    exact iff_of_false (by simp) (by simp)
  · rename_i b hsome
    rw [hsome]
    constructor
    · intro h
      rw [Except.ok.inj h]
    · intro h
      cases h
      rfl
  · rename_i b byte rest hsome
    rw [hsome]
    exact iff_of_false (by simp) (by simp)

theorem encode_inj (codec : Codec α) {a b : α}
    (h : codec.encode a = codec.encode b) : a = b := by
  have hfirst := (codec.decode_iff (codec.encode a ++ []) a []).mpr rfl
  have hsecond := (codec.decode_iff (codec.encode a ++ []) b []).mpr (by rw [h])
  rw [hfirst] at hsecond
  cases hsecond
  rfl

/-- The codec of values that correspond to those of another. -/
def imap (codec : Codec α) (wrap : α -> β) (unwrap : β -> α)
    (hwrap : forall b, wrap (unwrap b) = b)
    (hunwrap : forall a, unwrap (wrap a) = a) : Codec β where
  encode := fun b => codec.encode (unwrap b)
  decode := fun input =>
    (codec.decode input).map fun result => (wrap result.1, result.2)
  decode_iff := by
    intro input b rest
    rw [← codec.decode_iff, Option.map_eq_some_iff]
    constructor
    · rintro ⟨⟨a, tail⟩, hdecode, heq⟩
      cases heq
      rw [hunwrap]
      exact hdecode
    · intro hdecode
      exact ⟨(unwrap b, rest), hdecode, by rw [hwrap]⟩

theorem encode_imap (codec : Codec α) (wrap : α -> β) (unwrap : β -> α)
    (hwrap : forall b, wrap (unwrap b) = b)
    (hunwrap : forall a, unwrap (wrap a) = a) (b : β) :
    (codec.imap wrap unwrap hwrap hunwrap).encode b =
      codec.encode (unwrap b) :=
  rfl

def pair (first : Codec α) (second : Codec β) : Codec (α × β) where
  encode := fun both => first.encode both.1 ++ second.encode both.2
  decode := fun input =>
    (first.decode input).bind fun head =>
      (second.decode head.2).map fun tail => ((head.1, tail.1), tail.2)
  decode_iff := by
    rintro input ⟨a, b⟩ rest
    rw [Option.bind_eq_some_iff]
    constructor
    · rintro ⟨⟨a', middle⟩, hfirst, hsecond⟩
      rcases Option.map_eq_some_iff.mp hsecond with ⟨⟨b', tail⟩, hdecode, heq⟩
      cases heq
      have hmiddle := (second.decode_iff middle b' tail).mp hdecode
      rw [(first.decode_iff input a' middle).mp hfirst, hmiddle,
        List.append_assoc]
    · intro hinput
      rw [List.append_assoc] at hinput
      refine ⟨(a, second.encode b ++ rest),
        (first.decode_iff _ _ _).mpr hinput, ?_⟩
      rw [(second.decode_iff _ b rest).mpr rfl]
      rfl

theorem encode_pair (first : Codec α) (second : Codec β) (both : α × β) :
    (first.pair second).encode both =
      first.encode both.1 ++ second.encode both.2 :=
  rfl

def bytes (n : Nat) : Codec (Bytes n) where
  encode := Bytes.toList
  decode := fun input =>
    if h : n ≤ input.length then
      some (⟨input.take n, List.length_take_of_le h⟩, input.drop n)
    else none
  decode_iff := by
    intro input a rest
    constructor
    · intro h
      split at h
      · cases h
        exact (List.take_append_drop n input).symm
      · cases h
    · intro h
      have hlength : n ≤ input.length := by
        rw [h, List.length_append, a.length_eq]
        exact Nat.le_add_right n rest.length
      rw [dif_pos hlength]
      have htake : input.take n = a.toList := by
        rw [h, List.take_left' a.length_eq]
      have hdrop : input.drop n = rest := by
        rw [h, List.drop_left' a.length_eq]
      rw [hdrop]
      exact congrArg (fun b => some (b, rest)) (Bytes.ext_toList htake)

theorem encode_bytes {n : Nat} (a : Bytes n) : (bytes n).encode a = a.toList :=
  rfl

/-- A number below `256 ^ width`, the least significant byte first. -/
def littleEndian (width size : Nat) (hsize : size = 256 ^ width) :
    Codec (Fin size) :=
  (bytes width).imap
    (fun a => ⟨BigEndian.value a.toList.reverse, by
      have hlt := BigEndian.value_lt a.toList.reverse
      rw [List.length_reverse, a.length_eq] at hlt
      rw [hsize]
      exact hlt⟩)
    (fun n => ⟨(BigEndian.digits width n.val).reverse, by
      rw [List.length_reverse, BigEndian.length_digits]⟩)
    (by
      intro n
      apply Fin.ext
      show BigEndian.value (BigEndian.digits width n.val).reverse.reverse = _
      rw [List.reverse_reverse]
      exact BigEndian.value_digits (hsize ▸ n.isLt))
    (by
      intro a
      apply Bytes.ext_toList
      show (BigEndian.digits width
        (BigEndian.value a.toList.reverse)).reverse = _
      have hdigits := BigEndian.digits_value a.toList.reverse
      rw [List.length_reverse, a.length_eq] at hdigits
      rw [hdigits, List.reverse_reverse])

theorem encode_littleEndian {width size : Nat} (hsize : size = 256 ^ width)
    (n : Fin size) :
    (littleEndian width size hsize).encode n =
      (BigEndian.digits width n.val).reverse :=
  rfl

end Codec

end Foundation
end Numen
