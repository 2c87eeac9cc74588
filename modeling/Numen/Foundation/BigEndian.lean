import Mathlib.Data.List.Induction
import Numen.Foundation.Arithmetic
import Numen.Foundation.Bytes

/-!
# Numbers as bytes

Numbers written with the most significant byte first.  Over a fixed number of
bytes, reading and writing are inverse to each other.
-/

namespace Numen
namespace Foundation
namespace BigEndian

def value (bytes : List UInt8) : Nat :=
  bytes.foldl (fun high byte => high * 256 + byte.toNat) 0

def digits : Nat -> Nat -> List UInt8
  | 0, _ => []
  | width + 1, n => digits width (n / 256) ++ [UInt8.ofNat n]

@[simp] theorem length_digits (width n : Nat) :
    (digits width n).length = width := by
  induction width generalizing n with
  | zero =>
      rfl
  | succ width ih =>
      unfold digits
      rw [List.length_append, ih]
      rfl

def word (width n : Nat) : Bytes width :=
  ⟨digits width n, length_digits width n⟩

@[simp] theorem value_nil : value [] = 0 :=
  rfl

theorem value_concat (bytes : List UInt8) (byte : UInt8) :
    value (bytes ++ [byte]) = value bytes * 256 + byte.toNat := by
  simp [value]

theorem value_append (high low : List UInt8) :
    value (high ++ low) = value high * 256 ^ low.length + value low := by
  induction low using List.reverseRecOn with
  | nil =>
      simp
  | append_singleton low byte ih =>
      rw [← List.append_assoc, value_concat, value_concat, ih,
        List.length_append, List.length_singleton, Nat.pow_succ,
        Nat.add_mul, Nat.mul_assoc, Nat.add_assoc]

theorem value_lt (bytes : List UInt8) : value bytes < 256 ^ bytes.length := by
  induction bytes using List.reverseRecOn with
  | nil =>
      simp
  | append_singleton bytes byte ih =>
      have hbyte : byte.toNat < 256 := byte.toNat_lt
      rw [value_concat, List.length_append, List.length_singleton,
        Nat.pow_succ]
      lia

theorem digits_value (bytes : List UInt8) :
    digits bytes.length (value bytes) = bytes := by
  induction bytes using List.reverseRecOn with
  | nil =>
      rfl
  | append_singleton bytes byte ih =>
      have hbyte : byte.toNat < 256 := byte.toNat_lt
      have hhigh : (value bytes * 256 + byte.toNat) / 256 = value bytes := by
        lia
      have hlow : UInt8.ofNat (value bytes * 256 + byte.toNat) = byte := by
        apply UInt8.toNat_inj.mp
        rw [UInt8.toNat_ofNat']
        lia
      rw [List.length_append, List.length_singleton, value_concat]
      unfold digits
      rw [hhigh, ih, hlow]

theorem value_digits {width n : Nat} (h : n < 256 ^ width) :
    value (digits width n) = n := by
  induction width generalizing n with
  | zero =>
      have hzero : n = 0 := by
        rw [Nat.pow_zero] at h
        lia
      rw [hzero]
      rfl
  | succ width ih =>
      have hhigh : n / 256 < 256 ^ width := by
        rw [Nat.pow_succ] at h
        lia
      unfold digits
      rw [value_concat, ih hhigh, UInt8.toNat_ofNat']
      lia

theorem value_injective {a b : List UInt8} (hlength : a.length = b.length)
    (h : value a = value b) : a = b := by
  rw [← digits_value a, ← digits_value b, hlength, h]

theorem digits_injective {width m n : Nat} (hm : m < 256 ^ width)
    (hn : n < 256 ^ width) (h : digits width m = digits width n) : m = n := by
  rw [← value_digits hm, ← value_digits hn, h]

end BigEndian
end Foundation
end Numen
