import Mathlib.Data.List.Basic

/-!
# Byte strings of fixed length
-/

namespace Numen
namespace Foundation

structure Bytes (n : Nat) where
  toList : List UInt8
  length_eq : toList.length = n
deriving DecidableEq

namespace Bytes

variable {m n : Nat}

theorem ext_toList {a b : Bytes n} (h : a.toList = b.toList) : a = b := by
  cases a
  cases b
  cases h
  rfl

def append (a : Bytes m) (b : Bytes n) : Bytes (m + n) where
  toList := a.toList ++ b.toList
  length_eq := by
    rw [List.length_append, a.length_eq, b.length_eq]

def replicate (n : Nat) (byte : UInt8) : Bytes n where
  toList := List.replicate n byte
  length_eq := List.length_replicate

/-- The first `m` bytes. -/
def first (m : Nat) (a : Bytes (m + n)) : Bytes m where
  toList := a.toList.take m
  length_eq := by
    rw [List.length_take, a.length_eq]
    lia

def rest (m : Nat) (a : Bytes (m + n)) : Bytes n where
  toList := a.toList.drop m
  length_eq := by
    rw [List.length_drop, a.length_eq]
    lia

theorem first_append (a : Bytes m) (b : Bytes n) :
    (a.append b).first m = a := by
  apply ext_toList
  show (a.toList ++ b.toList).take m = a.toList
  rw [List.take_append_of_le_length (Nat.le_of_eq a.length_eq.symm),
    List.take_of_length_le (Nat.le_of_eq a.length_eq)]

theorem rest_append (a : Bytes m) (b : Bytes n) :
    (a.append b).rest m = b := by
  apply ext_toList
  show (a.toList ++ b.toList).drop m = b.toList
  exact List.drop_left' a.length_eq

theorem append_left_injective (b : Bytes n) {a a' : Bytes m}
    (h : a.append b = a'.append b) : a = a' := by
  rw [← first_append a b, h, first_append]

theorem append_right_injective (a : Bytes m) {b b' : Bytes n}
    (h : a.append b = a.append b') : b = b' := by
  rw [← rest_append a b, h, rest_append]

end Bytes

/-!
## Writing into a buffer
-/

section Overwrite

variable {α : Type}

/-- Write `data` over what a buffer holds from `offset` on. -/
def overwrite (offset : Nat) (data buffer : List α) : List α :=
  buffer.take offset ++ (data ++ buffer.drop (offset + data.length))

theorem length_overwrite {offset : Nat} {data buffer : List α}
    (hfits : offset + data.length ≤ buffer.length) :
    (overwrite offset data buffer).length = buffer.length := by
  simp only [overwrite, List.length_append, List.length_take,
    List.length_drop]
  lia

theorem overwrite_append {offset : Nat} (data : List α) {part : List α}
    (rest : List α) (hbehind : part.length ≤ offset) :
    overwrite offset data (part ++ rest) =
      part ++ overwrite (offset - part.length) data rest := by
  have hdrop : offset + data.length - part.length =
      offset - part.length + data.length := by
    lia
  unfold overwrite
  rw [List.take_append, List.take_of_length_le hbehind, List.drop_append,
    List.drop_eq_nil_of_le (Nat.le_add_right_of_le hbehind),
    List.nil_append, hdrop, List.append_assoc]

theorem overwrite_first {data part : List α} (rest : List α)
    (hlength : part.length = data.length) :
    overwrite 0 data (part ++ rest) = data ++ rest := by
  unfold overwrite
  rw [List.take_zero, List.nil_append, Nat.zero_add, List.drop_left' hlength]

theorem overwrite_whole {data part : List α}
    (hlength : part.length = data.length) : overwrite 0 data part = data := by
  have hfirst := overwrite_first [] hlength
  rwa [List.append_nil, List.append_nil] at hfirst

end Overwrite

def Bytes.copyFromSlice {m n : Nat} (buffer : Bytes n) (offset : Nat)
    (data : Bytes m) (hfits : offset + m ≤ n) : Bytes n where
  toList := overwrite offset data.toList buffer.toList
  length_eq := by
    rw [length_overwrite, buffer.length_eq]
    rw [data.length_eq, buffer.length_eq]
    exact hfits

end Foundation
end Numen
