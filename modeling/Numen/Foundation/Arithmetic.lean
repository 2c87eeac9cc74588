import Mathlib.Algebra.Order.Ring.Int

/-!
# Machine arithmetic

Addition that stops at the largest value of its integer type, and the
operations that abort: division by zero and the conversion of a negative number
to an unsigned one.
-/

namespace Numen
namespace Foundation

def u32Max : Nat :=
  2 ^ 32 - 1

def u64Max : Nat :=
  2 ^ 64 - 1

def u128Max : Nat :=
  2 ^ 128 - 1

def u256Max : Nat :=
  2 ^ 256 - 1

/-!
## Saturation
-/

def satAdd (top a b : Nat) : Nat :=
  min (a + b) top

theorem satAdd_le_top (top a b : Nat) : satAdd top a b ≤ top :=
  Nat.min_le_right _ _

theorem satAdd_le_add (top a b : Nat) : satAdd top a b ≤ a + b :=
  Nat.min_le_left _ _

theorem satAdd_eq_add {top a b : Nat} (h : a + b ≤ top) :
    satAdd top a b = a + b :=
  Nat.min_eq_left h

theorem satAdd_mono_left {top a a' : Nat} (b : Nat) (h : a ≤ a') :
    satAdd top a b ≤ satAdd top a' b := by
  unfold satAdd
  lia

theorem satAdd_min_left (top a b : Nat) :
    satAdd top (min a top) b = min (a + b) top := by
  unfold satAdd
  lia

theorem add_lt_of_satAdd_lt {top a b bound : Nat} (hbound : bound ≤ top)
    (h : satAdd top a b < bound) : a + b < bound := by
  unfold satAdd at h
  lia

/-!
## Operations that abort
-/

inductive Panic where
  | divideByZero
  | negativeToUnsigned
  | assertion (message : String)
deriving DecidableEq, Repr

theorem except_ok_bind {ε α β : Type} (a : α) (f : α -> Except ε β) :
    (Except.ok a >>= f) = f a :=
  rfl

theorem except_bind_eq_ok {ε α β : Type} {x : Except ε α}
    {f : α -> Except ε β} {b : β} (h : (x >>= f) = Except.ok b) :
    exists a, x = Except.ok a ∧ f a = Except.ok b := by
  cases x with
  | error e => cases h
  | ok a => exact ⟨a, rfl, h⟩

theorem except_of_isOk {ε α : Type} {x : Except ε α} (h : x.isOk = true) :
    exists a, x = Except.ok a := by
  cases x with
  | error e => cases h
  | ok a => exact ⟨a, rfl⟩

def divide (a b : Nat) : Except Panic Nat :=
  if b = 0 then Except.error Panic.divideByZero else Except.ok (a / b)

def divideSigned (a b : Int) : Except Panic Int :=
  if b = 0 then Except.error Panic.divideByZero else Except.ok (a.tdiv b)

def toUnsigned (a : Int) : Except Panic Nat :=
  if a < 0 then Except.error Panic.negativeToUnsigned else Except.ok a.toNat

theorem divide_of_pos (a : Nat) {b : Nat} (h : 0 < b) :
    divide a b = Except.ok (a / b) :=
  if_neg (Nat.ne_of_gt h)

theorem divideSigned_of_ne_zero (a : Int) {b : Int} (h : b ≠ 0) :
    divideSigned a b = Except.ok (a.tdiv b) :=
  if_neg h

theorem toUnsigned_of_nonneg {a : Int} (h : 0 ≤ a) :
    toUnsigned a = Except.ok a.toNat :=
  if_neg (Int.not_lt.mpr h)

def bits (n : Nat) : Nat :=
  if n = 0 then 0 else n.log2 + 1

end Foundation
end Numen
