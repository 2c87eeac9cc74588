import Mathlib.Algebra.Order.Field.Rat

/-!
# Fixed-point numbers

An unsigned fixed-point number is an integer `inner` that stands for
`inner / div`.  Its operations round down and stop at the largest integer of the
type; only division aborts.  Next to it stand the products of an integer with a
ratio, of which no more is said than that they round to a neighbour.
-/

namespace Numen
namespace Foundation

/-- A fixed-point number with `div` parts to the unit and at most `top` of
them. -/
@[ext]
structure FixedPoint (div top : Nat) where
  inner : Nat
  inner_le : inner ≤ top
deriving DecidableEq

namespace FixedPoint

variable {div top : Nat}

instance : LE (FixedPoint div top) where
  le a b := a.inner ≤ b.inner

instance : LT (FixedPoint div top) where
  lt a b := a.inner < b.inner

instance (a b : FixedPoint div top) : Decidable (a ≤ b) :=
  inferInstanceAs (Decidable (a.inner ≤ b.inner))

instance (a b : FixedPoint div top) : Decidable (a < b) :=
  inferInstanceAs (Decidable (a.inner < b.inner))

def value (a : FixedPoint div top) : ℚ :=
  a.inner / div

def saturated (n : Nat) : FixedPoint div top :=
  ⟨min n top, Nat.min_le_right n top⟩

def saturatingFromInteger (n : Nat) : FixedPoint div top :=
  saturated (n * div)

def saturatingFromRational (n d : Nat) : Option (FixedPoint div top) :=
  if d = 0 then none else some (saturated (n * div / d))

def saturatingAdd (a b : FixedPoint div top) : FixedPoint div top :=
  saturated (a.inner + b.inner)

def saturatingSub (a b : FixedPoint div top) : FixedPoint div top :=
  saturated (a.inner - b.inner)

def saturatingMul (a b : FixedPoint div top) : FixedPoint div top :=
  saturated (a.inner * b.inner / div)

/-- The product with an integer, of a type with the same bound. -/
def saturatingMulInt (a : FixedPoint div top) (n : Nat) : Nat :=
  min (a.inner * n / div) top

/-- A zero divisor aborts, and so does a quotient that does not fit. -/
def checkedDivide (a b : FixedPoint div top) : Option (FixedPoint div top) :=
  if b.inner = 0 then none
  else if h : a.inner * div / b.inner ≤ top then
    some ⟨a.inner * div / b.inner, h⟩
  else none

def atLeast (a low : FixedPoint div top) : FixedPoint div top :=
  if a < low then low else a

def clamp (a low high : FixedPoint div top) : FixedPoint div top :=
  if a < low then low else if high < a then high else a

/-!
## What the operations store
-/

theorem inner_saturated (n : Nat) :
    (saturated n : FixedPoint div top).inner = min n top :=
  rfl

theorem inner_saturated_of_le {n : Nat} (h : n ≤ top) :
    (saturated n : FixedPoint div top).inner = n :=
  Nat.min_eq_left h

theorem inner_saturatingMul {a b : FixedPoint div top} (ha : a.inner ≤ div) :
    (a.saturatingMul b).inner = a.inner * b.inner / div := by
  apply inner_saturated_of_le
  exact Nat.le_trans
    (Nat.div_le_of_le_mul (Nat.mul_le_mul_right b.inner ha)) b.inner_le

theorem inner_saturatingSub (a b : FixedPoint div top) :
    (a.saturatingSub b).inner = a.inner - b.inner :=
  inner_saturated_of_le (Nat.le_trans (Nat.sub_le _ _) a.inner_le)

theorem exists_saturatingFromRational {n d : Nat} (hd : 0 < d)
    (hfits : n * div / d ≤ top) :
    exists q : FixedPoint div top, saturatingFromRational n d = some q ∧
      q.inner = n * div / d :=
  ⟨saturated (n * div / d), if_neg (Nat.ne_of_gt hd),
    inner_saturated_of_le hfits⟩

theorem inner_atLeast (a low : FixedPoint div top) :
    (a.atLeast low).inner = max a.inner low.inner := by
  unfold atLeast
  split
  · rename_i h
    exact (Nat.max_eq_right (Nat.le_of_lt h)).symm
  · rename_i h
    exact (Nat.max_eq_left (Nat.not_lt.mp h)).symm

theorem inner_clamp (a : FixedPoint div top) {low high : FixedPoint div top}
    (h : low ≤ high) :
    (a.clamp low high).inner = max low.inner (min a.inner high.inner) := by
  change low.inner ≤ high.inner at h
  unfold clamp
  split
  · rename_i hlow
    change a.inner < low.inner at hlow
    lia
  · rename_i hlow
    change ¬ a.inner < low.inner at hlow
    split
    · rename_i hhigh
      change high.inner < a.inner at hhigh
      lia
    · rename_i hhigh
      change ¬ high.inner < a.inner at hhigh
      lia

end FixedPoint

/-!
## Ratios
-/

/-- The parts of `parts` that `p` is of `q`, rounded down; never more than
all. -/
def partsOf (parts p q : Nat) : Nat :=
  if q ≤ p then parts else p * parts / q

theorem partsOf_self (parts q : Nat) : partsOf parts q q = parts :=
  if_pos (Nat.le_refl q)

theorem partsOf_le (parts p q : Nat) : partsOf parts p q ≤ parts := by
  unfold partsOf
  split
  · exact Nat.le_refl parts
  · rename_i h
    refine Nat.div_le_of_le_mul ?_
    exact Nat.mul_le_mul_right parts (Nat.le_of_not_le h)

theorem partsOf_mul_le {parts p q : Nat} (h : p ≤ q) :
    partsOf parts p q * q ≤ p * parts := by
  unfold partsOf
  split
  · rename_i hfull
    rw [Nat.le_antisymm h hfull, Nat.mul_comm]
  · exact Nat.div_mul_le_self _ _

theorem eq_of_partsOf_eq {parts p q : Nat} (hparts : 0 < parts) (hp : p ≤ q)
    (h : partsOf parts p q = parts) : p = q := by
  have hmul : partsOf parts p q * q ≤ p * parts := partsOf_mul_le hp
  rw [h, Nat.mul_comm p parts] at hmul
  exact Nat.le_antisymm hp (Nat.le_of_mul_le_mul_left hmul hparts)

/-- The product of `n` with the ratio `num / den` is one of the two integers
next to it, and the exact one if it is whole. -/
def RoundsTo (num den : Nat) (product : Nat -> Nat) : Prop :=
  forall n, num * n < den * product n + den ∧
    den * product n < num * n + den

theorem roundsTo_div (num : Nat) {den : Nat} (h : 0 < den) :
    RoundsTo num den fun n => num * n / den := by
  intro n
  have hsplit := Nat.div_add_mod (num * n) den
  have hrest := Nat.mod_lt (num * n) h
  lia

/-- The product is an integer closest to `num * n / den`. -/
def RoundsNearest (num den : Nat) (product : Nat -> Nat) : Prop :=
  forall n, 2 * (num * n) ≤ 2 * (den * product n) + den ∧
    2 * (den * product n) ≤ 2 * (num * n) + den

theorem roundsNearest_div (num : Nat) {den : Nat} (h : 0 < den) :
    RoundsNearest num den fun n => (2 * (num * n) + den) / (2 * den) := by
  intro n
  have hsplit := Nat.div_add_mod (2 * (num * n) + den) (2 * den)
  have hrest := Nat.mod_lt (2 * (num * n) + den) (Nat.mul_pos Nat.zero_lt_two h)
  rw [Nat.mul_assoc] at hsplit
  lia

end Foundation
end Numen
