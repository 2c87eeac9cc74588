import Mathlib.Analysis.SpecialFunctions.Pow.Real

/-!
# Comparing with powers of two

An integer function against a multiple of `2 ^ (x / n)`, decided for a range of
`x` in integer arithmetic.  The power is enclosed by two integers at a fixed
scale; an enclosure is checked by raising it to the `n`-th power, and carried
from one `x` to the next by a multiplication rounded outward.
-/

namespace Numen
namespace Foundation

structure Bounds where
  lower : Nat
  upper : Nat

namespace Bounds

variable {n scale x : Nat}

structure Encloses (n scale x : Nat) (b : Bounds) : Prop where
  lower_le : (b.lower : ℝ) ≤ scale * 2 ^ ((x : ℝ) / n)
  le_upper : scale * (2 : ℝ) ^ ((x : ℝ) / n) ≤ b.upper

theorem two_rpow_div_pow (hn : n ≠ 0) (x : Nat) :
    ((2 : ℝ) ^ ((x : ℝ) / n)) ^ n = 2 ^ x := by
  have hreal : (n : ℝ) ≠ 0 := Nat.cast_ne_zero.mpr hn
  rw [← Real.rpow_natCast, ← Real.rpow_mul (by norm_num : (0 : ℝ) ≤ 2),
    div_mul_cancel₀ _ hreal, Real.rpow_natCast]

theorem encloses_iff (hn : n ≠ 0) (b : Bounds) :
    Encloses n scale x b <->
      b.lower ^ n ≤ scale ^ n * 2 ^ x ∧ scale ^ n * 2 ^ x ≤ b.upper ^ n := by
  have hpower : (scale * (2 : ℝ) ^ ((x : ℝ) / n)) ^ n =
      ((scale ^ n * 2 ^ x : Nat) : ℝ) := by
    rw [mul_pow, two_rpow_div_pow hn]
    push_cast
    rfl
  have hnonneg : 0 ≤ scale * (2 : ℝ) ^ ((x : ℝ) / n) := by positivity
  have hlower : (b.lower : ℝ) ≤ scale * 2 ^ ((x : ℝ) / n) <->
      b.lower ^ n ≤ scale ^ n * 2 ^ x := by
    rw [← pow_le_pow_iff_left₀ (Nat.cast_nonneg _) hnonneg hn, hpower]
    norm_cast
  have hupper : scale * (2 : ℝ) ^ ((x : ℝ) / n) ≤ b.upper <->
      scale ^ n * 2 ^ x ≤ b.upper ^ n := by
    rw [← pow_le_pow_iff_left₀ hnonneg (Nat.cast_nonneg _) hn, hpower]
    norm_cast
  constructor
  · intro h
    exact ⟨hlower.mp h.lower_le, hupper.mp h.le_upper⟩
  · intro h
    exact ⟨hlower.mpr h.left, hupper.mpr h.right⟩

/-- The bounds at the next `x`, where `unit` encloses the power at one. -/
def next (scale : Nat) (b unit : Bounds) : Bounds :=
  ⟨b.lower * unit.lower / scale, b.upper * unit.upper / scale + 1⟩

theorem Encloses.next (hscale : scale ≠ 0) {unit b : Bounds}
    (hunit : Encloses n scale 1 unit) (h : Encloses n scale x b) :
    Encloses n scale (x + 1) (b.next scale unit) := by
  have hpos : (0 : ℝ) < scale := Nat.cast_pos.mpr (Nat.pos_of_ne_zero hscale)
  have hsplit : scale * (2 : ℝ) ^ (((x + 1 : Nat) : ℝ) / n) =
      scale * 2 ^ ((x : ℝ) / n) * (scale * 2 ^ (((1 : Nat) : ℝ) / n)) /
        scale := by
    rw [Nat.cast_add, add_div, Real.rpow_add (by norm_num : (0 : ℝ) < 2)]
    field_simp
  unfold Bounds.next
  constructor
  · rw [hsplit]
    calc
      ((b.lower * unit.lower / scale : Nat) : ℝ)
          ≤ (b.lower * unit.lower : Nat) / scale := Nat.cast_div_le
      _ = b.lower * unit.lower / scale := by rw [Nat.cast_mul]
      _ ≤ _ := by
        gcongr
        · exact h.lower_le
        · exact hunit.lower_le
  · have hfloor : b.upper * unit.upper <
        scale * (b.upper * unit.upper / scale + 1) :=
      Nat.lt_mul_div_succ _ (Nat.pos_of_ne_zero hscale)
    calc
      scale * (2 : ℝ) ^ (((x + 1 : Nat) : ℝ) / n)
          ≤ b.upper * unit.upper / scale := by
        rw [hsplit]
        gcongr
        · exact h.le_upper
        · exact hunit.le_upper
      _ ≤ ((b.upper * unit.upper / scale + 1 : Nat) : ℝ) := by
        rw [div_le_iff₀' hpos]
        exact_mod_cast hfloor.le

theorem Encloses.lt_of_upper (hscale : scale ≠ 0) {b : Bounds}
    (h : Encloses n scale x b) {factor value : Nat}
    (hlt : factor * b.upper < scale * value) :
    factor * (2 : ℝ) ^ ((x : ℝ) / n) < value := by
  have hpos : (0 : ℝ) < scale := Nat.cast_pos.mpr (Nat.pos_of_ne_zero hscale)
  apply lt_of_mul_lt_mul_left _ hpos.le
  calc
    scale * (factor * (2 : ℝ) ^ ((x : ℝ) / n))
        = factor * (scale * 2 ^ ((x : ℝ) / n)) := by ring
    _ ≤ factor * b.upper := by
      gcongr
      exact h.le_upper
    _ < scale * value := by exact_mod_cast hlt

theorem Encloses.le_of_lower (hscale : scale ≠ 0) {b : Bounds}
    (h : Encloses n scale x b) {factor value : Nat}
    (hle : scale * value ≤ factor * b.lower) :
    value ≤ factor * (2 : ℝ) ^ ((x : ℝ) / n) := by
  have hpos : (0 : ℝ) < scale := Nat.cast_pos.mpr (Nat.pos_of_ne_zero hscale)
  apply le_of_mul_le_mul_left _ hpos
  calc
    (scale * value : ℝ) ≤ factor * b.lower := by exact_mod_cast hle
    _ ≤ factor * (scale * 2 ^ ((x : ℝ) / n)) := by
      gcongr
      exact h.lower_le
    _ = scale * (factor * (2 : ℝ) ^ ((x : ℝ) / n)) := by ring

end Bounds

/-!
## Tables of runs
-/

/-- Ask the first of the runs, which are in ascending order, that does not end
before `x`. -/
def listed : List (Nat × Nat) -> Nat -> Bool
  | [], _ => false
  | run :: runs, x => if x ≤ run.2 then decide (run.1 ≤ x) else listed runs x

def dropDone (x : Nat) : List (Nat × Nat) -> List (Nat × Nat)
  | [] => []
  | run :: runs => if run.2 ≤ x then runs else run :: runs

theorem listed_dropDone {x y : Nat} (hxy : x < y) (runs : List (Nat × Nat)) :
    listed (dropDone x runs) y = listed runs y := by
  cases runs with
  | nil => rfl
  | cons run runs =>
      by_cases hdone : run.2 ≤ x
      · have hpast : ¬ y ≤ run.2 := by lia
        have hdrop : dropDone x (run :: runs) = runs := if_pos hdone
        have hask : listed (run :: runs) y = listed runs y := if_neg hpast
        rw [hdrop, hask]
      · have hkeep : dropDone x (run :: runs) = run :: runs := if_neg hdone
        rw [hkeep]

theorem listed_of_past {runs : List (Nat × Nat)} {x : Nat}
    (h : ∀ run ∈ runs, run.2 < x) : listed runs x = false := by
  induction runs with
  | nil => rfl
  | cons run runs ih =>
      have hpast : ¬ x ≤ run.2 := by
        have := h run List.mem_cons_self
        lia
      unfold listed
      rw [if_neg hpast]
      exact ih fun run hrun => h run (List.mem_cons_of_mem _ hrun)

/-!
## The scan
-/

/-- Compare `factor * 2 ^ (x / n)` with `f x` for `count` successive `x`, and
the outcome with the table. -/
def scan (scale factor : Nat) (f : Nat -> Nat) (unit : Bounds) :
    Nat -> Nat -> Bounds -> List (Nat × Nat) -> Bool
  | 0, _, _, _ => true
  | count + 1, x, b, runs =>
      (if listed runs x = true then
        decide (factor * b.upper < scale * f x)
      else
        decide (scale * f x ≤ factor * b.lower)) &&
      scan scale factor f unit count (x + 1) (b.next scale unit)
        (dropDone x runs)

theorem scan_sound {n scale factor : Nat} {f : Nat -> Nat} {unit : Bounds}
    (hscale : scale ≠ 0) (hunit : Bounds.Encloses n scale 1 unit)
    {count x : Nat} {b : Bounds} {runs : List (Nat × Nat)}
    (hb : Bounds.Encloses n scale x b)
    (hscan : scan scale factor f unit count x b runs = true) {y : Nat}
    (hxy : x ≤ y) (hy : y < x + count) :
    factor * (2 : ℝ) ^ ((y : ℝ) / n) < f y <-> listed runs y = true := by
  -- The bounds enclose the power at the current place throughout.
  induction count generalizing x b runs with
  | zero => lia
  | succ count ih =>
      rcases Bool.and_eq_true_iff.mp hscan with ⟨hverdict, hrest⟩
      rcases Nat.eq_or_lt_of_le hxy with rfl | hlt
      · split at hverdict
        · rename_i hlisted
          exact iff_of_true
            (hb.lt_of_upper hscale (of_decide_eq_true hverdict)) hlisted
        · rename_i hlisted
          have hle := hb.le_of_lower hscale (of_decide_eq_true hverdict)
          exact iff_of_false (not_lt.mpr hle) hlisted
      · rw [ih (hunit.next hscale hb) hrest hlt (by lia),
          listed_dropDone hlt]

end Foundation
end Numen
