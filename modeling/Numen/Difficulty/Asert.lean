import Mathlib.Order.Basic
import Numen.Foundation.Arithmetic

/-!
# The ASERT target

`compute_next_target` scales the anchor target by two to the power of the
distance from schedule, counted in halflives.  The exponent is a fixed-point
number with sixteen fractional bits: its fraction goes through a cubic
approximation of the exponential, its integer part is a shift.
-/

namespace Numen
namespace Difficulty

open Foundation

def fracBits : Nat :=
  16

def fracOne : Int :=
  1 <<< fracBits

/-- Distance from schedule in halflives, in fixed-point representation.  The
ideal time is a product of 64-bit integers and wraps. -/
def exponentFp (timeDelta : Int)
    (heightDelta targetBlockTime halflife : Nat) : Except Panic Int :=
  let idealTime : Nat := targetBlockTime * heightDelta % 2 ^ 64
  let exponentNumer := (timeDelta - idealTime) * fracOne
  divideSigned exponentNumer halflife

/-- Integer part of an exponent, rounding toward minus infinity. -/
def intPart (exponent : Int) : Int :=
  exponent >>> fracBits

def fracPart (exponent : Int) : Int :=
  exponent - intPart exponent <<< fracBits

/-- Cubic approximation of the power of two with fractional exponent `x`. -/
def fracFactor (x : Int) : Int :=
  let term1 := (45426 * x).tdiv fracOne
  let term2 := ((15736 * x).tdiv fracOne * x).tdiv fracOne
  let term3 := (((3638 * x).tdiv fracOne * x).tdiv fracOne * x).tdiv fracOne
  fracOne + term1 + term2 + term3

/-- The anchor target times the fractional factor.  A product that overflows
256 bits is recomputed in 512, and the quotient saturates. -/
def scaleByFraction (anchorTarget factor : Nat) : Nat :=
  let product := anchorTarget * factor
  if product ≤ u256Max then
    product / fracOne.toNat
  else
    let quot := product / fracOne.toNat
    if quot ≤ u256Max then quot else u256Max

def atLeastOne (result : Nat) : Nat :=
  if result = 0 then 1 else result

def shiftTarget (result : Nat) (int : Int) : Nat :=
  if 0 ≤ int then
    if 256 ≤ int then
      u256Max
    else
      let shift := int.toNat
      let headroom := 256 - bits result
      if headroom < shift then u256Max
      else atLeastOne (result <<< shift % 2 ^ 256)
  else
    if int ≤ -256 then
      1
    else
      let shift := (-int).toNat
      atLeastOne (result >>> shift)

/-- `compute_next_target`. -/
def computeNextTarget (anchorTarget : Nat) (timeDelta : Int)
    (heightDelta targetBlockTime halflife : Nat) : Except Panic Nat := do
  let exponent <- exponentFp timeDelta heightDelta targetBlockTime halflife
  let factor <- toUnsigned (fracFactor (fracPart exponent))
  return shiftTarget (scaleByFraction anchorTarget factor) (intPart exponent)

/-!
## The fractional factor
-/

theorem fracPart_eq_emod (exponent : Int) :
    fracPart exponent = exponent % 65536 := by
  unfold fracPart intPart
  rw [Int.shiftRight_eq_div_pow, Int.shiftLeft_eq]
  have hdivision := Int.mul_ediv_add_emod exponent 65536
  show exponent - exponent / 65536 * 65536 = exponent % 65536
  lia

theorem fracPart_nonneg (exponent : Int) : 0 ≤ fracPart exponent := by
  rw [fracPart_eq_emod]
  exact Int.emod_nonneg exponent (by decide)

theorem fracOne_le_fracFactor {x : Int} (hx : 0 ≤ x) :
    fracOne ≤ fracFactor x := by
  have hone : 0 ≤ fracOne := by decide
  have hterm : forall a : Int, 0 ≤ a -> 0 ≤ (a * x).tdiv fracOne := by
    intro a ha
    exact Int.tdiv_nonneg (Int.mul_nonneg ha hx) hone
  have hterm1 := hterm 45426 (by decide)
  have hterm2 := hterm _ (hterm 15736 (by decide))
  have hterm3 := hterm _ (hterm _ (hterm 3638 (by decide)))
  unfold fracFactor
  lia

/-!
## Range of the target
-/

theorem scaleByFraction_le (anchorTarget factor : Nat) :
    scaleByFraction anchorTarget factor ≤ u256Max := by
  unfold scaleByFraction
  dsimp only
  split
  · rename_i hfits
    exact Nat.le_trans (Nat.div_le_self _ _) hfits
  · split
    · assumption
    · exact Nat.le_refl _

theorem one_le_atLeastOne (result : Nat) : 1 ≤ atLeastOne result := by
  unfold atLeastOne
  split <;> lia

theorem atLeastOne_le {result bound : Nat} (hbound : 1 ≤ bound)
    (h : result ≤ bound) : atLeastOne result ≤ bound := by
  unfold atLeastOne
  split
  · exact hbound
  · exact h

theorem shiftTarget_range {result : Nat} (h : result ≤ u256Max) (int : Int) :
    1 ≤ shiftTarget result int ∧ shiftTarget result int ≤ u256Max := by
  have hmax : 1 ≤ u256Max := by decide
  unfold shiftTarget
  dsimp only
  split
  · split
    · exact ⟨hmax, Nat.le_refl _⟩
    · split
      · exact ⟨hmax, Nat.le_refl _⟩
      · refine ⟨one_le_atLeastOne _, atLeastOne_le hmax ?_⟩
        exact Nat.le_pred_of_lt (Nat.mod_lt _ (Nat.two_pow_pos 256))
  · split
    · exact ⟨Nat.le_refl _, hmax⟩
    · refine ⟨one_le_atLeastOne _, atLeastOne_le hmax ?_⟩
      rw [Nat.shiftRight_eq_div_pow]
      exact Nat.le_trans (Nat.div_le_self _ _) h

theorem computeNextTarget_ok (anchorTarget : Nat) (timeDelta : Int)
    (heightDelta targetBlockTime : Nat) {halflife : Nat}
    (hhalflife : halflife ≠ 0) :
    exists target, computeNextTarget anchorTarget timeDelta heightDelta
      targetBlockTime halflife = Except.ok target := by
  have hne : (halflife : Int) ≠ 0 := Int.natCast_ne_zero.mpr hhalflife
  have hfactor : forall exponent, 0 ≤ fracFactor (fracPart exponent) := by
    intro exponent
    have hle := fracOne_le_fracFactor (fracPart_nonneg exponent)
    have hone : 0 ≤ fracOne := by decide
    lia
  unfold computeNextTarget exponentFp
  rw [divideSigned_of_ne_zero _ hne, except_ok_bind,
    toUnsigned_of_nonneg (hfactor _), except_ok_bind]
  exact ⟨_, rfl⟩

theorem computeNextTarget_range {anchorTarget : Nat} {timeDelta : Int}
    {heightDelta targetBlockTime halflife target : Nat}
    (h : computeNextTarget anchorTarget timeDelta heightDelta targetBlockTime
      halflife = Except.ok target) :
    1 ≤ target ∧ target ≤ u256Max := by
  rcases except_bind_eq_ok h with ⟨exponent, _, hfactor⟩
  rcases except_bind_eq_ok hfactor with ⟨factor, _, hshift⟩
  cases hshift
  exact shiftTarget_range (scaleByFraction_le _ _) _

end Difficulty
end Numen
