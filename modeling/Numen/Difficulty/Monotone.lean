import Mathlib.Order.Monotone.Basic
import Numen.Difficulty.Agreement
import Numen.Difficulty.Target

/-!
# The target is monotone

A later block has an easier target, a higher one a harder target, and a larger
anchor target scales up.  The fraction of the exponent grows until the integer
part takes over, so the argument goes one unit of the exponent at a time.
-/

namespace Numen
namespace Difficulty

open Foundation

theorem shiftTarget_mono {result result' : Nat} (hle : result ≤ result')
    (hmax : result' ≤ u256Max) (int : Int) :
    shiftTarget result int ≤ shiftTarget result' int := by
  have hmax' := Nat.le_trans hle hmax
  by_cases hneg : int < 0
  · rw [shiftTarget_of_neg hmax' hneg, shiftTarget_of_neg hmax hneg]
    have hdiv := Nat.div_le_div_right hle (c := 2 ^ (-int).toNat)
    lia
  · have hnonneg := Int.not_lt.mp hneg
    by_cases hlarge : 256 ≤ int
    · rw [shiftTarget_of_large _ hlarge, shiftTarget_of_large _ hlarge]
    · have hlt := Int.not_le.mp hlarge
      rw [shiftTarget_of_nonneg hmax' hnonneg hlt,
        shiftTarget_of_nonneg hmax hnonneg hlt]
      have hmul := Nat.mul_le_mul_right (2 ^ int.toNat) hle
      lia

theorem scaleByFraction_mono {anchorTarget anchorTarget' factor factor' : Nat}
    (hanchor : anchorTarget ≤ anchorTarget') (hfactor : factor ≤ factor') :
    scaleByFraction anchorTarget factor ≤
      scaleByFraction anchorTarget' factor' := by
  have hdiv := Nat.div_le_div_right (Nat.mul_le_mul hanchor hfactor)
    (c := 65536)
  rw [scaleByFraction_eq, scaleByFraction_eq]
  lia

theorem targetAt_mono_anchor {anchorTarget anchorTarget' : Nat}
    (h : anchorTarget ≤ anchorTarget') (exponent : Int) :
    targetAt anchorTarget exponent ≤ targetAt anchorTarget' exponent :=
  shiftTarget_mono (scaleByFraction_mono h (Nat.le_refl _))
    (scaleByFraction_le _ _) _

/-- Where the integer part takes over: the largest factor is below two, and
shifting one bit further doubles. -/
theorem shiftTarget_seam {result result' : Nat} (hdouble : result ≤ 2 * result')
    (hmax : result ≤ u256Max) (hmax' : result' ≤ u256Max) (int : Int) :
    shiftTarget result int ≤ shiftTarget result' (int + 1) := by
  by_cases hlarge : 256 ≤ int + 1
  · rw [shiftTarget_of_large _ hlarge]
    exact (shiftTarget_range hmax int).right
  · have hlt : int + 1 < 256 := Int.not_le.mp hlarge
    by_cases hneg : int + 1 < 0
    · rw [shiftTarget_of_neg hmax (by lia : int < 0),
        shiftTarget_of_neg hmax' hneg]
      have hshift : (-int).toNat = (-(int + 1)).toNat + 1 := by lia
      have hdiv : result / 2 ^ (-int).toNat ≤
          result' / 2 ^ (-(int + 1)).toNat := by
        rw [hshift, Nat.pow_succ, Nat.mul_comm, ← Nat.div_div_eq_div_mul]
        exact Nat.div_le_div_right (by lia)
      lia
    · have hnonneg : 0 ≤ int + 1 := Int.not_lt.mp hneg
      rw [shiftTarget_of_nonneg hmax' hnonneg hlt]
      by_cases hsign : int < 0
      · -- the exponent crosses zero: a halved result against an unshifted one
        have hzero : (int + 1).toNat = 0 := by lia
        have hone : (-int).toNat = 1 := by lia
        rw [shiftTarget_of_neg hmax hsign, hzero, hone]
        lia
      · have hint := Int.not_lt.mp hsign
        have hshift : (int + 1).toNat = int.toNat + 1 := by lia
        have hmul : result * 2 ^ int.toNat ≤
            result' * 2 ^ (int + 1).toNat := by
          rw [hshift, Nat.pow_succ, Nat.mul_comm (2 ^ int.toNat) 2,
            ← Nat.mul_assoc, Nat.mul_comm result' 2]
          exact Nat.mul_le_mul_right _ hdouble
        rw [shiftTarget_of_nonneg hmax hint (by lia)]
        lia

theorem targetAt_le_succ (anchorTarget : Nat) (exponent : Int) :
    targetAt anchorTarget exponent ≤ targetAt anchorTarget (exponent + 1) := by
  have hcut := scaleByFraction_le anchorTarget
  by_cases hseam : exponent % 65536 = 65535
  · have hint : intPart (exponent + 1) = intPart exponent + 1 := by
      rw [intPart_eq_div, intPart_eq_div]
      lia
    have hzero : fracPart (exponent + 1) = 0 := by
      rw [fracPart_eq_emod]
      lia
    have hfactor : factorOf (exponent + 1) = 65536 := by
      unfold factorOf
      rw [hzero]
      rfl
    unfold targetAt
    rw [hint, hfactor]
    refine shiftTarget_seam ?_ (hcut _) (hcut _) _
    have hle := Nat.mul_le_mul_left anchorTarget (factorOf_le exponent)
    rw [scaleByFraction_eq, scaleByFraction_eq]
    lia
  · have hint : intPart (exponent + 1) = intPart exponent := by
      rw [intPart_eq_div, intPart_eq_div]
      lia
    have hfraction : fracPart exponent ≤ fracPart (exponent + 1) := by
      rw [fracPart_eq_emod, fracPart_eq_emod]
      lia
    have hfactor : factorOf exponent ≤ factorOf (exponent + 1) :=
      Int.toNat_le_toNat
        (fracFactor_mono (fracPart_nonneg exponent) hfraction)
    unfold targetAt
    rw [hint]
    exact shiftTarget_mono (scaleByFraction_mono (Nat.le_refl _) hfactor)
      (hcut _) _

theorem targetAt_mono (anchorTarget : Nat) {exponent exponent' : Int}
    (h : exponent ≤ exponent') :
    targetAt anchorTarget exponent ≤ targetAt anchorTarget exponent' :=
  monotone_int_of_le_succ (targetAt_le_succ anchorTarget) h

/-!
## The arguments
-/

theorem exponentOf_mono {timeDelta timeDelta' : Int}
    {heightDelta heightDelta' : Nat} (targetBlockTime : Nat) {halflife : Nat}
    (hhalflife : 1 ≤ halflife) (htime : timeDelta ≤ timeDelta')
    (hheight : heightDelta' ≤ heightDelta) :
    exponentOf timeDelta heightDelta targetBlockTime halflife ≤
      exponentOf timeDelta' heightDelta' targetBlockTime halflife := by
  have hpos : 0 < (halflife : Int) := Int.natCast_pos.mpr hhalflife
  have hideal : ((targetBlockTime * heightDelta' : Nat) : Int) ≤
      (targetBlockTime * heightDelta : Nat) :=
    Int.ofNat_le.mpr (Nat.mul_le_mul_left targetBlockTime hheight)
  exact Int.tdiv_le_tdiv hpos (by lia)

theorem exponentFp_mono {timeDelta timeDelta' : Int}
    (heightDelta targetBlockTime : Nat) {halflife : Nat}
    (hhalflife : halflife ≠ 0) (htime : timeDelta ≤ timeDelta') :
    exists exponent exponent',
      exponentFp timeDelta heightDelta targetBlockTime halflife =
          Except.ok exponent ∧
        exponentFp timeDelta' heightDelta targetBlockTime halflife =
          Except.ok exponent' ∧
        exponent ≤ exponent' := by
  have hne : (halflife : Int) ≠ 0 := Int.natCast_ne_zero.mpr hhalflife
  have hpos : 0 < (halflife : Int) :=
    Int.natCast_pos.mpr (Nat.pos_of_ne_zero hhalflife)
  have hone : 0 ≤ fracOne := by decide
  refine ⟨_, _, divideSigned_of_ne_zero _ hne, divideSigned_of_ne_zero _ hne,
    Int.tdiv_le_tdiv hpos ?_⟩
  exact Int.mul_le_mul_of_nonneg_right (by lia) hone

theorem realtimeDifficulty_antitone {cfg : Config}
    (hhalflife : cfg.halflife ≠ 0) (s : State) {secs secs' : Nat}
    (hsecs : secs ≤ secs') :
    exists difficulty difficulty',
      realtimeDifficulty cfg s secs = Except.ok difficulty ∧
        realtimeDifficulty cfg s secs' = Except.ok difficulty' ∧
        difficulty' ≤ difficulty := by
  have htime : (secs : Int) - s.anchorTimestamp ≤
      secs' - s.anchorTimestamp := by lia
  rcases exponentFp_mono
      (satAdd u64Max (heightToU64 s.blockNumber) 1 - s.anchorHeight)
      cfg.targetBlockTime hhalflife htime with
    ⟨exponent, exponent', hexponent, hexponent', hle⟩
  have htarget := targetAt_mono s.anchorTarget hle
  have hpos : forall e, 0 < targetAt s.anchorTarget e := fun e =>
    (shiftTarget_range (scaleByFraction_le _ _) _).left
  refine ⟨u256Max / targetAt s.anchorTarget exponent,
    u256Max / targetAt s.anchorTarget exponent', ?_, ?_,
    Nat.div_le_div_left htarget (hpos exponent)⟩
  · unfold realtimeDifficulty
    dsimp only
    rw [computeNextTarget_of_exponent hexponent, except_ok_bind,
      divide_of_pos _ (hpos exponent)]
  · unfold realtimeDifficulty
    dsimp only
    rw [computeNextTarget_of_exponent hexponent', except_ok_bind,
      divide_of_pos _ (hpos exponent')]

end Difficulty
end Numen
