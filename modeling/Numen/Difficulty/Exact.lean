import Numen.Difficulty.Target

/-!
# The target against the formula

What `compute_next_target` stands for, over unbounded integers: the anchor
target times the factor of the fraction, divided once.  The code cuts the
product off at 256 bits before it shifts to the right, so it loses value where
the product is too large and the shifted product is not.
-/

namespace Numen
namespace Difficulty

open Foundation

/-- The anchor target times two to the power of the exponent, with the factor of
the fraction as computed, within the range of a target. -/
def exactTarget (anchorTarget : Nat) (exponent : Int) : Nat :=
  let product := anchorTarget * factorOf exponent
  let int := intPart exponent
  if int < 0 then
    max 1 (min u256Max (product / 2 ^ (16 - int).toNat))
  else
    min u256Max (product / 65536 * 2 ^ int.toNat)

section Product

variable {anchorTarget : Nat} {exponent : Int}

theorem one_le_quotient (hanchor : 1 ≤ anchorTarget) (exponent : Int) :
    1 ≤ anchorTarget * factorOf exponent / 65536 := by
  have hmul : 1 * 65536 ≤ anchorTarget * factorOf exponent :=
    Nat.mul_le_mul hanchor (le_factorOf exponent)
  exact (Nat.le_div_iff_mul_le (by decide)).mpr hmul

theorem quotient_lt (hanchor : anchorTarget ≤ u256Max) (exponent : Int) :
    anchorTarget * factorOf exponent / 65536 < 2 ^ 256 * 2 := by
  have hmul : anchorTarget * factorOf exponent ≤ anchorTarget * (65536 * 2) :=
    Nat.mul_le_mul_left anchorTarget
      (Nat.le_trans (factorOf_le exponent) (by decide))
  have hlt := le_u256Max.mp hanchor
  lia

theorem product_div_shift {int : Int} (hint : int < 0) (product : Nat) :
    product / 2 ^ (16 - int).toNat =
      product / 65536 / 2 ^ (-int).toNat := by
  have hshift : (16 - int).toNat = 16 + (-int).toNat := by lia
  rw [hshift, Nat.pow_add, ← Nat.div_div_eq_div_mul]

theorem min_mul_of_pos (a b : Nat) {c : Nat} (hc : 0 < c) :
    min b (min a b * c) = min b (a * c) := by
  by_cases hab : a ≤ b
  · rw [Nat.min_eq_left hab]
  · have hba : b ≤ a := Nat.le_of_not_le hab
    have hleft : b ≤ b * c := Nat.le_mul_of_pos_right b hc
    have hright : b ≤ a * c := Nat.le_trans hba (Nat.le_mul_of_pos_right a hc)
    rw [Nat.min_eq_right hba, Nat.min_eq_left hleft, Nat.min_eq_left hright]

theorem targetAt_of_nonneg (hanchor : 1 ≤ anchorTarget)
    (hint : 0 ≤ intPart exponent) :
    targetAt anchorTarget exponent = exactTarget anchorTarget exponent := by
  have hquotient := one_le_quotient hanchor exponent
  have hexact : exactTarget anchorTarget exponent =
      min u256Max (anchorTarget * factorOf exponent / 65536 *
        2 ^ (intPart exponent).toNat) :=
    if_neg (Int.not_lt.mpr hint)
  unfold targetAt
  rw [hexact, scaleByFraction_eq]
  generalize anchorTarget * factorOf exponent / 65536 = quotient at hquotient
  have hpow := Nat.two_pow_pos (intPart exponent).toNat
  by_cases hlarge : 256 ≤ intPart exponent
  · have hover : 2 ^ 256 ≤ quotient * 2 ^ (intPart exponent).toNat :=
      calc 2 ^ 256 ≤ 2 ^ (intPart exponent).toNat :=
            Nat.pow_le_pow_right (by decide) (by lia)
        _ ≤ quotient * 2 ^ (intPart exponent).toNat :=
            Nat.le_mul_of_pos_left _ hquotient
    have hcut : u256Max ≤ quotient * 2 ^ (intPart exponent).toNat :=
      Nat.le_trans (Nat.sub_le _ 1) hover
    rw [shiftTarget_of_large _ hlarge, Nat.min_eq_left hcut]
  · rw [shiftTarget_of_nonneg (Nat.min_le_right _ _) hint
      (Int.not_le.mp hlarge), min_mul_of_pos _ _ hpow]
    have hproduct : 1 ≤ quotient * 2 ^ (intPart exponent).toNat :=
      Nat.mul_pos hquotient hpow
    exact Nat.max_eq_right (Nat.le_min.mpr ⟨by decide, hproduct⟩)

theorem exactTarget_of_neg (hanchor : anchorTarget ≤ u256Max)
    (hint : intPart exponent < 0) :
    exactTarget anchorTarget exponent =
      max 1 (anchorTarget * factorOf exponent / 65536 /
        2 ^ (-intPart exponent).toNat) := by
  have hexact : exactTarget anchorTarget exponent =
      max 1 (min u256Max (anchorTarget * factorOf exponent /
        2 ^ (16 - intPart exponent).toNat)) :=
    if_pos hint
  have hlt := quotient_lt hanchor exponent
  have hshift : 2 ^ 1 ≤ 2 ^ (-intPart exponent).toNat :=
    Nat.pow_le_pow_right (by decide) (by lia)
  have hfits : anchorTarget * factorOf exponent / 65536 /
      2 ^ (-intPart exponent).toNat ≤ u256Max := by
    apply le_u256Max.mpr
    apply (Nat.div_lt_iff_lt_mul (Nat.two_pow_pos _)).mpr
    exact Nat.lt_of_lt_of_le hlt (Nat.mul_le_mul_left _ hshift)
  rw [hexact, product_div_shift hint, Nat.min_eq_right hfits]

theorem targetAt_of_neg (anchorTarget : Nat) (hint : intPart exponent < 0) :
    targetAt anchorTarget exponent =
      max 1 (min (anchorTarget * factorOf exponent / 65536) u256Max /
        2 ^ (-intPart exponent).toNat) := by
  unfold targetAt
  rw [scaleByFraction_eq, shiftTarget_of_neg (Nat.min_le_right _ _) hint]

theorem cut_shift_lt {quotient shift : Nat} (hcut : u256Max < quotient)
    (hshift : shift < 256) :
    max 1 (u256Max / 2 ^ shift) < max 1 (quotient / 2 ^ shift) := by
  have hpow := Nat.two_pow_pos shift
  have hsplit : 2 ^ (256 - shift) * 2 ^ shift = 2 ^ 256 := by
    rw [← Nat.pow_add, Nat.sub_add_cancel (Nat.le_of_lt hshift)]
  have hcode : u256Max / 2 ^ shift < 2 ^ (256 - shift) := by
    apply (Nat.div_lt_iff_lt_mul hpow).mpr
    rw [hsplit]
    exact le_u256Max.mp (Nat.le_refl _)
  have hexact : 2 ^ (256 - shift) ≤ quotient / 2 ^ shift := by
    apply (Nat.le_div_iff_mul_le hpow).mpr
    rw [hsplit]
    unfold u256Max at hcut
    lia
  have htwo : 2 ^ 1 ≤ 2 ^ (256 - shift) :=
    Nat.pow_le_pow_right (by decide) (by lia)
  lia

theorem cut_shift_eq {quotient shift : Nat} (hlt : quotient < 2 ^ 256 * 2)
    (hshift : 256 ≤ shift) :
    max 1 (u256Max / 2 ^ shift) = max 1 (quotient / 2 ^ shift) := by
  have hpow : 2 ^ 256 ≤ 2 ^ shift := Nat.pow_le_pow_right (by decide) hshift
  have hcode : u256Max / 2 ^ shift = 0 :=
    Nat.div_eq_of_lt (Nat.lt_of_lt_of_le (le_u256Max.mp (Nat.le_refl _)) hpow)
  have hexact : quotient / 2 ^ shift < 2 := by
    apply (Nat.div_lt_iff_lt_mul (Nat.two_pow_pos _)).mpr
    lia
  lia

theorem targetAt_eq_exactTarget_iff (hanchor : 1 ≤ anchorTarget)
    (hmax : anchorTarget ≤ u256Max) :
    targetAt anchorTarget exponent = exactTarget anchorTarget exponent <->
      0 ≤ intPart exponent ∨ intPart exponent ≤ -256 ∨
        anchorTarget * factorOf exponent / 65536 ≤ u256Max := by
  by_cases hint : 0 ≤ intPart exponent
  · exact ⟨fun _ => Or.inl hint, fun _ => targetAt_of_nonneg hanchor hint⟩
  · have hneg := Int.not_le.mp hint
    have hlt := quotient_lt hmax exponent
    rw [targetAt_of_neg anchorTarget hneg, exactTarget_of_neg hmax hneg]
    generalize anchorTarget * factorOf exponent / 65536 = quotient at hlt
    by_cases hfits : quotient ≤ u256Max
    · rw [Nat.min_eq_left hfits]
      exact ⟨fun _ => Or.inr (Or.inr hfits), fun _ => rfl⟩
    · have hcut := Nat.lt_of_not_le hfits
      rw [Nat.min_eq_right (Nat.le_of_lt hcut)]
      by_cases hsmall : intPart exponent ≤ -256
      · exact ⟨fun _ => Or.inr (Or.inl hsmall),
          fun _ => cut_shift_eq hlt (by lia)⟩
      · have hdiffer := Nat.ne_of_lt (cut_shift_lt hcut
          (by lia : (-intPart exponent).toNat < 256))
        constructor
        · intro heq
          exact absurd heq hdiffer
        · rintro (hnonneg | hsmall' | hfits')
          · exact absurd hnonneg hint
          · exact absurd hsmall' hsmall
          · exact absurd hfits' hfits

end Product

/-- The code computes the formula exactly where the exponent is not negative,
where it is so small that the target is one anyway, and where the scaled anchor
target fits 256 bits before the shift. -/
theorem next_target_is_exact_iff {anchorTarget : Nat} {timeDelta : Int}
    {heightDelta targetBlockTime halflife : Nat}
    (hanchor : 1 ≤ anchorTarget) (hmax : anchorTarget ≤ u256Max)
    (hdomain : Domain timeDelta heightDelta targetBlockTime halflife) :
    let exponent :=
      exponentOf timeDelta heightDelta targetBlockTime halflife
    computeNextTarget anchorTarget timeDelta heightDelta targetBlockTime
        halflife = Except.ok (exactTarget anchorTarget exponent) <->
      0 ≤ intPart exponent ∨ intPart exponent ≤ -256 ∨
        anchorTarget * factorOf exponent / 65536 ≤ u256Max := by
  intro exponent
  rw [computeNextTarget_eq hdomain]
  have hok : (Except.ok (targetAt anchorTarget exponent) :
      Except Panic Nat) =
      Except.ok (exactTarget anchorTarget exponent) <->
        targetAt anchorTarget exponent = exactTarget anchorTarget exponent :=
    ⟨Except.ok.inj, congrArg Except.ok⟩
  rw [hok]
  exact targetAt_eq_exactTarget_iff hanchor hmax

/-- Half the largest target, one halflife and a half ahead of schedule. -/
theorem half_maximum_is_exact :
    computeNextTarget (2 ^ 255) (-1800 - 900) 0 10 1800 =
      Except.ok (exactTarget (2 ^ 255) (exponentOf (-1800 - 900) 0 10
        1800)) := by
  have hdomain : Domain (-1800 - 900) 0 10 1800 :=
    ⟨⟨0, 2700, rfl⟩, by decide, by decide, by decide⟩
  exact (next_target_is_exact_iff (by decide) (by decide) hdomain).mpr
    (Or.inr (Or.inr (by decide +kernel)))

/-- The largest target, half a halflife ahead of schedule: the code halves it,
the formula keeps seven tenths. -/
theorem maximum_loses_its_highest_bit :
    computeNextTarget u256Max (-900) 0 10 1800 = Except.ok (2 ^ 255 - 1) ∧
      2 ^ 255 - 1 < exactTarget u256Max (exponentOf (-900) 0 10 1800) := by
  decide +kernel

end Difficulty
end Numen
