import Numen.Difficulty.Asert

/-!
# The target as a function of the exponent

Once the exponent is known, `compute_next_target` cannot fail any more.  What it
computes from there is written here as a function, and the two multiplication
paths, the headroom test and the clamps are reduced to bounds.
-/

namespace Numen
namespace Difficulty

open Foundation

/-- The arguments the pallet passes: the difference of two times in seconds and
a schedule that fits 64 bits. -/
structure Domain (timeDelta : Int)
    (heightDelta targetBlockTime halflife : Nat) : Prop where
  time : exists now anchor : UInt64, timeDelta = now.toNat - anchor.toNat
  ideal : targetBlockTime * heightDelta < 2 ^ 64
  halflife_pos : 1 ≤ halflife
  halflife_le : halflife ≤ u64Max

def exponentOf (timeDelta : Int)
    (heightDelta targetBlockTime halflife : Nat) : Int :=
  ((timeDelta - (targetBlockTime * heightDelta : Nat)) * 65536).tdiv halflife

/-- The fixed-point factor of the fraction of an exponent. -/
def factorOf (exponent : Int) : Nat :=
  (fracFactor (fracPart exponent)).toNat

def targetAt (anchorTarget : Nat) (exponent : Int) : Nat :=
  shiftTarget (scaleByFraction anchorTarget (factorOf exponent))
    (intPart exponent)

theorem exponentFp_eq {timeDelta : Int}
    {heightDelta targetBlockTime halflife : Nat}
    (h : Domain timeDelta heightDelta targetBlockTime halflife) :
    exponentFp timeDelta heightDelta targetBlockTime halflife =
      Except.ok (exponentOf timeDelta heightDelta targetBlockTime
        halflife) := by
  have hne : (halflife : Int) ≠ 0 :=
    Int.natCast_ne_zero.mpr (Nat.one_le_iff_ne_zero.mp h.halflife_pos)
  unfold exponentFp
  rw [Nat.mod_eq_of_lt h.ideal]
  exact divideSigned_of_ne_zero _ hne

theorem computeNextTarget_of_exponent {timeDelta exponent : Int}
    {heightDelta targetBlockTime halflife : Nat}
    (h : exponentFp timeDelta heightDelta targetBlockTime halflife =
      Except.ok exponent) (anchorTarget : Nat) :
    computeNextTarget anchorTarget timeDelta heightDelta targetBlockTime
      halflife = Except.ok (targetAt anchorTarget exponent) := by
  have hone : 0 ≤ fracOne := by decide
  have hfactor := fracOne_le_fracFactor (fracPart_nonneg exponent)
  unfold computeNextTarget
  rw [h, except_ok_bind, toUnsigned_of_nonneg (Int.le_trans hone hfactor),
    except_ok_bind]
  rfl

theorem computeNextTarget_eq {timeDelta : Int}
    {heightDelta targetBlockTime halflife : Nat}
    (h : Domain timeDelta heightDelta targetBlockTime halflife)
    (anchorTarget : Nat) :
    computeNextTarget anchorTarget timeDelta heightDelta targetBlockTime
      halflife = Except.ok (targetAt anchorTarget (exponentOf timeDelta
        heightDelta targetBlockTime halflife)) :=
  computeNextTarget_of_exponent (exponentFp_eq h) anchorTarget

/-!
## The factor
-/

theorem intPart_eq_div (exponent : Int) :
    intPart exponent = exponent / 65536 := by
  unfold intPart
  rw [Int.shiftRight_eq_div_pow]
  rfl

theorem fracPart_lt (exponent : Int) : fracPart exponent < 65536 := by
  rw [fracPart_eq_emod]
  exact Int.emod_lt_of_pos exponent (by decide)

theorem fracFactor_eq {x : Int} (hx : 0 ≤ x) :
    fracFactor x = 65536 + 45426 * x / 65536 +
      15736 * x / 65536 * x / 65536 +
      3638 * x / 65536 * x / 65536 * x / 65536 := by
  have hterm : forall a : Int, 0 ≤ a ->
      (a * x).tdiv fracOne = a * x / 65536 ∧ 0 ≤ a * x / 65536 := by
    intro a ha
    have hmul := Int.mul_nonneg ha hx
    exact ⟨Int.tdiv_eq_ediv_of_nonneg hmul,
      Int.ediv_nonneg hmul (by decide)⟩
  rcases hterm 45426 (by decide) with ⟨hone, _⟩
  rcases hterm 15736 (by decide) with ⟨htwo, htwo'⟩
  rcases hterm _ htwo' with ⟨htwice, _⟩
  rcases hterm 3638 (by decide) with ⟨hthree, hthree'⟩
  rcases hterm _ hthree' with ⟨hsquare, hsquare'⟩
  rcases hterm _ hsquare' with ⟨hcube, _⟩
  unfold fracFactor
  dsimp only
  rw [hone, htwo, htwice, hthree, hsquare, hcube]
  rfl

theorem mul_ediv_mono {a b x y : Int} (ha : 0 ≤ a) (hab : a ≤ b) (hx : 0 ≤ x)
    (hxy : x ≤ y) : a * x / 65536 ≤ b * y / 65536 := by
  have hmul : a * x ≤ b * y :=
    Int.mul_le_mul hab hxy hx (Int.le_trans ha hab)
  exact Int.ediv_le_ediv (by decide) hmul

theorem fracFactor_mono {x y : Int} (hx : 0 ≤ x) (hxy : x ≤ y) :
    fracFactor x ≤ fracFactor y := by
  have hnonneg : forall {a : Int}, 0 ≤ a -> 0 ≤ a * x / 65536 := by
    intro a ha
    exact Int.ediv_nonneg (Int.mul_nonneg ha hx) (by decide)
  have hone : 45426 * x / 65536 ≤ 45426 * y / 65536 :=
    mul_ediv_mono (by decide) (Int.le_refl _) hx hxy
  have htwo : 15736 * x / 65536 ≤ 15736 * y / 65536 :=
    mul_ediv_mono (by decide) (Int.le_refl _) hx hxy
  have hthree : 3638 * x / 65536 ≤ 3638 * y / 65536 :=
    mul_ediv_mono (by decide) (Int.le_refl _) hx hxy
  have htwice := mul_ediv_mono (hnonneg (by decide)) htwo hx hxy
  have hsquare := mul_ediv_mono (hnonneg (by decide)) hthree hx hxy
  have hcube :=
    mul_ediv_mono (hnonneg (hnonneg (by decide))) hsquare hx hxy
  rw [fracFactor_eq hx, fracFactor_eq (Int.le_trans hx hxy)]
  lia

theorem cast_factorOf (exponent : Int) :
    (factorOf exponent : Int) = fracFactor (fracPart exponent) := by
  have hone : 0 ≤ fracOne := by decide
  exact Int.toNat_of_nonneg (Int.le_trans hone
    (fracOne_le_fracFactor (fracPart_nonneg exponent)))

theorem le_factorOf (exponent : Int) : 65536 ≤ factorOf exponent := by
  have hle : (65536 : Int) ≤ fracFactor (fracPart exponent) :=
    fracOne_le_fracFactor (fracPart_nonneg exponent)
  rw [← cast_factorOf] at hle
  exact Int.ofNat_le.mp hle

theorem factorOf_le (exponent : Int) : factorOf exponent ≤ 130330 := by
  have hlast : fracFactor 65535 = 130330 := by decide
  have hfraction : fracPart exponent ≤ 65535 := by
    have := fracPart_lt exponent
    lia
  have hle := fracFactor_mono (fracPart_nonneg exponent) hfraction
  rw [hlast, ← cast_factorOf] at hle
  exact Int.ofNat_le.mp hle

/-!
## Multiplication, shift and clamp
-/

theorem scaleByFraction_eq (anchorTarget factor : Nat) :
    scaleByFraction anchorTarget factor =
      min (anchorTarget * factor / 65536) u256Max := by
  have hone : fracOne.toNat = 65536 := rfl
  unfold scaleByFraction
  dsimp only
  rw [hone]
  split
  · rename_i hfits
    exact (Nat.min_eq_left (Nat.le_trans (Nat.div_le_self _ _) hfits)).symm
  · split
    · rename_i hfits
      exact (Nat.min_eq_left hfits).symm
    · rename_i hlarge
      exact (Nat.min_eq_right (Nat.le_of_not_le hlarge)).symm

theorem atLeastOne_eq (result : Nat) : atLeastOne result = max 1 result := by
  unfold atLeastOne
  split
  · rename_i hzero
    rw [hzero]
    rfl
  · rename_i hne
    exact (Nat.max_eq_right (Nat.one_le_iff_ne_zero.mpr hne)).symm

theorem le_u256Max {n : Nat} : n ≤ u256Max <-> n < 2 ^ 256 :=
  Nat.le_sub_one_iff_lt (Nat.two_pow_pos 256)

theorem lt_two_pow_bits (n : Nat) : n < 2 ^ bits n := by
  unfold bits
  split
  · rename_i hzero
    rw [hzero]
    decide
  · exact Nat.lt_log2_self

theorem two_pow_bits_sub_one_le {n : Nat} (h : n ≠ 0) :
    2 ^ (bits n - 1) ≤ n := by
  unfold bits
  rw [if_neg h, Nat.add_sub_cancel]
  exact Nat.log2_self_le h

theorem bits_le {n width : Nat} (h : n < 2 ^ width) : bits n ≤ width := by
  unfold bits
  split
  · exact Nat.zero_le width
  · rename_i hne
    exact (Nat.log2_lt hne).mpr h

theorem shiftTarget_of_nonneg {result : Nat} (h : result ≤ u256Max)
    {int : Int} (hint : 0 ≤ int) (hlt : int < 256) :
    shiftTarget result int =
      max 1 (min u256Max (result * 2 ^ int.toNat)) := by
  have hbits : bits result ≤ 256 := bits_le (le_u256Max.mp h)
  unfold shiftTarget
  dsimp only
  rw [if_pos hint, if_neg (Int.not_le.mpr hlt)]
  by_cases hroom : 256 - bits result < int.toNat
  · rw [if_pos hroom]
    have hne : result ≠ 0 := by
      rintro rfl
      have : bits 0 = 0 := rfl
      lia
    have hover : 2 ^ 256 ≤ result * 2 ^ int.toNat :=
      calc 2 ^ 256 ≤ 2 ^ (bits result - 1 + int.toNat) :=
            Nat.pow_le_pow_right (by decide) (by lia)
        _ = 2 ^ (bits result - 1) * 2 ^ int.toNat := Nat.pow_add 2 _ _
        _ ≤ result * 2 ^ int.toNat :=
            Nat.mul_le_mul_right _ (two_pow_bits_sub_one_le hne)
    have hcut : u256Max ≤ result * 2 ^ int.toNat :=
      Nat.le_trans (Nat.sub_le _ 1) hover
    rw [Nat.min_eq_left hcut]
    rfl
  · rw [if_neg hroom, atLeastOne_eq, Nat.shiftLeft_eq]
    have hunder : result * 2 ^ int.toNat < 2 ^ 256 := by
      have hmul : result * 2 ^ int.toNat < 2 ^ bits result * 2 ^ int.toNat :=
        Nat.mul_lt_mul_of_pos_right (lt_two_pow_bits result)
          (Nat.two_pow_pos _)
      rw [← Nat.pow_add] at hmul
      exact Nat.lt_of_lt_of_le hmul
        (Nat.pow_le_pow_right (by decide) (by lia))
    rw [Nat.mod_eq_of_lt hunder, Nat.min_eq_right (le_u256Max.mpr hunder)]

theorem shiftTarget_of_large (result : Nat) {int : Int} (hint : 256 ≤ int) :
    shiftTarget result int = u256Max := by
  unfold shiftTarget
  rw [if_pos (Int.le_trans (by decide) hint), if_pos hint]

theorem shiftTarget_of_neg {result : Nat} (h : result ≤ u256Max) {int : Int}
    (hint : int < 0) :
    shiftTarget result int = max 1 (result / 2 ^ (-int).toNat) := by
  unfold shiftTarget
  dsimp only
  rw [if_neg (Int.not_le.mpr hint)]
  by_cases hsmall : int ≤ -256
  · rw [if_pos hsmall]
    have hpow : 2 ^ 256 ≤ 2 ^ (-int).toNat :=
      Nat.pow_le_pow_right (by decide) (by lia)
    have hlt : result < 2 ^ (-int).toNat :=
      Nat.lt_of_lt_of_le (le_u256Max.mp h) hpow
    rw [Nat.div_eq_of_lt hlt]
    rfl
  · rw [if_neg hsmall, atLeastOne_eq, Nat.shiftRight_eq_div_pow]

end Difficulty
end Numen
