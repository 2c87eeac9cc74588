import Mathlib.Analysis.Complex.ExponentialBounds
import Numen.Difficulty.Exact
import Numen.Foundation.Enclosure

/-!
# How well the cubic follows the exponential

The module documentation of the target calculation gives the approximation of
`2 ^ x` an error below 0.013 percent.  Its coefficients are those of the Taylor
polynomial at zero, which falls behind as the fraction grows: the bound holds on
the first third of the range, and at the far end the factor is too small by more
than half a percent.  Near the place where the bound is lost the rounding of the
three terms decides, so the fractions there are listed.
-/

namespace Numen
namespace Difficulty

open Foundation

noncomputable def exactFactor (exponent : Int) : ℝ :=
  2 ^ ((exponent : ℝ) / 65536)

/-- The factor `compute_next_target` applies in its place. -/
noncomputable def appliedFactor (exponent : Int) : ℝ :=
  factorOf exponent / 65536 * 2 ^ intPart exponent

def FactorAccurate (exponent : Int) : Prop :=
  |appliedFactor exponent - exactFactor exponent| <
    0.00013 * exactFactor exponent

/-- A target that did not have to be cut off is as accurate as the factor, up to
one unit before the shift. -/
def TargetsAccurate (exponent : Int) : Prop :=
  forall anchorTarget timeDelta heightDelta targetBlockTime halflife,
    2 ^ 32 ≤ anchorTarget -> anchorTarget ≤ u256Max ->
    exponentFp timeDelta heightDelta targetBlockTime halflife =
      Except.ok exponent ->
    0 ≤ intPart exponent ->
    anchorTarget * factorOf exponent / 65536 *
      2 ^ (intPart exponent).toNat ≤ u256Max ->
    exists target,
      computeNextTarget anchorTarget timeDelta heightDelta targetBlockTime
        halflife = Except.ok target ∧
      |(target : ℝ) - anchorTarget * exactFactor exponent| <
        0.00013 * (anchorTarget * exactFactor exponent) +
          2 ^ intPart exponent

/-- The fractions for which the factor is accurate, as first and last of each
run. -/
def accurateRuns : List (Nat × Nat) :=
  [(0, 20556), (20558, 21084), (21086, 21130), (21132, 21137),
   (21139, 21143), (21145, 21150), (21152, 21182), (21184, 21189),
   (21191, 21195), (21198, 21198), (21200, 21205), (21207, 21208),
   (21211, 21234), (21236, 21247), (21249, 21257), (21260, 21264),
   (21267, 21270), (21272, 21293), (21295, 21296), (21298, 21303),
   (21305, 21309), (21312, 21316), (21321, 21322), (21325, 21326),
   (21328, 21348), (21351, 21355), (21357, 21361), (21365, 21368),
   (21370, 21371), (21374, 21374), (21378, 21378), (21381, 21401),
   (21403, 21410), (21412, 21417), (21420, 21423), (21427, 21430),
   (21435, 21436), (21438, 21456), (21458, 21462), (21465, 21469),
   (21473, 21475), (21478, 21479), (21481, 21482), (21489, 21508),
   (21511, 21521), (21524, 21524), (21527, 21531), (21536, 21537),
   (21543, 21544), (21546, 21547), (21549, 21563), (21566, 21570),
   (21573, 21577), (21580, 21583), (21586, 21586), (21589, 21590),
   (21593, 21593), (21599, 21609), (21611, 21616), (21619, 21622),
   (21624, 21625), (21628, 21629), (21631, 21632), (21635, 21638),
   (21644, 21645), (21651, 21651), (21654, 21655), (21657, 21665),
   (21667, 21671), (21674, 21678), (21682, 21684), (21686, 21687),
   (21690, 21691), (21699, 21700), (21707, 21710), (21712, 21717),
   (21720, 21726), (21729, 21730), (21732, 21733), (21737, 21739),
   (21745, 21746), (21752, 21752), (21762, 21766), (21768, 21772),
   (21775, 21779), (21782, 21782), (21784, 21785), (21787, 21788),
   (21792, 21792), (21794, 21795), (21800, 21801), (21807, 21808),
   (21816, 21821), (21823, 21827), (21831, 21834), (21839, 21840),
   (21844, 21844), (21847, 21847), (21850, 21850), (21857, 21857),
   (21863, 21863), (21870, 21873), (21875, 21876), (21878, 21880),
   (21882, 21883), (21886, 21889), (21894, 21896), (21902, 21902),
   (21912, 21912), (21919, 21919), (21925, 21928), (21932, 21932),
   (21934, 21935), (21937, 21938), (21942, 21942), (21944, 21945),
   (21950, 21951), (21958, 21958), (21974, 21974), (21982, 21984),
   (21987, 21987), (21989, 21990), (21994, 21994), (21997, 21997),
   (21999, 22000), (22007, 22007), (22013, 22013), (22032, 22033),
   (22036, 22039), (22045, 22046), (22049, 22049), (22056, 22056),
   (22061, 22062), (22069, 22069), (22086, 22088), (22093, 22095),
   (22098, 22098), (22111, 22111), (22142, 22144), (22150, 22150),
   (22166, 22166), (22198, 22199), (22215, 22215), (22248, 22248),
   (22271, 22271), (22307, 22307), (22320, 22320), (22411, 22411)]

/-!
## The cubic
-/

def fractionFactor (x : Nat) : Nat :=
  65536 + 45426 * x / 65536 + 15736 * x / 65536 * x / 65536 +
    3638 * x / 65536 * x / 65536 * x / 65536

theorem factorOf_eq (exponent : Int) :
    factorOf exponent = fractionFactor (fracPart exponent).toNat := by
  have hnonneg := fracPart_nonneg exponent
  have hcast : ((fracPart exponent).toNat : Int) = fracPart exponent :=
    Int.toNat_of_nonneg hnonneg
  have hint : (factorOf exponent : Int) =
      (fractionFactor (fracPart exponent).toNat : Int) := by
    rw [cast_factorOf, fracFactor_eq hnonneg]
    unfold fractionFactor
    push_cast
    rw [hcast]
  exact Int.ofNat_inj.mp hint

/-- The polynomial without rounding, at the fraction `t`. -/
noncomputable def cubic (t : ℝ) : ℝ :=
  1 + 45426 / 65536 * t + 15736 / 65536 * t ^ 2 + 3638 / 65536 * t ^ 3

theorem term_bounds {a x : Nat} {t low high : ℝ} (ht : t = (x : ℝ) / 65536)
    (hlow : low ≤ a) (hhigh : a ≤ high) :
    low * t - 1 ≤ (a * x / 65536 : Nat) ∧
      ((a * x / 65536 : Nat) : ℝ) ≤ high * t := by
  have hnonneg : 0 ≤ t := by
    rw [ht]
    positivity
  have hlow' := mul_le_mul_of_nonneg_right hlow hnonneg
  have hhigh' := mul_le_mul_of_nonneg_right hhigh hnonneg
  have hlt : a * x < 65536 * (a * x / 65536 + 1) :=
    Nat.lt_mul_div_succ _ (by decide)
  have hle : 65536 * (a * x / 65536) ≤ a * x := Nat.mul_div_le _ _
  have hlt' : (a * x : ℝ) < 65536 * ((a * x / 65536 : Nat) + 1) := by
    exact_mod_cast hlt
  have hle' : 65536 * ((a * x / 65536 : Nat) : ℝ) ≤ a * x := by
    exact_mod_cast hle
  have hmul : (a : ℝ) * t = a * x / 65536 := by
    rw [ht]
    ring
  constructor
  · linarith
  · linarith

theorem fractionFactor_bounds {x : Nat} {t : ℝ} (ht : t = (x : ℝ) / 65536) :
    cubic t - (3 + 2 * t + t ^ 2) / 65536 ≤ (fractionFactor x : ℝ) / 65536 ∧
      (fractionFactor x : ℝ) / 65536 ≤ cubic t := by
  have hterm : forall a : Nat, a * t - 1 ≤ (a * x / 65536 : Nat) ∧
      ((a * x / 65536 : Nat) : ℝ) ≤ a * t := fun a =>
    term_bounds ht le_rfl le_rfl
  have hone := hterm 45426
  have htwo := term_bounds ht (hterm 15736).left (hterm 15736).right
  have hthree := term_bounds ht (hterm 3638).left (hterm 3638).right
  have hthree' := term_bounds ht hthree.left hthree.right
  unfold cubic fractionFactor
  push_cast at hone htwo hthree' ⊢
  constructor
  · linarith
  · linarith

/-!
## The exponential
-/

theorem two_rpow_eq_exp (t : ℝ) : (2 : ℝ) ^ t = Real.exp (Real.log 2 * t) :=
  Real.rpow_def_of_pos (by norm_num) t

theorem le_two_rpow {t : ℝ} (ht : 0 ≤ t) :
    1 + 0.6931471803 * t + (0.6931471803 * t) ^ 2 / 2 +
      (0.6931471803 * t) ^ 3 / 6 + (0.6931471803 * t) ^ 4 / 24 +
      (0.6931471803 * t) ^ 5 / 120 ≤ (2 : ℝ) ^ t := by
  have hlog : 0.6931471803 * t ≤ Real.log 2 * t :=
    mul_le_mul_of_nonneg_right Real.log_two_gt_d9.le ht
  have hsum := Real.sum_le_exp_of_nonneg
    (by positivity : (0 : ℝ) ≤ 0.6931471803 * t) 6
  rw [two_rpow_eq_exp]
  refine le_trans ?_ (hsum.trans (Real.exp_le_exp.mpr hlog))
  simp [Finset.sum_range_succ, Nat.factorial]

theorem two_rpow_le {t : ℝ} (ht : 0 ≤ t) (hone : t ≤ 1) :
    (2 : ℝ) ^ t ≤
      1 + 0.6931471808 * t + (0.6931471808 * t) ^ 2 / 2 +
        (0.6931471808 * t) ^ 3 / 6 + (0.6931471808 * t) ^ 4 / 24 +
        (0.6931471808 * t) ^ 5 / 120 +
        (0.6931471808 * t) ^ 6 * 7 / 4320 := by
  have hlog : Real.log 2 * t ≤ 0.6931471808 * t :=
    mul_le_mul_of_nonneg_right Real.log_two_lt_d9.le ht
  have hsum := Real.exp_bound'
    (by positivity : (0 : ℝ) ≤ 0.6931471808 * t) (by linarith)
    (by norm_num : 0 < 6)
  rw [two_rpow_eq_exp]
  refine ((Real.exp_le_exp.mpr hlog).trans hsum).trans ?_
  norm_num [Finset.sum_range_succ, Nat.factorial]

theorem cubic_lt_above {t : ℝ} (ht : 0 ≤ t) (hone : t ≤ 1) :
    cubic t < 1.00013 * (2 : ℝ) ^ t := by
  have hexp := le_two_rpow ht
  have hsquare : 0 ≤ t ^ 2 := by positivity
  have hcube : t ^ 3 ≤ 1 := pow_le_one₀ ht hone
  have hfourth : 0 ≤ t ^ 4 := by positivity
  have hfifth : 0 ≤ t ^ 5 := by positivity
  unfold cubic
  ring_nf at hexp ⊢
  linarith

theorem pow_le_chord {t bound : ℝ} (ht : 0 ≤ t) (hbound : t ≤ bound) (k : Nat) :
    t ^ (k + 1) ≤ bound ^ k * t := by
  rw [pow_succ]
  gcongr

theorem chord_le_pow {t bound : ℝ} (hbound : 0 ≤ bound) (ht : bound ≤ t)
    (k : Nat) : bound ^ k * t ≤ t ^ (k + 1) := by
  have hnonneg : 0 ≤ t := hbound.trans ht
  rw [pow_succ]
  gcongr

theorem cubic_gt_of_small {t : ℝ} (ht : 0 ≤ t) (hsmall : t ≤ 20200 / 65536) :
    0.99987 * (2 : ℝ) ^ t < cubic t - (3 + 2 * t + t ^ 2) / 65536 := by
  have hexp := two_rpow_le ht (hsmall.trans (by norm_num))
  -- On a line the bound need only be checked at the two ends.
  have hsquare := pow_le_chord ht hsmall 1
  have hcube : 0 ≤ t ^ 3 := by positivity
  have hfourth := pow_le_chord ht hsmall 3
  have hfifth := pow_le_chord ht hsmall 4
  have hsixth := pow_le_chord ht hsmall 5
  unfold cubic
  ring_nf at hexp hsquare hfourth hfifth hsixth ⊢
  linarith

theorem cubic_le_of_large {t : ℝ} (hlarge : 23200 / 65536 ≤ t) (hone : t ≤ 1) :
    cubic t ≤ 0.99987 * (2 : ℝ) ^ t := by
  have hbound : (0 : ℝ) ≤ 23200 / 65536 := by norm_num
  have ht := hbound.trans hlarge
  have hexp := le_two_rpow ht
  have hsquare := chord_le_pow hbound hlarge 1
  have hcube : t ^ 3 ≤ t ^ 2 := pow_le_pow_of_le_one ht hone (by norm_num)
  have hfourth := chord_le_pow hbound hlarge 3
  have hfifth := chord_le_pow hbound hlarge 4
  unfold cubic
  ring_nf at hexp hsquare hfourth hfifth ⊢
  linarith

/-!
## All fractions
-/

/-- The root of two the scan advances by, and the power it starts from. -/
def unitRoot : Bounds :=
  ⟨18446939178327825412, 18446939178327825413⟩

def firstRoot : Bounds :=
  ⟨22840733710573765296, 22840733710573765297⟩

theorem unitRoot_encloses : Bounds.Encloses 65536 (2 ^ 64) 1 unitRoot := by
  rw [Bounds.encloses_iff (by decide)]
  decide +kernel

theorem firstRoot_encloses :
    Bounds.Encloses 65536 (2 ^ 64) 20201 firstRoot := by
  rw [Bounds.encloses_iff (by decide)]
  decide +kernel

theorem scan_accurateRuns :
    scan (2 ^ 64) (99987 * 65536) (fun x => 100000 * fractionFactor x)
      unitRoot 2999 20201 firstRoot accurateRuns = true := by
  decide +kernel

theorem fraction_gt_iff {x : Nat} (hx : x < 65536) :
    0.99987 * (2 : ℝ) ^ ((x : ℝ) / 65536) < (fractionFactor x : ℝ) / 65536 <->
      listed accurateRuns x = true := by
  have ht : (0 : ℝ) ≤ (x : ℝ) / 65536 := by positivity
  have hreal : (x : ℝ) < 65536 := by exact_mod_cast hx
  have hone : (x : ℝ) / 65536 ≤ 1 := by linarith
  have hround := fractionFactor_bounds (x := x) rfl
  by_cases hsmall : x ≤ 20200
  · have hsmall' : (x : ℝ) ≤ 20200 := by exact_mod_cast hsmall
    have hgt := cubic_gt_of_small ht (by linarith)
    have hlisted : listed accurateRuns x = decide (0 ≤ x) :=
      if_pos (hsmall.trans (by decide))
    rw [hlisted]
    exact iff_of_true (hgt.trans_le hround.left)
      (decide_eq_true (Nat.zero_le x))
  · by_cases hlarge : 23200 ≤ x
    · have hlarge' : (23200 : ℝ) ≤ x := by exact_mod_cast hlarge
      have hle := cubic_le_of_large (by linarith) hone
      have hends : ∀ run ∈ accurateRuns, run.2 < 23200 := by
        decide +kernel
      have hlisted : listed accurateRuns x = false :=
        listed_of_past fun run hrun => (hends run hrun).trans_le hlarge
      rw [hlisted]
      exact iff_of_false (not_lt.mpr (hround.right.trans hle)) Bool.false_ne_true
    · rw [← scan_sound (by decide) unitRoot_encloses firstRoot_encloses
        scan_accurateRuns (by lia : 20201 ≤ x) (by lia)]
      push_cast
      constructor
      · intro hgt
        linarith
      · intro hgt
        linarith

/-!
## All exponents
-/

theorem exactFactor_eq (exponent : Int) :
    exactFactor exponent =
      2 ^ intPart exponent *
        (2 : ℝ) ^ (((fracPart exponent).toNat : ℝ) / 65536) := by
  have hfrac : (((fracPart exponent).toNat : Int) : ℝ) = fracPart exponent := by
    rw [Int.toNat_of_nonneg (fracPart_nonneg exponent)]
  have hsplit : exponent = intPart exponent * 65536 + fracPart exponent := by
    rw [intPart_eq_div, fracPart_eq_emod]
    lia
  have hreal : (exponent : ℝ) =
      intPart exponent * 65536 + (fracPart exponent).toNat := by
    rw [Int.cast_natCast] at hfrac
    rw [hfrac]
    exact_mod_cast hsplit
  have hdivided : (exponent : ℝ) / 65536 =
      intPart exponent + ((fracPart exponent).toNat : ℝ) / 65536 := by
    rw [hreal]
    ring
  unfold exactFactor
  rw [hdivided, Real.rpow_add (by norm_num), Real.rpow_intCast]

theorem factorAccurate_iff (exponent : Int) :
    FactorAccurate exponent <->
      listed accurateRuns (fracPart exponent).toNat = true := by
  have hx : (fracPart exponent).toNat < 65536 := by
    have := fracPart_lt exponent
    lia
  have hpower : (0 : ℝ) < 2 ^ intPart exponent := by positivity
  have hround := fractionFactor_bounds (x := (fracPart exponent).toNat) rfl
  have habove := cubic_lt_above
    (by positivity : (0 : ℝ) ≤ ((fracPart exponent).toNat : ℝ) / 65536)
    (by
      rw [div_le_one (by norm_num)]
      exact_mod_cast hx.le)
  rw [← fraction_gt_iff hx]
  unfold FactorAccurate appliedFactor
  rw [exactFactor_eq, factorOf_eq, mul_comm _ ((2 : ℝ) ^ intPart exponent),
    ← mul_sub, abs_mul, abs_of_pos hpower, mul_left_comm,
    mul_lt_mul_iff_right₀ hpower, abs_sub_lt_iff]
  constructor
  · intro h
    linarith
  · intro h
    constructor
    · linarith
    · linarith

theorem abs_target_sub_lt (anchorTarget : Nat) {exponent : Int}
    (hint : 0 ≤ intPart exponent) :
    |((anchorTarget * factorOf exponent / 65536 *
        2 ^ (intPart exponent).toNat : Nat) : ℝ) -
      anchorTarget * appliedFactor exponent| < 2 ^ intPart exponent := by
  have hpower : (0 : ℝ) < 2 ^ intPart exponent := by positivity
  have hcast : ((2 ^ (intPart exponent).toNat : Nat) : ℝ) =
      2 ^ intPart exponent := by
    rw [Nat.cast_pow, ← zpow_natCast, Int.toNat_of_nonneg hint]
    rfl
  have hlt : anchorTarget * factorOf exponent <
      65536 * (anchorTarget * factorOf exponent / 65536 + 1) :=
    Nat.lt_mul_div_succ _ (by decide)
  have hle : 65536 * (anchorTarget * factorOf exponent / 65536) ≤
      anchorTarget * factorOf exponent := Nat.mul_div_le _ _
  have hlt' : (anchorTarget * factorOf exponent : ℝ) <
      65536 * ((anchorTarget * factorOf exponent / 65536 : Nat) + 1) := by
    exact_mod_cast hlt
  have hle' : 65536 * ((anchorTarget * factorOf exponent / 65536 : Nat) : ℝ) ≤
      anchorTarget * factorOf exponent := by
    exact_mod_cast hle
  have hfloor : |((anchorTarget * factorOf exponent / 65536 : Nat) : ℝ) -
      anchorTarget * (factorOf exponent / 65536)| < 1 := by
    rw [abs_sub_lt_iff]
    constructor
    · linarith
    · linarith
  unfold appliedFactor
  rw [Nat.cast_mul, hcast, ← mul_assoc, ← sub_mul, abs_mul, abs_of_pos hpower]
  exact mul_lt_of_lt_one_left hpower hfloor

theorem FactorAccurate.targetsAccurate {exponent : Int}
    (h : FactorAccurate exponent) : TargetsAccurate exponent := by
  intro anchorTarget timeDelta heightDelta targetBlockTime halflife hanchor
    hmax hexponent hint hfits
  have hpos : 1 ≤ anchorTarget := by lia
  have htarget : targetAt anchorTarget exponent =
      anchorTarget * factorOf exponent / 65536 *
        2 ^ (intPart exponent).toNat := by
    rw [targetAt_of_nonneg hpos hint]
    unfold exactTarget
    dsimp only
    rw [if_neg (Int.not_lt.mpr hint), Nat.min_eq_right hfits]
  refine ⟨targetAt anchorTarget exponent,
    computeNextTarget_of_exponent hexponent anchorTarget, ?_⟩
  have hround := abs_target_sub_lt anchorTarget hint
  have hfactor : |anchorTarget * appliedFactor exponent -
      anchorTarget * exactFactor exponent| ≤
        0.00013 * (anchorTarget * exactFactor exponent) := by
    rw [← mul_sub, abs_mul, Nat.abs_cast, mul_left_comm]
    exact mul_le_mul_of_nonneg_left h.le (Nat.cast_nonneg _)
  rw [htarget]
  have htriangle := abs_sub_le
    ((anchorTarget * factorOf exponent / 65536 *
      2 ^ (intPart exponent).toNat : Nat) : ℝ)
    (anchorTarget * appliedFactor exponent)
    (anchorTarget * exactFactor exponent)
  linarith

/-- The documented accuracy, for the factor and for every target computed with
it, is reached exactly at the listed fractions. -/
theorem approximation_is_accurate_iff (exponent : Int) :
    (FactorAccurate exponent ∧ TargetsAccurate exponent) <->
      listed accurateRuns (fracPart exponent).toNat = true := by
  rw [← factorAccurate_iff]
  constructor
  · intro h
    exact h.left
  · intro h
    exact ⟨h, h.targetsAccurate⟩

/-- One step before the next power of two the factor is too small by more than
half a percent. -/
theorem largest_fraction_is_off_by_half_a_percent :
    ¬ FactorAccurate 65535 ∧
      appliedFactor 65535 < 0.995 * exactFactor 65535 := by
  constructor
  · rw [factorAccurate_iff]
    decide +kernel
  · have hexp := le_two_rpow (by norm_num : (0 : ℝ) ≤ 65535 / 65536)
    have hfactor : factorOf 65535 = 130330 := by decide
    have hint : intPart 65535 = 0 := by decide
    unfold appliedFactor exactFactor
    rw [hfactor, hint]
    norm_num at hexp ⊢
    linarith

end Difficulty
end Numen
