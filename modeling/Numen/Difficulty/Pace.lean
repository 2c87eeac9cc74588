import Mathlib.Analysis.SpecialFunctions.Log.Base
import Numen.Difficulty.Accuracy
import Numen.Difficulty.Stall

/-!
# No chain outruns its schedule

Along a schedule height, time and target hang together: a block that comes one
halflife early has half the target.  What the three amount to is measured here
in seconds.  No block raises the measure by more than the rounding of one
exponent, whether it keeps the anchor or moves it, and so a chain gets ahead of
the clock only at the price of its difficulty.
-/

namespace Numen
namespace Difficulty

open Foundation

variable {cfg : Config}

/-!
## Rounding
-/

/-- The coefficients fall short of the Taylor polynomial.  The third one is too
large, by less than the second is too small. -/
theorem cubic_le_two_rpow {t : ℝ} (ht : 0 ≤ t) (hone : t ≤ 1) :
    cubic t ≤ (2 : ℝ) ^ t := by
  have hexp := le_two_rpow ht
  have hcube : t ^ 3 ≤ t ^ 2 := pow_le_pow_of_le_one ht hone (by norm_num)
  have hsquare : 0 ≤ t ^ 2 := by positivity
  have hfourth : 0 ≤ t ^ 4 := by positivity
  have hfifth : 0 ≤ t ^ 5 := by positivity
  unfold cubic
  ring_nf at hexp ⊢
  linarith

theorem appliedFactor_le_exactFactor (exponent : Int) :
    appliedFactor exponent ≤ exactFactor exponent := by
  have hlt : (fracPart exponent).toNat ≤ 65536 := by
    have := fracPart_lt exponent
    lia
  have hround := (fractionFactor_bounds (x := (fracPart exponent).toNat)
    rfl).right
  have hcubic := cubic_le_two_rpow
    (by positivity : (0 : ℝ) ≤ ((fracPart exponent).toNat : ℝ) / 65536)
    (by
      rw [div_le_one (by norm_num)]
      exact_mod_cast hlt)
  have hpower : (0 : ℝ) ≤ 2 ^ intPart exponent := by positivity
  unfold appliedFactor
  rw [exactFactor_eq, factorOf_eq, mul_comm]
  exact mul_le_mul_of_nonneg_left (hround.trans hcubic) hpower

theorem targetAt_le_shifted {anchorTarget : Nat} (hanchor : 1 ≤ anchorTarget)
    {exponent : Int} (hne : targetAt anchorTarget exponent ≠ 1) :
    (targetAt anchorTarget exponent : ℝ) ≤
      (anchorTarget * factorOf exponent / 65536 : Nat) *
        2 ^ intPart exponent := by
  by_cases hint : 0 ≤ intPart exponent
  · have hle : targetAt anchorTarget exponent ≤
        anchorTarget * factorOf exponent / 65536 *
          2 ^ (intPart exponent).toNat := by
      rw [targetAt_of_nonneg hanchor hint]
      unfold exactTarget
      dsimp only
      rw [if_neg (Int.not_lt.mpr hint)]
      exact Nat.min_le_right _ _
    have hpower : (2 : ℝ) ^ intPart exponent =
        ((2 ^ (intPart exponent).toNat : Nat) : ℝ) := by
      rw [Nat.cast_pow, ← zpow_natCast, Int.toNat_of_nonneg hint]
      rfl
    rw [hpower]
    exact_mod_cast hle
  · have hneg := Int.not_le.mp hint
    have hpower : (2 : ℝ) ^ intPart exponent =
        ((2 ^ (-intPart exponent).toNat : Nat) : ℝ)⁻¹ := by
      rw [Nat.cast_pow, ← zpow_natCast, Int.toNat_of_nonneg (by lia), zpow_neg,
        inv_inv]
      rfl
    rw [targetAt_of_neg anchorTarget hneg] at hne ⊢
    rw [hpower, ← div_eq_mul_inv]
    have hdiv := Nat.div_le_div_right (c := 2 ^ (-intPart exponent).toNat)
      (Nat.min_le_left (anchorTarget * factorOf exponent / 65536) u256Max)
    refine le_trans (Nat.cast_le.mpr ?_) Nat.cast_div_le
    -- raised to one, the target would be larger than the quotient
    lia

theorem targetAt_le_exact {anchorTarget : Nat} (hanchor : 1 ≤ anchorTarget)
    {exponent : Int} (hne : targetAt anchorTarget exponent ≠ 1) :
    (targetAt anchorTarget exponent : ℝ) ≤
      anchorTarget * exactFactor exponent := by
  have hfloor : ((anchorTarget * factorOf exponent / 65536 : Nat) : ℝ) ≤
      anchorTarget * factorOf exponent / 65536 := by
    exact_mod_cast Nat.cast_div_le (α := ℝ)
  have hpower : (0 : ℝ) ≤ 2 ^ intPart exponent := by positivity
  calc (targetAt anchorTarget exponent : ℝ)
      ≤ (anchorTarget * factorOf exponent / 65536 : Nat) *
          2 ^ intPart exponent := targetAt_le_shifted hanchor hne
    _ ≤ anchorTarget * factorOf exponent / 65536 * 2 ^ intPart exponent :=
        mul_le_mul_of_nonneg_right hfloor hpower
    _ = anchorTarget * appliedFactor exponent := by
        unfold appliedFactor
        ring
    _ ≤ anchorTarget * exactFactor exponent :=
        mul_le_mul_of_nonneg_left (appliedFactor_le_exactFactor exponent)
          (Nat.cast_nonneg _)

theorem tdiv_mul_lt (a : Int) {b : Int} (hb : 0 < b) :
    a.tdiv b * b < a + b := by
  have hsum := Int.mul_tdiv_add_tmod a b
  have hlow := Int.lt_tmod_of_pos a hb
  rw [Int.mul_comm] at hsum
  lia

theorem logb_targetAt_le {anchorTarget : Nat} (hanchor : 1 ≤ anchorTarget)
    {exponent : Int} (hne : targetAt anchorTarget exponent ≠ 1) :
    Real.logb 2 (targetAt anchorTarget exponent) ≤
      Real.logb 2 anchorTarget + exponent / 65536 := by
  have hpos : (0 : ℝ) < anchorTarget := by exact_mod_cast hanchor
  have hpos' : (0 : ℝ) < targetAt anchorTarget exponent := by
    exact_mod_cast (shiftTarget_range (scaleByFraction_le _ _) _).left
  have hfactor : 0 < exactFactor exponent := by
    unfold exactFactor
    positivity
  have hlog : Real.logb 2 (exactFactor exponent) = exponent / 65536 :=
    Real.logb_rpow (by norm_num) (by norm_num)
  calc Real.logb 2 (targetAt anchorTarget exponent)
      ≤ Real.logb 2 (anchorTarget * exactFactor exponent) :=
        Real.logb_le_logb_of_le (by norm_num) hpos'
          (targetAt_le_exact hanchor hne)
    _ = Real.logb 2 anchorTarget + exponent / 65536 := by
        rw [Real.logb_mul hpos.ne' hfactor.ne', hlog]

theorem exponentFp_mul_halflife_le {timeDelta exponent : Int}
    {heightDelta targetBlockTime halflife : Nat}
    (hideal : targetBlockTime * heightDelta < 2 ^ 64)
    (h : exponentFp timeDelta heightDelta targetBlockTime halflife =
      Except.ok exponent) :
    (exponent : ℝ) * halflife ≤
      (timeDelta - targetBlockTime * heightDelta) * 65536 + halflife := by
  unfold exponentFp at h
  dsimp only at h
  rw [Nat.mod_eq_of_lt hideal] at h
  unfold divideSigned at h
  split at h
  · cases h
  · rename_i hhalflife
    have hlt := tdiv_mul_lt
      ((timeDelta - (targetBlockTime * heightDelta : Nat)) * fracOne)
      (by lia : (0 : Int) < halflife)
    have hone : fracOne = 65536 := rfl
    rw [Except.ok.inj h, hone] at hlt
    have hreal := (Int.cast_lt (R := ℝ)).mpr hlt
    push_cast at hreal
    exact hreal.le

/-!
## The head start of a block
-/

/-- The head start of a block on the clock, in seconds: when its height is due,
less its time, and a halflife for every doubling of its target. -/
noncomputable def headStart (cfg : Config) (height secs target : Nat) : ℝ :=
  cfg.targetBlockTime * height - secs +
    cfg.halflife * Real.logb (2 : Nat) target

theorem headStart_eq (cfg : Config) (height secs target : Nat) :
    headStart cfg height secs target =
      cfg.targetBlockTime * height - secs +
        cfg.halflife * Real.logb 2 target := by
  unfold headStart
  rw [Nat.cast_ofNat]

/-- The head start of the block a state is anchored at. -/
noncomputable def anchorHeadStart (cfg : Config) (s : State) : ℝ :=
  headStart cfg s.anchorHeight s.anchorTimestamp s.anchorTarget

theorem headStart_le {s : State} {height secs target : Nat}
    (hanchor : 1 ≤ s.anchorTarget) (hheight : s.anchorHeight ≤ height)
    (hideal : cfg.targetBlockTime * (height - s.anchorHeight) < 2 ^ 64)
    (h : scheduledTarget cfg s height secs = Except.ok target)
    (hne : target ≠ 1) :
    headStart cfg height secs target ≤
      anchorHeadStart cfg s + cfg.halflife / 65536 := by
  rcases except_bind_eq_ok h with ⟨exponent, hexponent, _⟩
  unfold scheduledTarget at h
  rw [computeNextTarget_of_exponent hexponent] at h
  cases h
  have hseconds := exponentFp_mul_halflife_le hideal hexponent
  have hhalflife : (0 : ℝ) ≤ cfg.halflife := Nat.cast_nonneg _
  have hdoublings := mul_le_mul_of_nonneg_left (logb_targetAt_le hanchor hne)
    hhalflife
  push_cast [Nat.cast_sub hheight] at hseconds
  unfold anchorHeadStart
  rw [headStart_eq, headStart_eq]
  linarith

/-!
## Whole runs
-/

/-- Blocks whose difficulty a seal can meet: at the largest one only two hashes
are good enough. -/
def Attainable (cfg : Config) (s : State) (now : UInt64) : Prop :=
  Extends cfg s now ∧ (nextBlock cfg s now).currentDifficulty < u256Max

/-- How many of the blocks, the one before them at second `last`, end an
interruption. -/
def interruptions (cfg : Config) : Nat -> List UInt64 -> Nat
  | _, [] => 0
  | last, now :: rest =>
      (if cfg.breakThresholdSecs < now.toNat / 1000 - last then 1 else 0) +
        interruptions cfg (now.toNat / 1000) rest

theorem target_ne_one {target : Nat} (h : u256Max / target < u256Max) :
    target ≠ 1 := by
  rintro rfl
  rw [Nat.div_one] at h
  exact Nat.lt_irrefl _ h

/-- Only the end of an interruption moves the anchor, and what it moves is within
rounding. -/
theorem nextBlock_anchorHeadStart {s : State} {now : UInt64} (hs : Anchored s)
    (hwrap : cfg.targetBlockTime * cfg.maxBlock < 2 ^ 64)
    (h : Attainable cfg s now) :
    anchorHeadStart cfg (nextBlock cfg s now) ≤
      anchorHeadStart cfg s +
        (interruptions cfg s.lastBlockTimestamp [now] : Nat) *
          (cfg.halflife / 65536) := by
  have hblock := nextBlock_scheduled hs h.left
  have hnumber := hblock.blockNumber
  have hanchor := hs.sound.anchorHeight
  rcases hblock.target with ⟨target, htarget, hdifficulty,
    ⟨hgap, hsame⟩ | ⟨hgap, hmoved, htime, hheight⟩⟩
  · have hnone : interruptions cfg s.lastBlockTimestamp [now] = 0 := by
      simp only [interruptions]
      rw [if_neg (Nat.not_lt.mpr hgap)]
    rw [hnone]
    unfold anchorHeadStart
    rw [hsame.left, hsame.right.left, hsame.right.right, Nat.cast_zero,
      zero_mul, add_zero]
  · have hone : interruptions cfg s.lastBlockTimestamp [now] = 1 := by
      simp only [interruptions]
      rw [if_pos hgap]
    have hideal : cfg.targetBlockTime * ((nextBlock cfg s now).blockNumber -
        s.anchorHeight) < 2 ^ 64 := by
      refine Nat.lt_of_le_of_lt (Nat.mul_le_mul_left _ ?_) hwrap
      exact Nat.le_trans (Nat.sub_le _ _) (nextBlock_le_maxBlock hs h.left)
    have hne : target ≠ 1 := by
      apply target_ne_one
      rw [← hdifficulty]
      exact h.right
    -- the block that becomes the anchor was still on the old schedule
    have hle := headStart_le hs.sound.anchorTarget (by lia) hideal htarget hne
    rw [hone, Nat.cast_one, one_mul]
    unfold anchorHeadStart at hle ⊢
    rw [hmoved, htime, hheight]
    exact hle

theorem run_anchorHeadStart {s u : State} {blocks : List UInt64}
    (hwrap : cfg.targetBlockTime * cfg.maxBlock < 2 ^ 64)
    (hrun : Run (Attainable cfg) (nextBlock cfg) s blocks u)
    (hs : Anchored s) :
    Anchored u ∧ anchorHeadStart cfg u ≤
      anchorHeadStart cfg s +
        interruptions cfg s.lastBlockTimestamp blocks *
          (cfg.halflife / 65536) := by
  induction hrun with
  | nil s =>
      refine ⟨hs, le_of_eq ?_⟩
      simp only [interruptions, Nat.cast_zero, zero_mul, add_zero]
  | @cons s _ now rest hattainable _ ih =>
      rcases ih (nextBlock_anchored hattainable.left hs) with ⟨hu, hrest⟩
      have hstep := nextBlock_anchorHeadStart hs hwrap hattainable
      rw [(nextBlock_scheduled hs hattainable.left).last] at hrest
      refine ⟨hu, ?_⟩
      simp only [interruptions, Nat.add_zero] at hstep hrest ⊢
      rw [Nat.cast_add, add_mul]
      linarith

theorem nextBlock_anchorTarget_le {s : State} {now : UInt64}
    (hextends : Extends cfg s now) (hs : s.anchorTarget ≤ u256Max) :
    (nextBlock cfg s now).anchorTarget ≤ u256Max := by
  rcases hextends with ⟨_, t, hexecuted⟩
  unfold nextBlock
  rw [hexecuted]
  cases executeBlock_cases hexecuted with
  | anchored _ _ => exact hs
  | skipped _ => exact hs
  | adjusted _ _ _ => exact hs
  | recovered target hadjusts _ =>
      exact (computeNextTarget_range hadjusts.computed).right

theorem ReachedBy.anchorTarget_le {initialDifficulty : Fin (2 ^ 256)}
    {timestamps : List UInt64} {s : State}
    (h : ReachedBy cfg initialDifficulty timestamps s) :
    s.anchorTarget ≤ u256Max := by
  rcases h with ⟨g, hbuild, hrun⟩
  refine hrun.preserves (fun s => s.anchorTarget ≤ u256Max)
    (fun _ _ => nextBlock_anchorTarget_le) ?_
  unfold build at hbuild
  split at hbuild
  · cases hbuild
  · cases hbuild
    exact Nat.div_le_self _ _

theorem realtimeDifficulty_scheduled {s : State} {secs difficulty : Nat}
    (hfits : s.blockNumber < cfg.maxBlock)
    (h : realtimeDifficulty cfg s secs = Except.ok difficulty) :
    exists target,
      scheduledTarget cfg s (s.blockNumber + 1) secs = Except.ok target ∧
        difficulty = u256Max / target := by
  have hfits' : s.blockNumber < u64Max :=
    Nat.lt_of_lt_of_le hfits cfg.maxBlock_le
  unfold realtimeDifficulty at h
  dsimp only at h
  rw [nextHeight_eq hfits', heightToU64_of_le hfits'] at h
  rcases except_bind_eq_ok h with ⟨target, htarget, hdivided⟩
  rw [divide_of_pos u256Max (computeNextTarget_range htarget).left] at hdivided
  exact ⟨target, htarget, (Except.ok.inj hdivided).symm⟩

theorem logb_target_sub_le {anchorTarget target : Nat}
    (hanchor : 1 ≤ anchorTarget) (hmax : anchorTarget ≤ u256Max)
    (htarget : 1 ≤ target) :
    Real.logb 2 anchorTarget - Real.logb 2 target ≤
      Real.logb 2 (((u256Max / target : Nat) + 1) /
        (u256Max / anchorTarget : Nat)) := by
  have hpos : (0 : ℝ) < anchorTarget := by exact_mod_cast hanchor
  have hpos' : (0 : ℝ) < target := by exact_mod_cast htarget
  have hdifficulty : (0 : ℝ) < (u256Max / anchorTarget : Nat) := by
    exact_mod_cast Nat.div_pos hmax hanchor
  have hbelow : (u256Max / anchorTarget) * anchorTarget ≤
      (u256Max / target + 1) * target := by
    have hlt : u256Max < target * (u256Max / target + 1) :=
      Nat.lt_mul_div_succ _ htarget
    have hle := Nat.div_mul_le_self u256Max anchorTarget
    rw [Nat.mul_comm target] at hlt
    exact Nat.le_trans hle (Nat.le_of_lt hlt)
  have hbelow' : ((u256Max / anchorTarget : Nat) : ℝ) * anchorTarget ≤
      ((u256Max / target : Nat) + 1) * target := by
    exact_mod_cast hbelow
  rw [← Real.logb_div hpos.ne' hpos'.ne']
  apply Real.logb_le_logb_of_le (by norm_num) (div_pos hpos hpos')
  rw [div_le_div_iff₀ hpos' hdifficulty]
  linarith

/-- However its blocks are timed, a chain that has got ahead of its schedule
since an anchor pays with its difficulty: every halflife it is ahead doubles what
the next block has to meet.  The anchors it moves to on the way do not change
that, each of them being good for 1/65536 of a halflife. -/
theorem blocks_cannot_outrun_the_schedule
    {initialDifficulty : Fin (2 ^ 256)} {timestamps : List UInt64} {s : State}
    (hs : ReachedBy cfg initialDifficulty timestamps s)
    (hanchored : s.anchorTimestamp ≠ 0)
    (hwrap : cfg.targetBlockTime * cfg.maxBlock < 2 ^ 64)
    {blocks : List UInt64} {u : State}
    (hrun : Run (Attainable cfg) (nextBlock cfg) s blocks u)
    (hfits : u.blockNumber < cfg.maxBlock) {secs difficulty : Nat}
    (hdemanded : realtimeDifficulty cfg u secs = Except.ok difficulty)
    (hattainable : difficulty < u256Max) :
    (cfg.targetBlockTime : ℝ) * (u.blockNumber + 1 - s.anchorHeight) ≤
      secs - s.anchorTimestamp + cfg.halflife *
        (Real.logb 2 ((difficulty + 1) / (u256Max / s.anchorTarget : Nat)) +
          (interruptions cfg s.lastBlockTimestamp blocks + 1) / 65536) := by
  have hstart := hs.anchored hanchored
  rcases run_anchorHeadStart hwrap hrun hstart with ⟨hu, hmoved⟩
  rcases realtimeDifficulty_scheduled hfits hdemanded with
    ⟨target, htarget, rfl⟩
  have hheight := hu.sound.anchorHeight
  have hideal : cfg.targetBlockTime * (u.blockNumber + 1 - u.anchorHeight) <
      2 ^ 64 :=
    Nat.lt_of_le_of_lt (Nat.mul_le_mul_left _
      (Nat.le_trans (Nat.sub_le _ _) hfits)) hwrap
  have hblock := headStart_le hu.sound.anchorTarget (by lia) hideal htarget
    (target_ne_one hattainable)
  have hdoublings := logb_target_sub_le hstart.sound.anchorTarget
    hs.anchorTarget_le (computeNextTarget_range htarget).left
  have hscaled := mul_le_mul_of_nonneg_left hdoublings
    (Nat.cast_nonneg cfg.halflife : (0 : ℝ) ≤ cfg.halflife)
  unfold anchorHeadStart at hmoved hblock
  rw [headStart_eq, headStart_eq] at hmoved hblock
  push_cast at hblock
  linarith

/-- A second block one hour late becomes the anchor at a quarter of the
difficulty.  It and the block ten seconds after it are due within twenty
seconds, of the thirty the bound allows for. -/
theorem recovered_chain_is_not_ahead :
    let recovery := nextBlock mainnet anchoredAtBlockOne 1700003610000
    realtimeDifficulty mainnet recovery 1700003620 = Except.ok 250 ∧
      (10 : ℝ) * 2 ≤
        3620 + 1800 * (Real.logb 2 (251 / 1000) + 2 / 65536) := by
  intro recovery
  have hstart := reachedBy_anchoredAtBlockOne.anchored (by decide)
  have hextends : Extends mainnet anchoredAtBlockOne 1700003610000 :=
    hstart.extends (by decide) (by decide) _
  have hrecovery : recovery =
      { blockNumber := 2
        now := 1700003610000
        currentDifficulty := 250
        anchorTarget := u256Max / 1000 * 4
        anchorTimestamp := 1700003610
        anchorHeight := 2
        lastBlockTimestamp := 1700003610 } := by rfl
  have hrun : Run (Attainable mainnet) (nextBlock mainnet) anchoredAtBlockOne
      [1700003610000] recovery :=
    Run.single ⟨hextends, by
      change recovery.currentDifficulty < u256Max
      rw [hrecovery]
      decide⟩
  have hdemanded : realtimeDifficulty mainnet recovery 1700003620 =
      Except.ok 250 := by
    rw [hrecovery]
    rfl
  have hpace := blocks_cannot_outrun_the_schedule reachedBy_anchoredAtBlockOne
    (by decide) (by decide) hrun (by rw [hrecovery]; decide) hdemanded
    (by decide)
  have hdifficulty : u256Max / anchoredAtBlockOne.anchorTarget = 1000 := by rfl
  have hbroken : interruptions mainnet anchoredAtBlockOne.lastBlockTimestamp
      [1700003610000] = 1 := by rfl
  rw [hrecovery, hdifficulty, hbroken] at hpace
  refine ⟨hdemanded, ?_⟩
  norm_num [mainnet, anchoredAtBlockOne] at hpace ⊢
  linarith

end Difficulty
end Numen
