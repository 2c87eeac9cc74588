import Numen.Difficulty.Exact
import Numen.Difficulty.Monotone
import Numen.Difficulty.Schedule

/-!
# Stalls and how the chain comes out of them

While no block arrives the difficulty asked of the next one falls, and a block
that ends an interruption becomes the anchor of a schedule of its own.
-/

namespace Numen
namespace Difficulty

open Foundation

variable {cfg : Config}

/-!
## Waiting
-/

theorem fracPart_add_halflives (exponent : Int) (k : Nat) :
    fracPart (exponent + 65536 * k) = fracPart exponent := by
  rw [fracPart_eq_emod, fracPart_eq_emod]
  exact Int.add_mul_emod_self_left exponent 65536 k

theorem intPart_add_halflives (exponent : Int) (k : Nat) :
    intPart (exponent + 65536 * k) = intPart exponent + k := by
  rw [intPart_eq_div, intPart_eq_div]
  exact Int.add_mul_ediv_left exponent k (by decide)

/-- Behind schedule, each further halflife doubles the target up to the largest
one. -/
theorem targetAt_add_halflives {anchorTarget : Nat} (hanchor : 1 ≤ anchorTarget)
    {exponent : Int} (hexponent : 0 ≤ exponent) (k : Nat) :
    targetAt anchorTarget (exponent + 65536 * k) =
      min u256Max (targetAt anchorTarget exponent * 2 ^ k) := by
  have hint : 0 ≤ intPart exponent := by
    rw [intPart_eq_div]
    exact Int.ediv_nonneg hexponent (by decide)
  have hint' : 0 ≤ intPart (exponent + 65536 * k) := by
    rw [intPart_add_halflives]
    exact Int.add_nonneg hint (Int.natCast_nonneg k)
  have hfactor : factorOf (exponent + 65536 * k) = factorOf exponent := by
    unfold factorOf
    rw [fracPart_add_halflives]
  have hshift : (intPart exponent + k).toNat = (intPart exponent).toNat + k :=
    Int.toNat_add_nat hint k
  rw [targetAt_of_nonneg hanchor hint', targetAt_of_nonneg hanchor hint]
  unfold exactTarget
  rw [if_neg (Int.not_lt.mpr hint'), if_neg (Int.not_lt.mpr hint), hfactor,
    intPart_add_halflives, hshift, Nat.pow_add, ← Nat.mul_assoc]
  rw [Nat.min_comm u256Max (anchorTarget * factorOf exponent / 65536 *
    2 ^ (intPart exponent).toNat)]
  exact (min_mul_of_pos _ _ (Nat.two_pow_pos k)).symm

theorem div_min_mul_two_pow {target : Nat} (htarget : 1 ≤ target) (k : Nat) :
    u256Max / min u256Max (target * 2 ^ k) =
      max 1 (u256Max / target / 2 ^ k) := by
  have hpos : 0 < target * 2 ^ k := Nat.mul_pos htarget (Nat.two_pow_pos k)
  have hmax : 0 < u256Max := by decide
  rw [Nat.div_div_eq_div_mul]
  generalize target * 2 ^ k = product at hpos
  by_cases hfits : product ≤ u256Max
  · rw [Nat.min_eq_right hfits]
    exact (Nat.max_eq_right (Nat.div_pos hfits hpos)).symm
  · have hlt : u256Max < product := Nat.lt_of_not_le hfits
    rw [Nat.min_eq_left (Nat.le_of_lt hlt), Nat.div_self hmax,
      Nat.div_eq_of_lt hlt]
    rfl

/-- The time the schedule of `s` sets for the next block has come. -/
def Late (cfg : Config) (s : State) (secs : Nat) : Prop :=
  s.anchorTimestamp +
    cfg.targetBlockTime * (s.blockNumber + 1 - s.anchorHeight) ≤ secs

theorem exponentFp_of_late {late : Int} {heightDelta targetBlockTime : Nat}
    {halflife : Nat} (hhalflife : halflife ≠ 0)
    (hlate : ((targetBlockTime * heightDelta : Nat) : Int) ≤ late) :
    exists exponent : Int, 0 ≤ exponent ∧ forall k : Nat,
      exponentFp (late + (k * halflife : Nat)) heightDelta targetBlockTime
        halflife = Except.ok (exponent + 65536 * k) := by
  have hne : (halflife : Int) ≠ 0 := Int.natCast_ne_zero.mpr hhalflife
  have hnonneg : (0 : Int) ≤ halflife := Int.natCast_nonneg halflife
  have hwrap : targetBlockTime * heightDelta % 2 ^ 64 ≤
      targetBlockTime * heightDelta := Nat.mod_le _ _
  have hbehind : 0 ≤
      late - ((targetBlockTime * heightDelta % 2 ^ 64 : Nat) : Int) := by
    lia
  generalize hsurplus :
    late - ((targetBlockTime * heightDelta % 2 ^ 64 : Nat) : Int) = surplus
    at hbehind
  have hscaled : 0 ≤ surplus * 65536 := Int.mul_nonneg hbehind (by decide)
  refine ⟨surplus * 65536 / halflife, Int.ediv_nonneg hscaled hnonneg, ?_⟩
  intro k
  have hnumer : (late + (k * halflife : Nat) -
      ((targetBlockTime * heightDelta % 2 ^ 64 : Nat) : Int)) * fracOne =
      surplus * 65536 + 65536 * k * halflife := by
    have hone : fracOne = 65536 := rfl
    rw [hone, ← hsurplus, Int.natCast_mul]
    lia
  have hsum : 0 ≤ surplus * 65536 + 65536 * k * halflife :=
    Int.add_nonneg hscaled (Int.mul_nonneg
      (Int.mul_nonneg (by decide) (Int.natCast_nonneg k)) hnonneg)
  unfold exponentFp
  dsimp only
  rw [hnumer, divideSigned_of_ne_zero _ hne, Int.tdiv_eq_ediv_of_nonneg hsum,
    Int.add_mul_ediv_right _ _ hne]

theorem realtimeDifficulty_of_exponent {s : State} {secs : Nat} {exponent : Int}
    (hfits : s.blockNumber < u64Max)
    (h : exponentFp (secs - s.anchorTimestamp)
      (s.blockNumber + 1 - s.anchorHeight) cfg.targetBlockTime cfg.halflife =
        Except.ok exponent) :
    realtimeDifficulty cfg s secs =
      Except.ok (u256Max / targetAt s.anchorTarget exponent) := by
  have hcomputed := computeNextTarget_of_exponent h s.anchorTarget
  unfold realtimeDifficulty
  dsimp only
  rw [nextHeight_eq hfits, heightToU64_of_le hfits, hcomputed, except_ok_bind,
    divide_of_pos u256Max (computeNextTarget_range hcomputed).left]

/-- Once the chain is behind schedule, every halflife without a block halves the
difficulty of the next one, down to one. -/
theorem silence_halves_the_difficulty {initialDifficulty : Fin (2 ^ 256)}
    {timestamps : List UInt64} {s : State}
    (hs : ReachedBy cfg initialDifficulty timestamps s)
    (hhalflife : cfg.halflife ≠ 0) (hfits : s.blockNumber < cfg.maxBlock)
    {secs : Nat} (hlate : Late cfg s secs) :
    exists difficulty, realtimeDifficulty cfg s secs = Except.ok difficulty ∧
      forall k, realtimeDifficulty cfg s (secs + k * cfg.halflife) =
        Except.ok (max 1 (difficulty / 2 ^ k)) := by
  have hfits' : s.blockNumber < u64Max :=
    Nat.lt_of_lt_of_le hfits cfg.maxBlock_le
  have hbehind : ((cfg.targetBlockTime *
      (s.blockNumber + 1 - s.anchorHeight) : Nat) : Int) ≤
      secs - s.anchorTimestamp := by
    unfold Late at hlate
    lia
  rcases exponentFp_of_late hhalflife hbehind with
    ⟨exponent, hexponent, hshifted⟩
  have hat : forall k : Nat,
      realtimeDifficulty cfg s (secs + k * cfg.halflife) =
        Except.ok (u256Max / targetAt s.anchorTarget (exponent + 65536 * k)) := by
    intro k
    apply realtimeDifficulty_of_exponent hfits'
    rw [← hshifted k]
    congr 1
    lia
  have hnow := hat 0
  rw [Nat.zero_mul, Nat.add_zero, Int.natCast_zero, Int.mul_zero,
    Int.add_zero] at hnow
  refine ⟨_, hnow, ?_⟩
  intro k
  have htarget : 1 ≤ targetAt s.anchorTarget exponent :=
    (shiftTarget_range (scaleByFraction_le _ _) _).left
  rw [hat k, targetAt_add_halflives hs.sound.anchorTarget hexponent,
    div_min_mul_two_pow htarget]

/-- The second block after an anchor at difficulty 1000: half an hour after it
is due 500 are asked for, and after ten halflives one. -/
theorem mainnet_forgets_difficulty_1000 :
    realtimeDifficulty mainnet anchoredAtBlockOne (1700000010 + 1 * 1800) =
        Except.ok 500 ∧
      realtimeDifficulty mainnet anchoredAtBlockOne (1700000010 + 10 * 1800) =
        Except.ok 1 := by
  rcases silence_halves_the_difficulty reachedBy_anchoredAtBlockOne
    (by decide) (by decide)
    (show Late mainnet anchoredAtBlockOne 1700000010 by unfold Late; decide) with
    ⟨difficulty, hnow, hwait⟩
  have hdue : realtimeDifficulty mainnet anchoredAtBlockOne 1700000010 =
      Except.ok 1000 := by rfl
  rw [hdue] at hnow
  cases hnow
  exact ⟨hwait 1, hwait 10⟩

/-!
## Recovery
-/

theorem targetAt_zero {anchorTarget : Nat} (hanchor : 1 ≤ anchorTarget)
    (hmax : anchorTarget ≤ u256Max) : targetAt anchorTarget 0 = anchorTarget := by
  have hint : 0 ≤ intPart 0 := by decide
  have hfactor : factorOf 0 = 65536 := by rfl
  have hshift : 2 ^ (intPart 0).toNat = 1 := by rfl
  rw [targetAt_of_nonneg hanchor hint]
  unfold exactTarget
  rw [if_neg (Int.not_lt.mpr hint), hfactor, hshift, Nat.mul_one,
    Nat.mul_div_cancel _ (by decide)]
  exact Nat.min_eq_right hmax

theorem computeNextTarget_sides {anchorTarget : Nat} {timeDelta : Int}
    {heightDelta targetBlockTime halflife target : Nat}
    (hanchor : 1 ≤ anchorTarget) (hmax : anchorTarget ≤ u256Max)
    (hideal : targetBlockTime * heightDelta < 2 ^ 64)
    (h : computeNextTarget anchorTarget timeDelta heightDelta targetBlockTime
      halflife = Except.ok target) :
    (((targetBlockTime * heightDelta : Nat) : Int) ≤ timeDelta ->
      anchorTarget ≤ target) ∧
    (timeDelta ≤ ((targetBlockTime * heightDelta : Nat) : Int) ->
      target ≤ anchorTarget) := by
  have hzero := targetAt_zero hanchor hmax
  rcases except_bind_eq_ok h with ⟨exponent, hexponent, _⟩
  rw [computeNextTarget_of_exponent hexponent] at h
  cases h
  unfold exponentFp at hexponent
  dsimp only at hexponent
  rw [Nat.mod_eq_of_lt hideal] at hexponent
  unfold divideSigned at hexponent
  split at hexponent
  · cases hexponent
  · cases hexponent
    have hhalflife : (0 : Int) ≤ halflife := Int.natCast_nonneg halflife
    have hone : (0 : Int) ≤ fracOne := by decide
    constructor
    · intro hlate
      nth_rewrite 1 [← hzero]
      apply targetAt_mono
      exact Int.tdiv_nonneg (Int.mul_nonneg (Int.sub_nonneg.mpr hlate) hone)
        hhalflife
    · intro hearly
      nth_rewrite 2 [← hzero]
      apply targetAt_mono
      rw [← Int.neg_nonneg, ← Int.neg_tdiv, ← Int.neg_mul, Int.neg_sub]
      exact Int.tdiv_nonneg (Int.mul_nonneg (Int.sub_nonneg.mpr hearly) hone)
        hhalflife

theorem nextBlock_le_maxBlock {s : State} {now : UInt64} (hs : Anchored s)
    (hextends : Extends cfg s now) :
    (nextBlock cfg s now).blockNumber ≤ cfg.maxBlock := by
  rw [(nextBlock_scheduled hs hextends).blockNumber]
  exact hextends.left

/-- The block that ends an interruption starts a schedule of its own.  As long as
no further interruption follows, a later block that comes when it is due keeps
the difficulty of that block: the time lost is not made up for. -/
theorem difficulty_restarts_after_an_interruption
    {initialDifficulty : Fin (2 ^ 256)} {timestamps : List UInt64} {s : State}
    (hs : ReachedBy cfg initialDifficulty timestamps s)
    (hanchored : s.anchorTimestamp ≠ 0)
    (hwrap : cfg.targetBlockTime * cfg.maxBlock < 2 ^ 64) {now : UInt64}
    (hextends : Extends cfg s now)
    (hbreak : cfg.breakThresholdSecs < now.toNat / 1000 - s.now.toNat / 1000)
    {blocks : List UInt64} {u : State}
    (hrun : Run (Extends cfg) (nextBlock cfg) (nextBlock cfg s now) blocks u)
    (hunbroken : Unbroken cfg (now.toNat / 1000) blocks) :
    let recovery := nextBlock cfg s now
    let due := now.toNat / 1000 +
      cfg.targetBlockTime * (u.blockNumber - recovery.blockNumber)
    (due ≤ u.now.toNat / 1000 ->
      u.currentDifficulty ≤ recovery.currentDifficulty) ∧
    (u.now.toNat / 1000 ≤ due ->
      recovery.currentDifficulty ≤ u.currentDifficulty) := by
  intro recovery due
  have hstart := hs.anchored hanchored
  have hblock := nextBlock_scheduled hstart hextends
  have hrecovery : Anchored recovery := nextBlock_anchored hextends hstart
  have hfits : u.blockNumber ≤ cfg.maxBlock := by
    refine (hrun.preserves (fun m => Anchored m ∧ m.blockNumber ≤ cfg.maxBlock)
      ?_ ⟨hrecovery, nextBlock_le_maxBlock hstart hextends⟩).right
    intro m next hnext hm
    exact ⟨nextBlock_anchored hnext hm.left, nextBlock_le_maxBlock hm.left hnext⟩
  have hself : OnSchedule cfg recovery recovery :=
    ⟨⟨rfl, rfl, rfl⟩, Or.inl rfl⟩
  rw [← hblock.last] at hunbroken
  have hschedule := run_onSchedule hrun hrecovery hself hunbroken
  rcases hblock.target with
    ⟨target, htarget, hdifficulty, ⟨hgap, _⟩ | ⟨_, hanchor, htime, hheight⟩⟩
  · rw [hstart.last] at hgap
    exact absurd hbreak (Nat.not_lt.mpr hgap)
  · have hrange := computeNextTarget_range htarget
    have hsame : recovery.currentDifficulty = u256Max / target := hdifficulty
    rcases hschedule.position with rfl | ⟨_, _, target', htarget', hdifficulty'⟩
    · exact ⟨fun _ => Nat.le_refl _, fun _ => Nat.le_refl _⟩
    · have hideal : cfg.targetBlockTime *
          (u.blockNumber - recovery.anchorHeight) < 2 ^ 64 :=
        Nat.lt_of_le_of_lt (Nat.mul_le_mul_left _
          (Nat.le_trans (Nat.sub_le _ _) hfits)) hwrap
      have hrange' := computeNextTarget_range htarget'
      have hanchorTarget : recovery.anchorTarget = target := hanchor
      have hsides := computeNextTarget_sides
        (by rw [hanchorTarget]; exact hrange.left)
        (by rw [hanchorTarget]; exact hrange.right) hideal htarget'
      have htime' : recovery.anchorTimestamp = now.toNat / 1000 := htime
      have hheight' : recovery.anchorHeight = recovery.blockNumber := hheight
      rw [hanchorTarget, htime', hheight'] at hsides
      rw [hsame, hdifficulty']
      constructor
      · intro hlate
        exact Nat.div_le_div_left (hsides.left (by lia)) hrange.left
      · intro hearly
        exact Nat.div_le_div_left (hsides.right (by lia)) hrange'.left

/-- A second block one hour late is stored at difficulty 250, and so is a third
one ten seconds later. -/
theorem third_block_keeps_the_recovered_difficulty :
    let recovery := nextBlock mainnet anchoredAtBlockOne 1700003610000
    let next := nextBlock mainnet recovery 1700003620000
    recovery.currentDifficulty = 250 ∧ next.currentDifficulty = 250 := by
  intro recovery next
  have hstart := reachedBy_anchoredAtBlockOne.anchored (by decide)
  have hextends : Extends mainnet anchoredAtBlockOne 1700003610000 :=
    hstart.extends (by decide) (by decide) _
  have hnext : Extends mainnet recovery 1700003620000 :=
    (nextBlock_anchored hextends hstart).extends (by decide)
      (by rw [(nextBlock_scheduled hstart hextends).blockNumber]; decide) _
  have hsides := difficulty_restarts_after_an_interruption
    reachedBy_anchoredAtBlockOne (by decide) (by decide) hextends (by decide)
    (Run.single hnext) (by simp only [Unbroken]; decide)
  have hrecovery : recovery.currentDifficulty = 250 := by rfl
  have hequal : next.currentDifficulty = recovery.currentDifficulty :=
    Nat.le_antisymm (hsides.left (by decide)) (hsides.right (by decide))
  exact ⟨hrecovery, hequal.trans hrecovery⟩

end Difficulty
end Numen
