import Mathlib.Algebra.Order.Ring.Pow
import Mathlib.Tactic.NormNum
import Numen.Fees.Fullness

/-!
# Sustained congestion

While every block is full in some dimension, the fee multiplier compounds.  Its
rounding takes less than one part in `10 ^ 18` of the unit per block, which the
terms of the update more than pay for, so three days of full blocks lead from
the anchor to the ceiling.
-/

namespace Numen
namespace Fees

open Foundation

/-!
## The runtime's ceilings

The product with `NORMAL_DISPATCH_RATIO`, three quarters, is code of another
crate and enters as `normalRatio`.
-/

def weightRefTimePerSecond : Nat :=
  10 ^ 12

/-- `RuntimeBlockWeights` and `RuntimeBlockLength`. -/
def runtimeLimits (normalRatio : Nat -> Nat) : BlockLimits where
  maxTotal := some ⟨normalRatio (2 * weightRefTimePerSecond),
    normalRatio u64Max⟩
  maxBlock := ⟨2 * weightRefTimePerSecond, u64Max⟩
  maxLength := normalRatio (5 * 1024 * 1024)

def Consumed.IsFull (used : Consumed) (limits : BlockLimits) : Prop :=
  limits.maxWeight.refTime ≤ used.blockWeight.refTime ∨
    limits.maxWeight.proofSize ≤ used.blockWeight.proofSize ∨
    limits.maxLength ≤ used.blockSize

/-!
## A full block
-/

/-- A ceiling of which a quarter is whole or which dwarfs the rounding of the
quarter. -/
def Roomy (limit : Nat) : Prop :=
  0 < limit ∧ (4 ∣ limit ∨ 10 ^ 18 ≤ limit)

theorem runtimeLimits_roomy {normalRatio : Nat -> Nat}
    (hratio : RoundsTo 3 4 normalRatio) :
    Roomy (runtimeLimits normalRatio).maxWeight.refTime ∧
      Roomy (runtimeLimits normalRatio).maxWeight.proofSize ∧
      Roomy (runtimeLimits normalRatio).maxLength := by
  have hrefTime := hratio (2 * weightRefTimePerSecond)
  have hproof := hratio u64Max
  have hlength := hratio (5 * 1024 * 1024)
  unfold weightRefTimePerSecond at hrefTime
  unfold u64Max at hproof
  refine ⟨?_, ?_, ?_⟩
  · show Roomy (normalRatio (2 * 10 ^ 12))
    unfold Roomy
    lia
  · show Roomy (normalRatio (2 ^ 64 - 1))
    unfold Roomy
    lia
  · show Roomy (normalRatio (5 * 1024 * 1024))
    unfold Roomy
    lia

theorem limitingDimension_full {limits : BlockLimits} {used : Consumed}
    {dimension : Nat × Nat} (hmem : dimension ∈ dimensions limits used)
    (hfull : dimension.1 = dimension.2) :
    (limitingDimension limits used).1 = (limitingDimension limits used).2 := by
  have hbounds := dimension_bounds (limitingDimension_mem limits used)
  have hshare : share dimension = 10 ^ 9 := by
    unfold share perbill
    rw [hfull]
    exact partsOf_self _ _
  have hlimiting : share (limitingDimension limits used) = 10 ^ 9 := by
    refine Nat.le_antisymm (partsOf_le _ _ _) ?_
    rw [← hshare]
    exact share_le_limitingDimension hmem
  exact eq_of_partsOf_eq (by decide) hbounds.left hlimiting

theorem capped_full {used ceiling : Nat} (hpos : 0 < ceiling)
    (hfull : ceiling ≤ used) : min used ceiling = max ceiling 1 := by
  lia

theorem Consumed.IsFull.exists_dimension {used : Consumed}
    {limits : BlockLimits} (h : used.IsFull limits)
    (hrefTime : 0 < limits.maxWeight.refTime)
    (hproof : 0 < limits.maxWeight.proofSize)
    (hlength : 0 < limits.maxLength) :
    ∃ dimension ∈ dimensions limits used, dimension.1 = dimension.2 := by
  unfold dimensions
  rcases h with hfull | hfull | hfull
  · exact ⟨_, List.mem_cons_self, capped_full hrefTime hfull⟩
  · exact ⟨_, List.mem_cons_of_mem _ List.mem_cons_self,
      capped_full hproof hfull⟩
  · refine ⟨_, List.mem_cons_of_mem _ (List.mem_cons_of_mem _
      List.mem_cons_self), ?_⟩
    show min used.blockSize (max limits.maxLength 1) = max limits.maxLength 1
    lia

theorem dimension_roomy {used : Consumed} {limits : BlockLimits}
    (hrefTime : Roomy limits.maxWeight.refTime)
    (hproof : Roomy limits.maxWeight.proofSize)
    (hlength : Roomy limits.maxLength) {dimension : Nat × Nat}
    (hmem : dimension ∈ dimensions limits used) : Roomy dimension.2 := by
  have hguard : forall {ceiling : Nat}, Roomy ceiling -> Roomy (max ceiling 1) := by
    intro ceiling h
    rw [Nat.max_eq_left h.left]
    exact h
  unfold dimensions at hmem
  rcases List.mem_cons.mp hmem with rfl | hmem
  · exact hguard hrefTime
  rcases List.mem_cons.mp hmem with rfl | hmem
  · exact hguard hproof
  rcases List.mem_singleton.mp hmem with rfl
  exact hguard hlength

theorem distance_of_full {quarter : Nat -> Nat}
    (hquarter : RoundsTo 1 4 quarter) {limit : Nat} (hroomy : Roomy limit) :
    749999999999999999 ≤ distance limit limit (quarter limit) := by
  rcases hroomy with ⟨hpos, hcases⟩
  have htarget := hquarter limit
  have hle := target_le hquarter hpos
  unfold distance
  rw [Nat.max_eq_left hle, Nat.min_eq_right hle, Nat.le_div_iff_mul_le hpos]
  rcases hcases with hwhole | hlarge
  · lia
  · lia

theorem parts_of_full {diff : Nat} (h : 749999999999999999 ≤ diff) :
    93754394531248 ≤ firstPart diff + secondPart diff := by
  have hfirst : 93749999999999 ≤ firstPart diff := by
    unfold firstPart
    lia
  have hhalf : 5859374999 ≤ 7812500000 * diff / 10 ^ 18 := by
    lia
  have hsecond : 4394531249 ≤ secondPart diff := by
    unfold secondPart
    rw [Nat.le_div_iff_mul_le (by decide)]
    exact Nat.le_trans (by decide) (Nat.mul_le_mul hhalf h)
  lia

/-!
## Growth
-/

/-- What a full block multiplies the multiplier by, rounding included. -/
def growth : ℚ :=
  1 + 93754 / 10 ^ 9

theorem rise_of_parts {parts held : Nat} (hparts : 93754394531248 ≤ parts)
    (hheld : 10 ^ 21 ≤ held) :
    93754 * held ≤ parts * held / 10 ^ 18 * 10 ^ 9 := by
  have hmore : 93754394531248 * held ≤ parts * held :=
    Nat.mul_le_mul_right held hparts
  generalize parts * held = product at *
  lia

theorem growth_mul_le {previous held rise : Nat} (hprevious : previous ≤ held)
    (hrise : 93754 * held ≤ rise * 10 ^ 9) :
    growth * (previous : ℚ) ≤ ((held + rise : Nat) : ℚ) := by
  have hprevious' : (previous : ℚ) ≤ held := by
    exact_mod_cast hprevious
  have hrise' : (93754 : ℚ) * held ≤ rise * 10 ^ 9 := by
    exact_mod_cast hrise
  unfold growth
  push_cast
  linarith

theorem one_le_growth : 1 ≤ growth := by
  norm_num [growth]

theorem ten_le_growth_pow {n : Nat} (h : 25920 ≤ n) : 10 ≤ growth ^ n := by
  have hstretch : (1.0675 : ℚ) ≤ growth ^ 720 := by
    have hbernoulli := one_add_mul_le_pow
      (a := (93754 / 10 ^ 9 : ℚ)) (by norm_num) 720
    refine le_trans ?_ hbernoulli
    norm_num
  calc
    (10 : ℚ) ≤ 1.0675 ^ 36 := by norm_num
    _ ≤ (growth ^ 720) ^ 36 := pow_le_pow_left₀ (by norm_num) hstretch 36
    _ = growth ^ 25920 := by rw [← pow_mul]
    _ ≤ growth ^ n := pow_le_pow_right₀ one_le_growth h

theorem full_block_grows {quarter normalRatio : Nat -> Nat}
    (hquarter : RoundsTo 1 4 quarter) (hratio : RoundsTo 3 4 normalRatio)
    {used : Consumed} (hfull : used.IsFull (runtimeLimits normalRatio))
    (previous : Multiplier) :
    exists next,
      convert quarter (runtimeLimits normalRatio) used previous = some next ∧
        next.inner ≤ 10 ^ 23 ∧
        (10 ^ 23 ≤ next.inner ∨
          growth * (previous.inner : ℚ) ≤ next.inner) := by
  rcases runtimeLimits_roomy hratio with ⟨hrefTime, hproof, hlength⟩
  rcases hfull.exists_dimension hrefTime.left hproof.left hlength.left with
    ⟨dimension, hmem, hfullDimension⟩
  have hlimiting := limitingDimension_full hmem hfullDimension
  have hroomy := dimension_roomy hrefTime hproof hlength
    (limitingDimension_mem (runtimeLimits normalRatio) used)
  rcases convert_moves hquarter (runtimeLimits normalRatio) used previous with
    ⟨next, hconvert, hmoves⟩
  refine ⟨next, hconvert, hmoves.band.right, ?_⟩
  have hheld : 10 ^ 21 ≤ max previous.inner (10 ^ 21) :=
    Nat.le_max_right _ _
  have hprevious : previous.inner ≤ max previous.inner (10 ^ 21) :=
    Nat.le_max_left _ _
  generalize max previous.inner (10 ^ 21) = held at *
  generalize hnext : next.inner = result at *
  cases hmoves with
  | down diff hdiff hbelow =>
      have htarget := target_le hquarter hroomy.left
      rw [hlimiting] at hbelow
      exact absurd hbelow (Nat.not_lt.mpr htarget)
  | up diff hdiff _ =>
      rw [hlimiting] at hdiff
      have hparts := parts_of_full (hdiff ▸ distance_of_full hquarter hroomy)
      have hrise := rise_of_parts hparts hheld
      generalize (firstPart diff + secondPart diff) * held / 10 ^ 18 = rise at *
      rcases Nat.lt_or_ge (held + rise) (10 ^ 23) with hinside | habove
      · right
        have hsame : banded (held + rise) = held + rise := by
          unfold banded
          lia
        rw [hsame]
        exact growth_mul_le hprevious hrise
      · left
        unfold banded
        lia

/-!
## A run of full blocks
-/

def multiplierAfter (quarter : Nat -> Nat) (limits : BlockLimits)
    (previous : Multiplier) (blocks : List Consumed) : Option Multiplier :=
  blocks.foldlM (fun multiplier used =>
    convert quarter limits used multiplier) previous

theorem full_blocks_compound {quarter normalRatio : Nat -> Nat}
    (hquarter : RoundsTo 1 4 quarter) (hratio : RoundsTo 3 4 normalRatio)
    {blocks : List Consumed}
    (hfull : ∀ used ∈ blocks, used.IsFull (runtimeLimits normalRatio))
    (previous : Multiplier) :
    exists final, multiplierAfter quarter (runtimeLimits normalRatio) previous
        blocks = some final ∧
      (blocks ≠ [] -> final.inner ≤ 10 ^ 23) ∧
      (10 ^ 23 ≤ final.inner ∨
        growth ^ blocks.length * (previous.inner : ℚ) ≤ final.inner) := by
  induction blocks generalizing previous with
  | nil =>
      refine ⟨previous, rfl, fun h => absurd rfl h, Or.inr ?_⟩
      rw [List.length_nil, pow_zero, one_mul]
  | cons used rest ih =>
      rcases full_block_grows hquarter hratio
        (hfull used List.mem_cons_self) previous with
        ⟨next, hconvert, hband, hgrows⟩
      rcases ih (fun other hmem => hfull other (List.mem_cons_of_mem _ hmem))
        next with ⟨final, hrest, hfinal, hcompound⟩
      refine ⟨final, ?_, ?_, ?_⟩
      · unfold multiplierAfter at hrest ⊢
        rw [List.foldlM_cons, hconvert]
        exact hrest
      · intro _
        cases rest with
        | nil =>
            cases hrest
            exact hband
        | cons other others => exact hfinal (List.cons_ne_nil _ _)
      · have hone := one_le_pow₀ one_le_growth (n := rest.length)
        rcases hcompound with htop | hcompound
        · exact Or.inl htop
        · rcases hgrows with htop | hgrows
          · -- what has reached the ceiling does not fall below it
            left
            have htop' : ((10 ^ 23 : Nat) : ℚ) ≤ next.inner := by
              exact_mod_cast htop
            have hkept : ((10 ^ 23 : Nat) : ℚ) ≤ final.inner :=
              le_trans htop' (le_trans
                (le_mul_of_one_le_left (Nat.cast_nonneg _) hone) hcompound)
            exact_mod_cast hkept
          · right
            rw [List.length_cons, pow_succ, mul_assoc]
            refine le_trans ?_ hcompound
            exact mul_le_mul_of_nonneg_left hgrows (le_trans zero_le_one hone)

/-- Three days of blocks that are full in any dimension lead from the anchor, or
from above it, to the ceiling. -/
theorem congestion_reaches_the_ceiling {quarter normalRatio : Nat -> Nat}
    (hquarter : RoundsTo 1 4 quarter) (hratio : RoundsTo 3 4 normalRatio)
    {blocks : List Consumed} (hdays : 25920 ≤ blocks.length)
    (hfull : ∀ used ∈ blocks, used.IsFull (runtimeLimits normalRatio))
    {previous : Multiplier}
    (hanchor : FixedPoint.saturatingFromInteger feeAnchor ≤ previous) :
    multiplierAfter quarter (runtimeLimits normalRatio) previous blocks =
      some maximumMultiplier := by
  rcases full_blocks_compound hquarter hratio hfull previous with
    ⟨final, hafter, hband, hcompound⟩
  have hblocks : blocks ≠ [] := by
    rintro rfl
    exact absurd hdays (by decide)
  have hstart : 10 ^ 22 ≤ previous.inner := by
    have hinner : (FixedPoint.saturatingFromInteger feeAnchor :
        Multiplier).inner = 10 ^ 22 := by
      decide
    exact hinner ▸ hanchor
  have htop : 10 ^ 23 ≤ final.inner := by
    rcases hcompound with htop | hcompound
    · exact htop
    · have hstart' : ((10 ^ 22 : Nat) : ℚ) ≤ previous.inner := by
        exact_mod_cast hstart
      have hreached : ((10 ^ 23 : Nat) : ℚ) ≤ final.inner := by
        refine le_trans ?_ hcompound
        refine le_trans ?_ (mul_le_mul (ten_le_growth_pow hdays) hstart'
          (Nat.cast_nonneg _) (le_trans (by norm_num)
            (ten_le_growth_pow hdays)))
        norm_num
      exact_mod_cast hreached
  rw [hafter]
  refine congrArg some (FixedPoint.ext ?_)
  rw [inner_maximumMultiplier]
  exact Nat.le_antisymm (hband hblocks) htop

/-- Blocks full of bytes, from the anchor. -/
theorem bytes_alone_reach_the_ceiling :
    multiplierAfter (fun n => 1 * n / 4) (runtimeLimits fun n => 3 * n / 4)
        (FixedPoint.saturatingFromInteger feeAnchor)
        (List.replicate 25920 ⟨⟨0, 0⟩, 3932160⟩) = some maximumMultiplier := by
  refine congestion_reaches_the_ceiling (roundsTo_div 1 (by decide))
    (roundsTo_div 3 (by decide)) ?_ ?_ (by decide)
  · exact Nat.le_of_eq List.length_replicate.symm
  · intro used hmem
    rw [List.eq_of_mem_replicate hmem]
    exact Or.inr (Or.inr (by decide))

end Fees
end Numen
