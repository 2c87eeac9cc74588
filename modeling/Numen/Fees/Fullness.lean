import Mathlib.Algebra.Order.Field.Rat
import Mathlib.Tactic.Linarith
import Numen.Foundation.Arithmetic
import Numen.Foundation.FixedPoint

/-!
# The fee multiplier

`FullnessFeeUpdate` of the runtime: the block dimension nearest to its ceiling
decides whether the multiplier rises or falls, by a polynomial of second order
in the distance to the target.
-/

namespace Numen
namespace Fees

open Foundation

/-- `FixedU128`. -/
abbrev Multiplier : Type :=
  FixedPoint (10 ^ 18) u128Max

structure Weight where
  refTime : Nat
  proofSize : Nat
deriving DecidableEq

def Weight.min (a b : Weight) : Weight :=
  ⟨Nat.min a.refTime b.refTime, Nat.min a.proofSize b.proofSize⟩

/-- What the block weights and lengths allow the normal class. -/
structure BlockLimits where
  maxTotal : Option Weight
  maxBlock : Weight
  maxLength : Nat

/-- What the normal class has consumed of the block so far. -/
structure Consumed where
  blockWeight : Weight
  blockSize : Nat

/-!
## Constants
-/

def feeAnchor : Nat :=
  10000

def adjustmentVariable : Option Multiplier :=
  FixedPoint.saturatingFromRational 125 1000000

def minimumMultiplier : Multiplier :=
  FixedPoint.saturatingFromInteger (feeAnchor / 10)

def maximumMultiplier : Multiplier :=
  FixedPoint.saturatingFromInteger (feeAnchor * 10)

/-!
## The limiting dimension
-/

/-- `Perbill::from_rational`. -/
def perbill (used limit : Nat) : Nat :=
  partsOf (10 ^ 9) used limit

def BlockLimits.maxWeight (limits : BlockLimits) : Weight :=
  limits.maxTotal.getD limits.maxBlock

def Consumed.refTime (used : Consumed) (limits : BlockLimits) : Nat × Nat :=
  ((used.blockWeight.min limits.maxWeight).refTime,
    max limits.maxWeight.refTime 1)

def Consumed.proofSize (used : Consumed) (limits : BlockLimits) : Nat × Nat :=
  ((used.blockWeight.min limits.maxWeight).proofSize,
    max limits.maxWeight.proofSize 1)

def Consumed.length (used : Consumed) (limits : BlockLimits) : Nat × Nat :=
  (min used.blockSize (max limits.maxLength 1), max limits.maxLength 1)

def share (dimension : Nat × Nat) : Nat :=
  perbill dimension.1 dimension.2

/-- Usage and ceiling of the dimension nearest to full. -/
def limitingDimension (limits : BlockLimits) (used : Consumed) : Nat × Nat :=
  let refTimeShare := share (used.refTime limits)
  let proofShare := share (used.proofSize limits)
  let lengthShare := share (used.length limits)
  if refTimeShare ≤ lengthShare ∧ proofShare ≤ lengthShare then
    used.length limits
  else if refTimeShare < proofShare then
    used.proofSize limits
  else
    used.refTime limits

/-!
## The update

A quarter of a number, as the product with `TargetBlockFullness` rounds it, is
code of another crate and enters as `quarter`.
-/

def raise (previous firstTerm secondTerm : Multiplier) : Multiplier :=
  let rise := (firstTerm.saturatingAdd secondTerm).saturatingMul previous
  (previous.saturatingAdd rise).clamp minimumMultiplier maximumMultiplier

def lower (previous firstTerm secondTerm : Multiplier) : Multiplier :=
  let fall := (firstTerm.saturatingSub secondTerm).saturatingMul previous
  (previous.saturatingSub fall).clamp minimumMultiplier maximumMultiplier

/-- `FullnessFeeUpdate::convert`.  `none` is an abort. -/
def convert (quarter : Nat -> Nat) (limits : BlockLimits) (consumed : Consumed)
    (previous : Multiplier) : Option Multiplier := do
  let previous := previous.atLeast minimumMultiplier
  let (used, limit) := limitingDimension limits consumed
  let target := quarter limit
  let gap := max used target - min used target
  let diff <- FixedPoint.saturatingFromRational gap limit
  let adjustment <- adjustmentVariable
  let halfSquared <- (adjustment.saturatingMul adjustment).checkedDivide
    (FixedPoint.saturatingFromInteger 2)
  let firstTerm := adjustment.saturatingMul diff
  let secondTerm := (halfSquared.saturatingMul diff).saturatingMul diff
  if target ≤ used then
    return raise previous firstTerm secondTerm
  else
    return lower previous firstTerm secondTerm

/-!
## The dimensions
-/

def dimensions (limits : BlockLimits) (used : Consumed) : List (Nat × Nat) :=
  [used.refTime limits, used.proofSize limits, used.length limits]

theorem dimension_bounds {limits : BlockLimits} {used : Consumed}
    {dimension : Nat × Nat} (h : dimension ∈ dimensions limits used) :
    dimension.1 ≤ dimension.2 ∧ 0 < dimension.2 := by
  have hcap : forall a b : Nat, min a b ≤ max b 1 ∧ 0 < max b 1 := by
    lia
  unfold dimensions at h
  rcases List.mem_cons.mp h with rfl | h
  · exact hcap _ _
  rcases List.mem_cons.mp h with rfl | h
  · exact hcap _ _
  rcases List.mem_singleton.mp h with rfl
  exact ⟨Nat.min_le_right _ _, (hcap 0 _).right⟩

theorem limitingDimension_mem (limits : BlockLimits) (used : Consumed) :
    limitingDimension limits used ∈ dimensions limits used := by
  unfold limitingDimension dimensions
  dsimp only
  split
  · simp
  · split
    · simp
    · simp

theorem share_le_limitingDimension {limits : BlockLimits} {used : Consumed}
    {dimension : Nat × Nat} (h : dimension ∈ dimensions limits used) :
    share dimension ≤ share (limitingDimension limits used) := by
  have hlargest :
      share (used.refTime limits) ≤ share (limitingDimension limits used) ∧
        share (used.proofSize limits) ≤ share (limitingDimension limits used) ∧
        share (used.length limits) ≤ share (limitingDimension limits used) := by
    unfold limitingDimension
    dsimp only
    split
    · rename_i hlength
      exact ⟨hlength.left, hlength.right, Nat.le_refl _⟩
    · rename_i hlength
      split
      · lia
      · lia
  unfold dimensions at h
  rcases List.mem_cons.mp h with rfl | h
  · exact hlargest.left
  rcases List.mem_cons.mp h with rfl | h
  · exact hlargest.right.left
  rcases List.mem_singleton.mp h with rfl
  exact hlargest.right.right

/-!
## What an update stores
-/

theorem inner_minimumMultiplier : minimumMultiplier.inner = 10 ^ 21 := by
  decide

theorem inner_maximumMultiplier : maximumMultiplier.inner = 10 ^ 23 := by
  decide

def adjustmentParts : Multiplier :=
  ⟨125 * 10 ^ 12, by decide⟩

def halfSquaredParts : Multiplier :=
  ⟨7812500000, by decide⟩

theorem adjustmentVariable_eq : adjustmentVariable = some adjustmentParts := by
  decide

theorem halfSquared_eq :
    (adjustmentParts.saturatingMul adjustmentParts).checkedDivide
        (FixedPoint.saturatingFromInteger 2) = some halfSquaredParts := by
  decide

/-- The terms of first and of second order, in parts of the unit. -/
def firstPart (diff : Nat) : Nat :=
  125 * 10 ^ 12 * diff / 10 ^ 18

def secondPart (diff : Nat) : Nat :=
  7812500000 * diff / 10 ^ 18 * diff / 10 ^ 18

theorem firstPart_le {diff : Nat} (h : diff ≤ 10 ^ 18) :
    firstPart diff ≤ 125 * 10 ^ 12 := by
  unfold firstPart
  lia

theorem secondPart_le {diff : Nat} (h : diff ≤ 10 ^ 18) :
    secondPart diff ≤ 7812500000 := by
  unfold secondPart
  have hfirst : 7812500000 * diff / 10 ^ 18 ≤ 7812500000 := by lia
  refine Nat.div_le_of_le_mul ?_
  rw [Nat.mul_comm (10 ^ 18)]
  exact Nat.mul_le_mul hfirst h

/-- The distance to the target, in parts of the ceiling. -/
def distance (used limit target : Nat) : Nat :=
  (max used target - min used target) * 10 ^ 18 / limit

theorem distance_le {used limit target : Nat} (hlimit : 0 < limit)
    (hused : used ≤ limit) (htarget : target ≤ limit) :
    distance used limit target ≤ 10 ^ 18 := by
  refine Nat.div_le_of_le_mul (Nat.mul_le_mul_right _ ?_)
  lia

theorem target_le {quarter : Nat -> Nat} (hquarter : RoundsTo 1 4 quarter)
    {limit : Nat} (hlimit : 0 < limit) : quarter limit ≤ limit := by
  have := (hquarter limit).right
  lia

theorem inner_firstTerm (diff : Multiplier) :
    (adjustmentParts.saturatingMul diff).inner = firstPart diff.inner :=
  FixedPoint.inner_saturatingMul (by decide)

theorem inner_secondTerm {diff : Multiplier} (h : diff.inner ≤ 10 ^ 18) :
    ((halfSquaredParts.saturatingMul diff).saturatingMul diff).inner =
      secondPart diff.inner := by
  have hhalf : (halfSquaredParts.saturatingMul diff).inner =
      7812500000 * diff.inner / 10 ^ 18 :=
    FixedPoint.inner_saturatingMul (by decide)
  rw [FixedPoint.inner_saturatingMul, hhalf]
  · rfl
  · rw [hhalf]
    lia

def banded (n : Nat) : Nat :=
  max (10 ^ 21) (min n (10 ^ 23))

theorem inner_clamped (moved : Multiplier) :
    (moved.clamp minimumMultiplier maximumMultiplier).inner =
      banded moved.inner := by
  have hband : minimumMultiplier ≤ maximumMultiplier := by
    decide
  rw [FixedPoint.inner_clamp moved hband, inner_minimumMultiplier,
    inner_maximumMultiplier]
  rfl

theorem banded_min (n : Nat) : banded (min n u128Max) = banded n := by
  have htop : 10 ^ 23 ≤ u128Max := by
    decide
  unfold banded
  lia

section Moves

variable {firstTerm secondTerm : Multiplier}
variable (hfirst : firstTerm.inner ≤ 125 * 10 ^ 12)
include hfirst

theorem inner_raise (hsecond : secondTerm.inner ≤ 7812500000)
    (previous : Multiplier) :
    (raise previous firstTerm secondTerm).inner = banded (previous.inner +
      (firstTerm.inner + secondTerm.inner) * previous.inner / 10 ^ 18) := by
  have hsum : (firstTerm.saturatingAdd secondTerm).inner =
      firstTerm.inner + secondTerm.inner := by
    refine FixedPoint.inner_saturated_of_le ?_
    exact Nat.le_trans (Nat.add_le_add hfirst hsecond) (by decide)
  have hrise := FixedPoint.inner_saturatingMul
    (a := firstTerm.saturatingAdd secondTerm) (b := previous) (by lia)
  unfold raise
  rw [inner_clamped]
  unfold FixedPoint.saturatingAdd at hsum hrise ⊢
  rw [FixedPoint.inner_saturated, hrise, hsum, banded_min]

theorem inner_lower (previous : Multiplier) :
    (lower previous firstTerm secondTerm).inner = banded (previous.inner -
      (firstTerm.inner - secondTerm.inner) * previous.inner / 10 ^ 18) := by
  have hdifference := FixedPoint.inner_saturatingSub firstTerm secondTerm
  have hfall := FixedPoint.inner_saturatingMul
    (a := firstTerm.saturatingSub secondTerm) (b := previous) (by lia)
  unfold lower
  rw [inner_clamped, FixedPoint.inner_saturatingSub, hfall, hdifference]

end Moves

theorem convert_eq {quarter : Nat -> Nat} {limits : BlockLimits}
    {consumed : Consumed} {used limit : Nat} {diff : Multiplier}
    (hdimension : limitingDimension limits consumed = (used, limit))
    (hdiff : FixedPoint.saturatingFromRational
      (max used (quarter limit) - min used (quarter limit)) limit = some diff)
    (previous : Multiplier) :
    convert quarter limits consumed previous =
      if quarter limit ≤ used then
        some (raise (previous.atLeast minimumMultiplier)
          (adjustmentParts.saturatingMul diff)
          ((halfSquaredParts.saturatingMul diff).saturatingMul diff))
      else
        some (lower (previous.atLeast minimumMultiplier)
          (adjustmentParts.saturatingMul diff)
          ((halfSquaredParts.saturatingMul diff).saturatingMul diff)) := by
  unfold convert
  rw [hdimension]
  dsimp only
  rw [hdiff, adjustmentVariable_eq]
  dsimp only [Option.bind_eq_bind, Option.bind_some]
  rw [halfSquared_eq]
  dsimp only [Option.bind_some, Option.pure_def]

/-- What an update makes of a multiplier of `held` parts. -/
inductive Moves (quarter : Nat -> Nat) (dimension : Nat × Nat) (held : Nat) :
    Nat -> Prop where
  | up (diff : Nat) :
      diff = distance dimension.1 dimension.2 (quarter dimension.2) ->
      quarter dimension.2 ≤ dimension.1 ->
      Moves quarter dimension held (banded
        (held + (firstPart diff + secondPart diff) * held / 10 ^ 18))
  | down (diff : Nat) :
      diff = distance dimension.1 dimension.2 (quarter dimension.2) ->
      dimension.1 < quarter dimension.2 ->
      Moves quarter dimension held (banded
        (held - (firstPart diff - secondPart diff) * held / 10 ^ 18))

theorem limiting_distance_le {quarter : Nat -> Nat}
    (hquarter : RoundsTo 1 4 quarter) {limits : BlockLimits}
    {consumed : Consumed} {used limit : Nat}
    (hdimension : limitingDimension limits consumed = (used, limit)) :
    distance used limit (quarter limit) ≤ 10 ^ 18 := by
  have hbounds := dimension_bounds (limitingDimension_mem limits consumed)
  rw [hdimension] at hbounds
  exact distance_le hbounds.right hbounds.left
    (target_le hquarter hbounds.right)

theorem convert_moves {quarter : Nat -> Nat} (hquarter : RoundsTo 1 4 quarter)
    (limits : BlockLimits) (consumed : Consumed) (previous : Multiplier) :
    exists next, convert quarter limits consumed previous = some next ∧
      Moves quarter (limitingDimension limits consumed)
        (max previous.inner (10 ^ 21)) next.inner := by
  rcases hdimension : limitingDimension limits consumed with ⟨used, limit⟩
  have hlimit := (dimension_bounds
    (limitingDimension_mem limits consumed)).right
  rw [hdimension] at hlimit
  have hle := limiting_distance_le hquarter hdimension
  have hfits : distance used limit (quarter limit) ≤ u128Max :=
    Nat.le_trans hle (by decide)
  rcases FixedPoint.exists_saturatingFromRational hlimit hfits with
    ⟨diff, hdiff, hinner⟩
  change diff.inner = distance used limit (quarter limit) at hinner
  rw [← hinner] at hle
  have hfirst := inner_firstTerm diff
  have hsecond := inner_secondTerm hle
  have hfirstLe := firstPart_le hle
  have hsecondLe := secondPart_le hle
  rw [← hfirst] at hfirstLe
  rw [← hsecond] at hsecondLe
  have hheld := FixedPoint.inner_atLeast previous minimumMultiplier
  rw [inner_minimumMultiplier] at hheld
  rw [convert_eq hdimension hdiff]
  by_cases hexcess : quarter limit ≤ used
  · rw [if_pos hexcess]
    refine ⟨_, rfl, ?_⟩
    rw [inner_raise hfirstLe hsecondLe, hfirst, hsecond, hheld]
    exact Moves.up diff.inner hinner hexcess
  · rw [if_neg hexcess]
    refine ⟨_, rfl, ?_⟩
    rw [inner_lower hfirstLe, hfirst, hsecond, hheld]
    exact Moves.down diff.inner hinner (Nat.not_le.mp hexcess)

/-!
## Direction and size of a move
-/

theorem banded_range (n : Nat) : 10 ^ 21 ≤ banded n ∧ banded n ≤ 10 ^ 23 := by
  unfold banded
  lia

theorem le_banded_add {held n : Nat} (h : held ≤ 10 ^ 23) {a : Nat}
    (hn : held ≤ n + a) : held ≤ banded n + a := by
  unfold banded
  lia

theorem banded_le_add {held n : Nat} (h : 10 ^ 21 ≤ held) {a : Nat}
    (hn : n ≤ held + a) : banded n ≤ held + a := by
  unfold banded
  lia

namespace Moves

variable {quarter : Nat -> Nat} {dimension : Nat × Nat} {held next : Nat}

theorem band (h : Moves quarter dimension held next) :
    10 ^ 21 ≤ next ∧ next ≤ 10 ^ 23 := by
  cases h with
  | up diff hdiff hexcess => exact banded_range _
  | down diff hdiff hbelow => exact banded_range _

theorem rises (h : Moves quarter dimension held next) (hheld : held ≤ 10 ^ 23)
    (hexcess : quarter dimension.2 ≤ dimension.1) : held ≤ next := by
  cases h with
  | up diff hdiff _ =>
      exact le_banded_add hheld (a := 0) (Nat.le_add_right held _)
  | down diff hdiff hbelow => exact absurd hexcess (Nat.not_le.mpr hbelow)

theorem falls (h : Moves quarter dimension held next) (hheld : 10 ^ 21 ≤ held)
    (hbelow : dimension.1 ≤ quarter dimension.2) : next ≤ held := by
  cases h with
  | up diff hdiff hexcess =>
      -- on target nothing moves
      have hzero : diff = 0 := by
        unfold distance at hdiff
        rw [← Nat.le_antisymm hbelow hexcess, Nat.max_self, Nat.min_self,
          Nat.sub_self, Nat.zero_mul, Nat.zero_div] at hdiff
        exact hdiff
      have hnone : firstPart 0 + secondPart 0 = 0 := rfl
      rw [hzero, hnone, Nat.zero_mul, Nat.zero_div]
      exact banded_le_add hheld (a := 0) (Nat.le_refl held)
  | down diff hdiff _ =>
      exact banded_le_add hheld (a := 0) (Nat.sub_le held _)

theorem change_le (h : Moves quarter dimension held next)
    (hlow : 10 ^ 21 ≤ held) (hhigh : held ≤ 10 ^ 23)
    (hle : distance dimension.1 dimension.2 (quarter dimension.2) ≤
      10 ^ 18) :
    exists change, change * 10 ^ 18 ≤ (125 * 10 ^ 12 + 7812500000) * held ∧
      next ≤ held + change ∧ held ≤ next + change := by
  cases h with
  | up diff hdiff _ =>
      rw [← hdiff] at hle
      refine ⟨_, ?_, banded_le_add hlow (Nat.le_refl _), le_banded_add hhigh ?_⟩
      · exact Nat.le_trans (Nat.div_mul_le_self _ _) (Nat.mul_le_mul_right held
          (Nat.add_le_add (firstPart_le hle) (secondPart_le hle)))
      · rw [Nat.add_assoc]
        exact Nat.le_add_right held _
  | down diff hdiff _ =>
      rw [← hdiff] at hle
      refine ⟨_, ?_, banded_le_add hlow ?_, le_banded_add hhigh
        (Nat.sub_le_iff_le_add.mp (Nat.le_refl _))⟩
      · exact Nat.le_trans (Nat.div_mul_le_self _ _) (Nat.mul_le_mul_right held
          (Nat.le_trans (Nat.sub_le _ _)
            (Nat.le_trans (firstPart_le hle) (Nat.le_add_right _ _))))
      · exact Nat.le_trans (Nat.sub_le held _) (Nat.le_add_right held _)

end Moves

theorem target_le_of_share {quarter : Nat -> Nat}
    (hquarter : RoundsTo 1 4 quarter) {dimension : Nat × Nat}
    (hbounds : dimension.1 ≤ dimension.2)
    (hshare : 250000000 < share dimension) :
    quarter dimension.2 ≤ dimension.1 := by
  have hparts : share dimension * dimension.2 ≤ dimension.1 * 10 ^ 9 :=
    partsOf_mul_le hbounds
  have hmore : 250000001 * dimension.2 ≤ share dimension * dimension.2 :=
    Nat.mul_le_mul_right dimension.2 hshare
  have := (hquarter dimension.2).right
  lia

theorem le_target_of_lt {quarter : Nat -> Nat}
    (hquarter : RoundsTo 1 4 quarter) {dimension : Nat × Nat}
    (h : 4 * dimension.1 < dimension.2) :
    dimension.1 ≤ quarter dimension.2 := by
  have := (hquarter dimension.2).left
  lia

theorem value_change_le {previous next : Multiplier} {change : Nat}
    (hchange : change * 10 ^ 18 ≤
      (125 * 10 ^ 12 + 7812500000) * previous.inner)
    (hup : next.inner ≤ previous.inner + change)
    (hdown : previous.inner ≤ next.inner + change) :
    |next.value - previous.value| ≤ previous.value *
      (adjustmentParts.value + adjustmentParts.value ^ 2 / 2) := by
  have hvariable : adjustmentParts.value = 125 / 1000000 := by
    norm_num [FixedPoint.value, adjustmentParts]
  have hchange' : (change : ℚ) * 10 ^ 18 ≤
      (125 * 10 ^ 12 + 7812500000) * previous.inner := by
    exact_mod_cast hchange
  have hup' : (next.inner : ℚ) ≤ previous.inner + change := by
    exact_mod_cast hup
  have hdown' : (previous.inner : ℚ) ≤ next.inner + change := by
    exact_mod_cast hdown
  rw [hvariable, abs_sub_le_iff]
  unfold FixedPoint.value
  push_cast
  constructor
  · linarith
  · linarith

/-- Whatever the multiplier was and whatever the block consumed, the update
comes to an end inside the band.  From inside the band it does not fall when a
dimension is used above a quarter, does not rise when all are used below, and
moves by no more than the adjustment variable and half its square.  The
dimension it looks at is the fullest. -/
theorem multiplier_follows_the_fullest_dimension {quarter : Nat -> Nat}
    (hquarter : RoundsTo 1 4 quarter) (limits : BlockLimits)
    (consumed : Consumed) (previous : Multiplier) :
    (exists next, convert quarter limits consumed previous = some next ∧
      minimumMultiplier ≤ next ∧ next ≤ maximumMultiplier ∧
      (minimumMultiplier ≤ previous -> previous ≤ maximumMultiplier ->
        ((∃ dimension ∈ dimensions limits consumed,
          250000000 < share dimension) -> previous ≤ next) ∧
        ((∀ dimension ∈ dimensions limits consumed,
          4 * dimension.1 < dimension.2) -> next ≤ previous) ∧
        ∀ v ∈ adjustmentVariable, |next.value - previous.value| ≤
          previous.value * (v.value + v.value ^ 2 / 2))) ∧
    limitingDimension limits consumed ∈ dimensions limits consumed ∧
    ∀ dimension ∈ dimensions limits consumed,
      share dimension ≤ share (limitingDimension limits consumed) := by
  have hmem := limitingDimension_mem limits consumed
  refine ⟨?_, hmem, fun _ => share_le_limitingDimension⟩
  rcases convert_moves hquarter limits consumed previous with
    ⟨next, hconvert, hmoves⟩
  refine ⟨next, hconvert, ?_, ?_, ?_⟩
  · show minimumMultiplier.inner ≤ next.inner
    rw [inner_minimumMultiplier]
    exact hmoves.band.left
  · show next.inner ≤ maximumMultiplier.inner
    rw [inner_maximumMultiplier]
    exact hmoves.band.right
  intro hlow hhigh
  change minimumMultiplier.inner ≤ previous.inner at hlow
  change previous.inner ≤ maximumMultiplier.inner at hhigh
  rw [inner_minimumMultiplier] at hlow
  rw [inner_maximumMultiplier] at hhigh
  rw [Nat.max_eq_left hlow] at hmoves
  refine ⟨?_, ?_, ?_⟩
  · rintro ⟨dimension, hdimension, hshare⟩
    refine hmoves.rises hhigh (target_le_of_share hquarter
      (dimension_bounds hmem).left ?_)
    exact Nat.lt_of_lt_of_le hshare (share_le_limitingDimension hdimension)
  · intro hbelow
    exact hmoves.falls hlow (le_target_of_lt hquarter (hbelow _ hmem))
  · intro v hv
    rw [adjustmentVariable_eq] at hv
    cases hv
    rcases hmoves.change_le hlow hhigh (limiting_distance_le hquarter rfl) with
      ⟨change, hchange, hup, hdown⟩
    exact value_change_le hchange hup hdown

/-- A block full of bytes does not lower the multiplier at the anchor. -/
theorem full_length_does_not_lower_the_anchor :
    exists next, convert (fun n => 1 * n / 4)
        ⟨some ⟨1000, 1000⟩, ⟨2000, 2000⟩, 400⟩ ⟨⟨0, 0⟩, 400⟩
        (FixedPoint.saturatingFromInteger feeAnchor) = some next ∧
      FixedPoint.saturatingFromInteger feeAnchor ≤ next := by
  rcases (multiplier_follows_the_fullest_dimension (roundsTo_div 1 (by decide))
    ⟨some ⟨1000, 1000⟩, ⟨2000, 2000⟩, 400⟩ ⟨⟨0, 0⟩, 400⟩
    (FixedPoint.saturatingFromInteger feeAnchor)).left with
    ⟨next, hnext, _, _, hmove⟩
  exact ⟨next, hnext,
    (hmove (by decide) (by decide)).left ⟨(400, 400), by decide, by decide⟩⟩

end Fees
end Numen
