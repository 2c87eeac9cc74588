import Numen.Fees.Congestion

/-!
# The price of a byte

The bytes of a transaction are charged at `LENGTH_FEE` each, carried by the fee
multiplier.  `AnchorFeeMultiplier` puts a multiplier stored against an anchor of
one onto the scale of `FEE_ANCHOR`.  What a byte costs stays where it was across
that upgrade, moves slowly from there, and keeps to its band for as long as the
chain lives, whichever upgrades follow.
-/

namespace Numen
namespace Fees

open Foundation

def lengthFee : Nat :=
  16000000000000

/-- `AdjustedLengthToFee::weight_to_fee`, at the multiplier for the next block.
The length of an encoded transaction arrives as a reference time. -/
def lengthToFee (multiplier : Multiplier) (length : Weight) : Nat :=
  let flat := min (lengthFee / feeAnchor * length.refTime) u128Max
  multiplier.saturatingMulInt flat

namespace AnchorFeeMultiplier

def anchored (stored : Multiplier) : Multiplier :=
  if stored < minimumMultiplier then
    stored.saturatingMul (FixedPoint.saturatingFromInteger feeAnchor)
  else
    stored

/-- The multiplier that is stored afterwards. -/
def onRuntimeUpgrade (stored : Multiplier) : Multiplier :=
  let anchored := anchored stored
  if anchored = stored then
    stored
  else
    anchored

end AnchorFeeMultiplier

/-!
## The life of the multiplier
-/

inductive Turn where
  | upgrade
  | block (limits : BlockLimits) (consumed : Consumed)

def Turn.apply (quarter : Nat -> Nat) (multiplier : Multiplier) :
    Turn -> Option Multiplier
  | upgrade => some (AnchorFeeMultiplier.onRuntimeUpgrade multiplier)
  | block limits consumed => convert quarter limits consumed multiplier

def Turn.blocks : Turn -> Nat
  | upgrade => 0
  | block _ _ => 1

def blocksOf (turns : List Turn) : Nat :=
  (turns.map Turn.blocks).sum

def afterTurns (quarter : Nat -> Nat) (stored : Multiplier)
    (turns : List Turn) : Option Multiplier :=
  turns.foldlM (Turn.apply quarter) stored

/-!
## The upgrade
-/

theorem onRuntimeUpgrade_eq (stored : Multiplier) :
    AnchorFeeMultiplier.onRuntimeUpgrade stored =
      AnchorFeeMultiplier.anchored stored := by
  unfold AnchorFeeMultiplier.onRuntimeUpgrade
  dsimp only
  split
  · rename_i hsame
    exact hsame.symm
  · rfl

/-- A multiplier between a tenth and ten, the range around an anchor of one,
is multiplied by the new anchor, without rounding. -/
theorem inner_anchored {stored : Multiplier} (hhigh : stored.inner ≤ 10 ^ 19) :
    (AnchorFeeMultiplier.anchored stored).inner = stored.inner * 10 ^ 4 := by
  have hbelow : stored < minimumMultiplier := by
    change stored.inner < minimumMultiplier.inner
    rw [inner_minimumMultiplier]
    lia
  have hanchor : (FixedPoint.saturatingFromInteger feeAnchor :
      Multiplier).inner = 10 ^ 22 := by
    decide
  have hproduct : stored.inner * 10 ^ 22 / 10 ^ 18 = stored.inner * 10 ^ 4 := by
    lia
  have hfits : stored.inner * 10 ^ 4 ≤ u128Max :=
    Nat.le_trans (Nat.mul_le_mul_right _ hhigh) (by decide)
  unfold AnchorFeeMultiplier.anchored
  rw [if_pos hbelow]
  unfold FixedPoint.saturatingMul
  rw [hanchor, hproduct, FixedPoint.inner_saturated_of_le hfits]

theorem anchored_of_band {stored : Multiplier} (hlow : 10 ^ 21 ≤ stored.inner) :
    AnchorFeeMultiplier.anchored stored = stored := by
  refine if_neg ?_
  change ¬ stored.inner < minimumMultiplier.inner
  rw [inner_minimumMultiplier]
  exact Nat.not_lt.mpr hlow

/-!
## The pace
-/

/-- The largest part of itself that the multiplier moves by in a block. -/
def pace : ℚ :=
  (125 * 10 ^ 12 + 7812500000) / 10 ^ 18

/-- No further apart than `n` blocks can take the multiplier. -/
def Within (n : Nat) (start final : Multiplier) : Prop :=
  (1 - pace) ^ n * (start.inner : ℚ) ≤ final.inner ∧
    (final.inner : ℚ) ≤ (1 + pace) ^ n * start.inner

theorem pace_bounds : 0 ≤ 1 - pace ∧ 0 ≤ 1 + pace := by
  norm_num [pace]

theorem Within.refl (start : Multiplier) : Within 0 start start := by
  unfold Within
  rw [pow_zero, pow_zero, one_mul]
  exact ⟨le_refl _, le_refl _⟩

theorem Within.trans {m n : Nat} {a b c : Multiplier} (hab : Within m a b)
    (hbc : Within n b c) : Within (m + n) a c := by
  rcases pace_bounds with ⟨hdown, hup⟩
  rcases hab with ⟨hlow, hhigh⟩
  rcases hbc with ⟨hlower, hhigher⟩
  unfold Within
  rw [pow_add, pow_add, mul_comm ((1 - pace) ^ m), mul_comm ((1 + pace) ^ m),
    mul_assoc, mul_assoc]
  constructor
  · exact le_trans (mul_le_mul_of_nonneg_left hlow (pow_nonneg hdown n)) hlower
  · exact le_trans hhigher (mul_le_mul_of_nonneg_left hhigh (pow_nonneg hup n))

theorem Within.eq_of_zero {start final : Multiplier}
    (h : Within 0 start final) : final = start := by
  unfold Within at h
  rw [pow_zero, pow_zero, one_mul] at h
  apply FixedPoint.ext
  exact_mod_cast le_antisymm h.right h.left

theorem within_of_change {start final : Multiplier} {change : Nat}
    (hchange : change * 10 ^ 18 ≤
      (125 * 10 ^ 12 + 7812500000) * start.inner)
    (hup : final.inner ≤ start.inner + change)
    (hdown : start.inner ≤ final.inner + change) : Within 1 start final := by
  have hchange' : (change : ℚ) * 10 ^ 18 ≤
      (125 * 10 ^ 12 + 7812500000) * start.inner := by
    exact_mod_cast hchange
  have hup' : (final.inner : ℚ) ≤ start.inner + change := by
    exact_mod_cast hup
  have hdown' : (start.inner : ℚ) ≤ final.inner + change := by
    exact_mod_cast hdown
  unfold Within pace
  rw [pow_one, pow_one]
  constructor
  · linarith
  · linarith

theorem Turn.apply_within {quarter : Nat -> Nat}
    (hquarter : RoundsTo 1 4 quarter) (turn : Turn) {start : Multiplier}
    (hlow : 10 ^ 21 ≤ start.inner) (hhigh : start.inner ≤ 10 ^ 23) :
    exists final, turn.apply quarter start = some final ∧
      10 ^ 21 ≤ final.inner ∧ final.inner ≤ 10 ^ 23 ∧
      Within turn.blocks start final := by
  cases turn with
  | upgrade =>
      refine ⟨start, ?_, hlow, hhigh, Within.refl start⟩
      unfold Turn.apply
      rw [onRuntimeUpgrade_eq, anchored_of_band hlow]
  | block limits consumed =>
      rcases convert_moves hquarter limits consumed start with
        ⟨final, hconvert, hmoves⟩
      rw [Nat.max_eq_left hlow] at hmoves
      rcases hmoves.change_le hlow hhigh (limiting_distance_le hquarter rfl) with
        ⟨change, hchange, hup, hdown⟩
      exact ⟨final, hconvert, hmoves.band.left, hmoves.band.right,
        within_of_change hchange hup hdown⟩

theorem afterTurns_within {quarter : Nat -> Nat}
    (hquarter : RoundsTo 1 4 quarter) (turns : List Turn) {start : Multiplier}
    (hlow : 10 ^ 21 ≤ start.inner) (hhigh : start.inner ≤ 10 ^ 23) :
    exists final, afterTurns quarter start turns = some final ∧
      10 ^ 21 ≤ final.inner ∧ final.inner ≤ 10 ^ 23 ∧
      Within (blocksOf turns) start final := by
  induction turns generalizing start with
  | nil =>
      exact ⟨start, rfl, hlow, hhigh, Within.refl start⟩
  | cons turn rest ih =>
      rcases turn.apply_within hquarter hlow hhigh with
        ⟨next, hnext, hnextLow, hnextHigh, hstep⟩
      rcases ih hnextLow hnextHigh with
        ⟨final, hfinal, hfinalLow, hfinalHigh, hrest⟩
      refine ⟨final, ?_, hfinalLow, hfinalHigh, hstep.trans hrest⟩
      unfold afterTurns at hfinal ⊢
      rw [List.foldlM_cons, hnext]
      exact hfinal

theorem half_le_pow {n : Nat} (h : n ≤ 5500) : 1 / 2 ≤ (1 - pace) ^ n := by
  have hstretch : (0.98749 : ℚ) ≤ (1 - pace) ^ 100 := by
    have hbernoulli := one_add_mul_le_pow (a := -pace) (by norm_num [pace]) 100
    rw [← sub_eq_add_neg] at hbernoulli
    refine le_trans ?_ hbernoulli
    norm_num [pace]
  calc
    (1 / 2 : ℚ) ≤ 0.98749 ^ 55 := by norm_num
    _ ≤ ((1 - pace) ^ 100) ^ 55 := pow_le_pow_left₀ (by norm_num) hstretch 55
    _ = (1 - pace) ^ 5500 := by rw [← pow_mul]
    _ ≤ (1 - pace) ^ n := pow_le_pow_of_le_one pace_bounds.left
      (by norm_num [pace]) h

theorem pow_le_two {n : Nat} (h : n ≤ 5500) : (1 + pace) ^ n ≤ 2 := by
  have hproduct : (1 + pace) ^ n * (1 - pace) ^ n ≤ 1 := by
    rw [← mul_pow]
    exact pow_le_one₀ (mul_nonneg pace_bounds.right pace_bounds.left)
      (by norm_num [pace])
  have hpos := pow_nonneg pace_bounds.right n
  have hhalf := mul_le_mul_of_nonneg_left (half_le_pow h) hpos
  linarith

theorem Within.factor_two {n : Nat} {start final : Multiplier}
    (h : Within n start final) (hn : n ≤ 5500) :
    final.inner ≤ 2 * start.inner ∧ start.inner ≤ 2 * final.inner := by
  have hstart : (0 : ℚ) ≤ start.inner := Nat.cast_nonneg _
  have hup := mul_le_mul_of_nonneg_right (pow_le_two hn) hstart
  have hdown := mul_le_mul_of_nonneg_right (half_le_pow hn) hstart
  rcases h with ⟨hlow, hhigh⟩
  constructor
  · have hle : (final.inner : ℚ) ≤ 2 * start.inner := le_trans hhigh hup
    exact_mod_cast hle
  · have hle : (start.inner : ℚ) ≤ 2 * final.inner := by
      linarith
    exact_mod_cast hle

/-!
## The price
-/

theorem lengthToFee_eq {multiplier : Multiplier} {length : Nat}
    (hhigh : multiplier.inner ≤ 10 ^ 23) (hlength : length ≤ u32Max) :
    lengthToFee multiplier ⟨length, 0⟩ =
      multiplier.inner * (1600000000 * length) / 10 ^ 18 := by
  have hflat : lengthFee / feeAnchor * length = 1600000000 * length := rfl
  have hproduct : multiplier.inner * (1600000000 * length) ≤
      10 ^ 23 * (1600000000 * u32Max) :=
    Nat.mul_le_mul hhigh (Nat.mul_le_mul_left _ hlength)
  unfold lengthToFee FixedPoint.saturatingMulInt
  dsimp only
  rw [hflat, Nat.min_eq_left (Nat.le_trans (Nat.mul_le_mul_left _ hlength)
    (by decide))]
  exact Nat.min_eq_left (Nat.le_trans (Nat.div_le_div_right hproduct)
    (by decide))

theorem price_against_one {stored : Multiplier} {length : Nat}
    (hhigh : stored.inner ≤ 10 ^ 19) (hlength : length ≤ u32Max) :
    stored.saturatingMulInt (lengthFee * length) =
      lengthToFee (AnchorFeeMultiplier.anchored stored) ⟨length, 0⟩ := by
  have hanchored := inner_anchored hhigh
  have hband : (AnchorFeeMultiplier.anchored stored).inner ≤ 10 ^ 23 := by
    rw [hanchored]
    exact Nat.mul_le_mul_right _ hhigh
  have hsame : stored.inner * (lengthFee * length) =
      stored.inner * 10 ^ 4 * (1600000000 * length) := by
    have hfee : lengthFee = 10 ^ 4 * 1600000000 := rfl
    rw [hfee, Nat.mul_assoc, Nat.mul_assoc]
  have hproduct : stored.inner * 10 ^ 4 * (1600000000 * length) ≤
      10 ^ 23 * (1600000000 * u32Max) :=
    Nat.mul_le_mul (Nat.mul_le_mul_right _ hhigh)
      (Nat.mul_le_mul_left _ hlength)
  rw [lengthToFee_eq hband hlength, hanchored]
  unfold FixedPoint.saturatingMulInt
  rw [hsame]
  exact Nat.min_eq_left (Nat.le_trans (Nat.div_le_div_right hproduct)
    (by decide))

theorem lengthToFee_band {multiplier : Multiplier} {length : Nat}
    (hlow : 10 ^ 21 ≤ multiplier.inner) (hhigh : multiplier.inner ≤ 10 ^ 23)
    (hlength : length ≤ u32Max) :
    lengthFee / 10 * length ≤ lengthToFee multiplier ⟨length, 0⟩ ∧
      lengthToFee multiplier ⟨length, 0⟩ ≤ lengthFee * 10 * length := by
  have hless := Nat.mul_le_mul_right (1600000000 * length) hlow
  have hmore := Nat.mul_le_mul_right (1600000000 * length) hhigh
  rw [lengthToFee_eq hhigh hlength]
  unfold lengthFee
  generalize multiplier.inner * (1600000000 * length) = product at *
  lia

theorem lengthToFee_le_double {a b : Multiplier} {length : Nat}
    (h : a.inner ≤ 2 * b.inner) (ha : a.inner ≤ 10 ^ 23)
    (hb : b.inner ≤ 10 ^ 23) (hlength : length ≤ u32Max) :
    lengthToFee a ⟨length, 0⟩ ≤ 2 * lengthToFee b ⟨length, 0⟩ + 1 := by
  have hle := Nat.mul_le_mul_right (1600000000 * length) h
  rw [Nat.mul_assoc] at hle
  rw [lengthToFee_eq ha hlength, lengthToFee_eq hb hlength]
  generalize a.inner * (1600000000 * length) = x at *
  generalize b.inner * (1600000000 * length) = y at *
  lia

/-- Across the upgrade that anchors the multiplier, and whatever blocks and
further upgrades follow: a transaction of `length` bytes costs between a tenth
of `LENGTH_FEE` and ten times it for each.  Before the first block it costs what
it did against the anchor of one, however often the upgrade runs, and within
5,500 blocks that price neither doubles nor halves. -/
theorem byte_price_survives_the_upgrade {quarter : Nat -> Nat}
    (hquarter : RoundsTo 1 4 quarter) {stored : Multiplier}
    (hlow : 10 ^ 17 ≤ stored.inner) (hhigh : stored.inner ≤ 10 ^ 19)
    (turns : List Turn) :
    exists final,
      afterTurns quarter stored (Turn.upgrade :: turns) = some final ∧
      forall length, length ≤ u32Max ->
        let before := stored.saturatingMulInt (lengthFee * length)
        let now := lengthToFee final ⟨length, 0⟩
        lengthFee / 10 * length ≤ now ∧ now ≤ lengthFee * 10 * length ∧
        (blocksOf turns = 0 -> now = before) ∧
        (blocksOf turns ≤ 5500 ->
          now ≤ 2 * before + 1 ∧ before ≤ 2 * now + 1) := by
  have hstart := inner_anchored hhigh
  have hstartLow : 10 ^ 21 ≤ (AnchorFeeMultiplier.anchored stored).inner := by
    rw [hstart]
    exact Nat.mul_le_mul_right (10 ^ 4) hlow
  have hstartHigh : (AnchorFeeMultiplier.anchored stored).inner ≤ 10 ^ 23 := by
    rw [hstart]
    exact Nat.mul_le_mul_right (10 ^ 4) hhigh
  rcases afterTurns_within hquarter turns hstartLow hstartHigh with
    ⟨final, hfinal, hfinalLow, hfinalHigh, hwithin⟩
  refine ⟨final, ?_, ?_⟩
  · unfold afterTurns at hfinal ⊢
    rw [List.foldlM_cons]
    unfold Turn.apply
    rw [onRuntimeUpgrade_eq]
    exact hfinal
  intro length hlength before now
  have hbefore : before =
      lengthToFee (AnchorFeeMultiplier.anchored stored) ⟨length, 0⟩ :=
    price_against_one hhigh hlength
  rcases lengthToFee_band hfinalLow hfinalHigh hlength with ⟨hless, hmore⟩
  refine ⟨hless, hmore, ?_, ?_⟩
  · intro hblocks
    rw [hblocks] at hwithin
    have hunmoved : final = AnchorFeeMultiplier.anchored stored :=
      hwithin.eq_of_zero
    rw [hbefore, ← hunmoved]
  · intro hblocks
    rcases hwithin.factor_two hblocks with ⟨hup, hdown⟩
    rw [hbefore]
    exact ⟨lengthToFee_le_double hup hfinalHigh hstartHigh hlength,
      lengthToFee_le_double hdown hstartHigh hfinalHigh hlength⟩

/-- From a multiplier of 1, through an upgrade that runs twice and a block full
of bytes. -/
theorem byte_price_survives_a_repeated_upgrade :
    let stored : Multiplier := FixedPoint.saturatingFromInteger 1
    let full := Turn.block (runtimeLimits fun n => 3 * n / 4)
      ⟨⟨0, 0⟩, 3932160⟩
    exists final, afterTurns (fun n => 1 * n / 4) stored
        [Turn.upgrade, Turn.upgrade, full] = some final ∧
      lengthToFee final ⟨1000, 0⟩ ≤
        2 * stored.saturatingMulInt (lengthFee * 1000) + 1 := by
  intro stored full
  rcases byte_price_survives_the_upgrade (roundsTo_div 1 (by decide))
    (by decide : 10 ^ 17 ≤ stored.inner) (by decide)
    [Turn.upgrade, full] with ⟨final, hfinal, hprice⟩
  refine ⟨final, hfinal, ?_⟩
  exact ((hprice 1000 (by decide)).right.right.right (by decide)).left

end Fees
end Numen
