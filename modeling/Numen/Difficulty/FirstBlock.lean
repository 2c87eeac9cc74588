import Mathlib.Tactic.Linarith
import Mathlib.Tactic.Ring
import Numen.Difficulty.Agreement
import Numen.Difficulty.Exact

/-!
# The difficulty of the first block

`on_finalize` takes the first block as the anchor and keeps the initial
difficulty.  Import asks `realtime_difficulty`, which feeds the anchor timestamp
zero into the exponential formula: the block then appears late by the whole time
since the Unix epoch.
-/

namespace Numen
namespace Difficulty

open Foundation

/-- The exponent import computes for the first block of a chain. -/
def firstExponent (cfg : Config) (secs : Nat) : Int :=
  ((secs - (cfg.targetBlockTime % 2 ^ 64 : Nat)) * 65536 : Int).tdiv
    cfg.halflife

/-- The initial difficulties an exponent gives back.  A late block, and that is
every block of a chain started after 1970, keeps a difficulty of one, and within
the first halflife one so large that its target does not grow by a unit.  An
early block keeps the largest difficulty, and a difficulty too small to grow by
a unit. -/
def KeepsInitial (initialDifficulty : Nat) (exponent : Int) : Prop :=
  if 0 ≤ exponent then
    initialDifficulty = 1 ∨
      (exponent < 65536 ∧
        u256Max / (u256Max / initialDifficulty) = initialDifficulty ∧
        u256Max / initialDifficulty * (factorOf exponent - 65536) < 65536)
  else
    initialDifficulty = u256Max ∨
      (-65536 ≤ exponent ∧ 2 ≤ initialDifficulty ∧
        initialDifficulty * (131072 - factorOf exponent) < factorOf exponent)

section Formula

variable {d : Nat} {exponent : Int}

theorem div_eq_iff_between {target : Nat} (hpos : 0 < target) :
    u256Max / target = d <->
      d * target ≤ u256Max ∧ u256Max < (d + 1) * target := by
  rw [Nat.div_eq_iff hpos]
  have hmul : (d + 1) * target = d * target + target := Nat.succ_mul d target
  lia

theorem scaled_eq_self_iff (a : Nat) {factor : Nat} (hfactor : 65536 ≤ factor) :
    a * factor / 65536 = a <-> a * (factor - 65536) < 65536 := by
  have hsplit : a * factor = a * (factor - 65536) + a * 65536 := by
    rw [← Nat.mul_add, Nat.sub_add_cancel hfactor]
  rw [hsplit, Nat.add_mul_div_right _ _ (by decide : 0 < 65536)]
  constructor
  · intro heq
    exact (Nat.div_eq_zero_iff_lt (by decide)).mp (by lia)
  · intro hlt
    rw [Nat.div_eq_of_lt hlt, Nat.zero_add]

theorem anchor_le_half (htwo : 2 ≤ d) : 2 * (u256Max / d) ≤ u256Max := by
  have hmul := Nat.div_mul_le_self u256Max d
  have hle := Nat.mul_le_mul_left (u256Max / d) htwo
  lia

theorem targetAt_eq_min (hanchor : 1 ≤ u256Max / d)
    (hexponent : 0 ≤ exponent) :
    targetAt (u256Max / d) exponent =
      min u256Max (u256Max / d * factorOf exponent / 65536 *
        2 ^ (exponent / 65536).toNat) := by
  have hint : 0 ≤ intPart exponent := by
    rw [intPart_eq_div]
    lia
  rw [targetAt_of_nonneg hanchor hint, ← intPart_eq_div]
  exact if_neg (Int.not_lt.mpr hint)

theorem keeps_of_nonneg (hd : 1 ≤ d) (hmax : d ≤ u256Max)
    (hexponent : 0 ≤ exponent) :
    u256Max / targetAt (u256Max / d) exponent = d <->
      d = 1 ∨ (exponent < 65536 ∧ u256Max / (u256Max / d) = d ∧
        u256Max / d * (factorOf exponent - 65536) < 65536) := by
  have hanchor : 1 ≤ u256Max / d := one_le_div hd hmax
  have hle : u256Max / d ≤ u256Max := Nat.div_le_self _ _
  have hfactor := le_factorOf exponent
  have hgrows : u256Max / d ≤ u256Max / d * factorOf exponent / 65536 := by
    apply (Nat.le_div_iff_mul_le (by decide)).mpr
    exact Nat.mul_le_mul_left _ hfactor
  have hshift : 1 ≤ 2 ^ (exponent / 65536).toNat := Nat.two_pow_pos _
  have hscaled := Nat.le_mul_of_pos_right
    (u256Max / d * factorOf exponent / 65536) hshift
  rw [targetAt_eq_min hanchor hexponent, ← scaled_eq_self_iff _ hfactor]
  constructor
  · intro hdiv
    by_cases hone : d = 1
    · exact Or.inl hone
    · refine Or.inr ?_
      have hhalf := anchor_le_half (by lia : 2 ≤ d)
      have hpos : 0 < min u256Max (u256Max / d * factorOf exponent / 65536 *
          2 ^ (exponent / 65536).toNat) := by
        lia
      -- the target cannot shrink, and a quotient of `d` does not let it grow
      have hbetween := ((div_eq_iff_between hpos).mp hdiv).left
      rw [Nat.mul_comm] at hbetween
      have hupper := (Nat.le_div_iff_mul_le hd).mpr hbetween
      have hsame : u256Max / d * factorOf exponent / 65536 *
          2 ^ (exponent / 65536).toNat = u256Max / d := by
        lia
      have hexponent' : exponent < 65536 := by
        by_cases hsmall : exponent < 65536
        · exact hsmall
        · have hdouble : 2 ^ 1 ≤ 2 ^ (exponent / 65536).toNat :=
            Nat.pow_le_pow_right (by decide) (by lia)
          have hmul := Nat.mul_le_mul hgrows hdouble
          lia
      have hzero : (exponent / 65536).toNat = 0 := by lia
      rw [hzero, Nat.pow_zero, Nat.mul_one] at hsame
      refine ⟨hexponent', ?_, hsame⟩
      rw [hzero, Nat.pow_zero, Nat.mul_one, hsame,
        Nat.min_eq_right hle] at hdiv
      exact hdiv
  · rintro (rfl | ⟨hsmall, hdiv, hsame⟩)
    · rw [Nat.div_one] at hgrows hscaled ⊢
      rw [Nat.min_eq_left (Nat.le_trans hgrows hscaled)]
      exact Nat.div_self (by decide)
    · have hzero : (exponent / 65536).toNat = 0 := by lia
      rw [hsame, hzero, Nat.pow_zero, Nat.mul_one, Nat.min_eq_right hle]
      exact hdiv

theorem targetAt_eq_max (htwo : 2 ≤ d) (hexponent : exponent < 0) :
    targetAt (u256Max / d) exponent =
      max 1 (u256Max / d * factorOf exponent /
        (65536 * 2 ^ (-(exponent / 65536)).toNat)) := by
  have hint : intPart exponent < 0 := by
    rw [intPart_eq_div]
    lia
  have hhalf := anchor_le_half htwo
  have hfits : u256Max / d * factorOf exponent / 65536 ≤ u256Max := by
    have hmul := Nat.mul_le_mul_left (u256Max / d) (factorOf_le exponent)
    lia
  rw [targetAt_of_neg _ hint, Nat.min_eq_left hfits, Nat.div_div_eq_div_mul,
    intPart_eq_div]

theorem not_keeps_one (hexponent : exponent < 0) :
    u256Max / targetAt (u256Max / 1) exponent ≠ 1 := by
  have hint : intPart exponent < 0 := by
    rw [intPart_eq_div]
    lia
  have hshift : 2 ^ 1 ≤ 2 ^ (-intPart exponent).toNat :=
    Nat.pow_le_pow_right (by decide) (by lia)
  have hcut := Nat.min_le_right (u256Max / 1 * factorOf exponent / 65536)
    u256Max
  have hhalf : min (u256Max / 1 * factorOf exponent / 65536) u256Max /
      2 ^ (-intPart exponent).toNat ≤ u256Max / 2 :=
    Nat.div_le_div hcut hshift (by decide)
  have hlarge : 2 < u256Max := by decide
  rw [targetAt_of_neg _ hint]
  intro hdiv
  have hbetween := (div_eq_iff_between (by lia)).mp hdiv
  lia

/-- A difficulty too small to grow by a unit: the division takes less from the
target than the next difficulty would. -/
theorem between_of_small (htwo : 2 ≤ d)
    (hsmall : d * (131072 - factorOf exponent) < factorOf exponent) :
    u256Max < (d + 1) * (u256Max / d * factorOf exponent / 131072) := by
  have hfactor := factorOf_le exponent
  generalize factorOf exponent = factor at hsmall hfactor
  have hd : d < 176 := by
    have hmul : d * 742 ≤ d * (131072 - factor) :=
      Nat.mul_le_mul_left d (by lia)
    lia
  have hgap : 131072 * d + 1 ≤ (d + 1) * factor := by
    have hsub : d * (131072 - factor) + d * factor = d * 131072 := by
      rw [← Nat.mul_add, Nat.sub_add_cancel (by lia)]
    rw [Nat.succ_mul]
    lia
  have hanchor : u256Max < d * (u256Max / d + 1) :=
    Nat.lt_mul_div_succ u256Max (by lia)
  have hlarge : 2 ^ 64 < u256Max := by decide
  generalize u256Max / d = anchor at hanchor
  have htarget : anchor * factor < 131072 * (anchor * factor / 131072 + 1) :=
    Nat.lt_mul_div_succ _ (by decide)
  generalize anchor * factor / 131072 = target at htarget
  by_contra hle
  have hscaled : (131072 * d + 1) * anchor ≤ (d + 1) * factor * anchor :=
    Nat.mul_le_mul_right anchor hgap
  have hbound : (d + 1) * (anchor * factor) <
      (d + 1) * (131072 * (target + 1)) :=
    Nat.mul_lt_mul_of_pos_left htarget (Nat.succ_pos d)
  -- otherwise the anchor target is no larger than the rounding
  have hround : anchor < 262144 * d := by
    linarith
  have hfew : d * (anchor + 1) ≤ 176 * (262144 * 176) :=
    Nat.mul_le_mul (Nat.le_of_lt hd) (by lia)
  lia

theorem factor_of_between {factor scale : Nat} (hscale : 0 < scale)
    (hbetween : u256Max < (d + 1) * (u256Max / d * factor / scale)) :
    d * scale < (d + 1) * factor := by
  by_contra hle
  have htarget := Nat.div_mul_le_self (u256Max / d * factor) scale
  have hanchor := Nat.div_mul_le_self u256Max d
  generalize u256Max / d * factor / scale = target at hbetween htarget
  generalize u256Max / d = anchor at htarget hanchor
  have hmul : (d + 1) * target * scale ≤ u256Max * scale :=
    calc (d + 1) * target * scale = (d + 1) * (target * scale) :=
          Nat.mul_assoc _ _ _
      _ ≤ (d + 1) * (anchor * factor) := Nat.mul_le_mul_left _ htarget
      _ = (d + 1) * factor * anchor := by ring
      _ ≤ d * scale * anchor :=
          Nat.mul_le_mul_right anchor (Nat.le_of_not_lt hle)
      _ = anchor * d * scale := by ring
      _ ≤ u256Max * scale := Nat.mul_le_mul_right scale hanchor
  exact absurd (Nat.le_of_mul_le_mul_right hmul hscale)
    (Nat.not_le.mpr hbetween)

theorem keeps_of_neg (htwo : 2 ≤ d) (hexponent : exponent < 0) :
    u256Max / targetAt (u256Max / d) exponent = d <->
      d = u256Max ∨ (-65536 ≤ exponent ∧
        d * (131072 - factorOf exponent) < factorOf exponent) := by
  have hfactor := factorOf_le exponent
  have hsub : d * (131072 - factorOf exponent) + d * factorOf exponent =
      d * 131072 := by
    rw [← Nat.mul_add, Nat.sub_add_cancel (by lia)]
  have hshift : 2 ^ 1 ≤ 2 ^ (-(exponent / 65536)).toNat :=
    Nat.pow_le_pow_right (by decide) (by lia)
  rw [targetAt_eq_max htwo hexponent]
  constructor
  · intro hdiv
    by_cases hzero : u256Max / d * factorOf exponent /
        (65536 * 2 ^ (-(exponent / 65536)).toNat) = 0
    · rw [hzero] at hdiv
      exact Or.inl (hdiv.symm.trans (Nat.div_one _))
    · refine Or.inr ?_
      rw [Nat.max_eq_right (Nat.one_le_iff_ne_zero.mpr hzero)] at hdiv
      have hbetween :=
        ((div_eq_iff_between (Nat.pos_of_ne_zero hzero)).mp hdiv).right
      have hlarge := factor_of_between (by lia) hbetween
      have hone : (-(exponent / 65536)).toNat = 1 := by
        by_contra hne
        have hquarter : 2 ^ 2 ≤ 2 ^ (-(exponent / 65536)).toNat :=
          Nat.pow_le_pow_right (by decide) (by lia)
        have hleft := Nat.mul_le_mul_left d
          (Nat.mul_le_mul_left 65536 hquarter)
        have hright := Nat.mul_le_mul_left (d + 1) hfactor
        lia
      rw [hone, Nat.succ_mul] at hlarge
      exact ⟨by lia, by lia⟩
  · rintro (rfl | ⟨hexponent', hsmall⟩)
    · have hself : u256Max / u256Max = 1 := Nat.div_self (by decide)
      have hzero : 1 * factorOf exponent /
          (65536 * 2 ^ (-(exponent / 65536)).toNat) = 0 :=
        Nat.div_eq_of_lt (by lia)
      rw [hself, hzero]
      exact Nat.div_one _
    · have hone : (-(exponent / 65536)).toNat = 1 := by lia
      have hbetween := between_of_small htwo hsmall
      have hupper : u256Max / d * factorOf exponent / 131072 ≤ u256Max / d :=
        Nat.div_le_of_le_mul (by
          rw [Nat.mul_comm 131072]
          exact Nat.mul_le_mul_left _ (by lia))
      have hpos : 0 < u256Max / d * factorOf exponent / 131072 := by
        by_contra hzero
        rw [Nat.eq_zero_of_not_pos hzero] at hbetween
        lia
      have hanchor := Nat.div_mul_le_self u256Max d
      have hmul := Nat.mul_le_mul_left d hupper
      have hscale : 65536 * 2 ^ 1 = 131072 := rfl
      rw [hone, hscale, Nat.max_eq_right (Nat.succ_le_of_lt hpos)]
      refine (div_eq_iff_between hpos).mpr ⟨?_, hbetween⟩
      rw [Nat.mul_comm] at hanchor
      exact Nat.le_trans hmul hanchor

end Formula

theorem keepsInitial_iff {d : Nat} (hd : 1 ≤ d) (hmax : d ≤ u256Max)
    (exponent : Int) :
    u256Max / targetAt (u256Max / d) exponent = d <->
      KeepsInitial d exponent := by
  unfold KeepsInitial
  by_cases hexponent : 0 ≤ exponent
  · rw [if_pos hexponent]
    exact keeps_of_nonneg hd hmax hexponent
  · have hneg := Int.not_le.mp hexponent
    have hlarge : 2 ≤ u256Max := by decide
    rw [if_neg hexponent]
    by_cases hone : d = 1
    · rw [hone]
      exact iff_of_false (not_keeps_one hneg) (by lia)
    · rw [keeps_of_neg (by lia) hneg]
      have htwo : 2 ≤ d := by lia
      simp [htwo]

/-!
## Import and execution
-/

theorem build_eq_ok {initialDifficulty : Fin (2 ^ 256)} {g : State}
    (h : build initialDifficulty = Except.ok g) :
    1 ≤ initialDifficulty.val ∧
      g = { blockNumber := 0
            now := 0
            currentDifficulty := initialDifficulty.val
            anchorTarget := u256Max / initialDifficulty.val
            anchorTimestamp := 0
            anchorHeight := 0
            lastBlockTimestamp := 0 } := by
  unfold build at h
  split at h
  · cases h
  · rename_i hne
    cases h
    exact ⟨Nat.one_le_iff_ne_zero.mpr hne, rfl⟩

theorem realtimeDifficulty_genesis {cfg : Config}
    (hhalflife : cfg.halflife ≠ 0) {initialDifficulty : Fin (2 ^ 256)}
    {g : State} (h : build initialDifficulty = Except.ok g) (secs : Nat) :
    realtimeDifficulty cfg g secs =
      Except.ok (u256Max / targetAt (u256Max / initialDifficulty.val)
        (firstExponent cfg secs)) := by
  have hne : (cfg.halflife : Int) ≠ 0 := Int.natCast_ne_zero.mpr hhalflife
  rcases build_eq_ok h with ⟨_, rfl⟩
  have hexponent : exponentFp ((secs : Int) - (0 : Nat)) 1 cfg.targetBlockTime
      cfg.halflife = Except.ok (firstExponent cfg secs) := by
    unfold exponentFp firstExponent
    rw [Nat.mul_one]
    dsimp only
    rw [divideSigned_of_ne_zero _ hne]
    congr 2
  have htarget := computeNextTarget_of_exponent hexponent
    (u256Max / initialDifficulty.val)
  unfold realtimeDifficulty
  dsimp only
  rw [show satAdd u64Max (heightToU64 0) 1 - 0 = 1 from rfl, htarget,
    except_ok_bind]
  exact divide_of_pos _ (shiftTarget_range (scaleByFraction_le _ _) _).left

theorem executeBlock_genesis (cfg : Config)
    {initialDifficulty : Fin (2 ^ 256)} {g : State}
    (h : build initialDifficulty = Except.ok g) {now : UInt64}
    (hnow : 1 ≤ now.toNat / 1000) :
    (executeBlock cfg g now).map State.currentDifficulty =
      Except.ok initialDifficulty.val := by
  rcases build_eq_ok h with ⟨_, rfl⟩
  unfold executeBlock onFinalize
  dsimp only
  rw [if_pos ⟨rfl, hnow⟩]
  rfl

/-- Import demands the initial difficulty of the first block, as its execution
keeps it, exactly when the formula gives that difficulty back. -/
theorem first_block_meets_initial_difficulty_iff
    (decode : List UInt8 -> Option RuntimeCall) {cfg : Config}
    (hhalflife : cfg.halflife ≠ 0) {initialDifficulty : Fin (2 ^ 256)}
    {g : State} (hbuild : build initialDifficulty = Except.ok g)
    {inherent : List UInt8} {nowMs : UInt64}
    (hinherent : timestampFromInherent decode inherent = some nowMs)
    (hnow : 1 ≤ nowMs.toNat / 1000) :
    (difficultyForBlock decode cfg g inherent =
          Except.ok (some initialDifficulty.val) ∧
        (executeBlock cfg g nowMs).map State.currentDifficulty =
          Except.ok initialDifficulty.val) <->
      KeepsInitial initialDifficulty.val
        (firstExponent cfg (nowMs.toNat / 1000)) := by
  have hpos := (build_eq_ok hbuild).left
  have hmax : initialDifficulty.val ≤ u256Max :=
    le_u256Max.mpr initialDifficulty.isLt
  rw [← keepsInitial_iff hpos hmax]
  unfold difficultyForBlock
  rw [hinherent]
  dsimp only
  rw [realtimeDifficulty_genesis hhalflife hbuild]
  constructor
  · rintro ⟨hdemand, _⟩
    exact Option.some.inj (Except.ok.inj hdemand)
  · intro hkeeps
    rw [hkeeps]
    exact ⟨rfl, executeBlock_genesis cfg hbuild hnow⟩

/-- Started at difficulty one, a chain keeps it. -/
theorem difficulty_one_is_demanded :
    exists g, build 1 = Except.ok g ∧
      difficultyForBlock decodeBareTimestamp mainnet g
          (bareTimestamp 1700000000000) =
        Except.ok (some 1) := by
  have hkeeps : KeepsInitial 1 (firstExponent mainnet
      ((1700000000000 : UInt64).toNat / 1000)) := by
    unfold KeepsInitial
    rw [if_pos (by decide +kernel)]
    exact Or.inl rfl
  have hinherent : timestampFromInherent decodeBareTimestamp
      (bareTimestamp 1700000000000) = some 1700000000000 :=
    timestampFromInherent_bareTimestamp (by decide)
  have hhalflife : mainnet.halflife ≠ 0 := by decide
  have hbuilds : exists g, build 1 = Except.ok g := ⟨_, rfl⟩
  rcases hbuilds with ⟨g, hbuild⟩
  have hiff := first_block_meets_initial_difficulty_iff _ hhalflife hbuild
    hinherent (by decide)
  exact ⟨g, hbuild, (hiff.mpr hkeeps).left⟩

/-- The production chain starts at difficulty 1000000, and its first block
passes import at difficulty one. -/
theorem first_block_of_mainnet_is_demanded_at_one :
    exists g, build 1000000 = Except.ok g ∧
      difficultyForBlock decodeBareTimestamp mainnet g
          (bareTimestamp 1700000000000) =
        Except.ok (some 1) ∧
      (executeBlock mainnet g 1700000000000).map State.currentDifficulty =
        Except.ok 1000000 := by
  refine ⟨_, rfl, ?_, ?_⟩
  · decide +kernel
  · decide +kernel

end Difficulty
end Numen
