import Numen.Difficulty.Monotone

/-!
# No step of the computation leaves its type

`compute_next_target` once more, with every intermediate value held against the
range of its type: 64 bits for the schedule, signed 128 bits for the exponent
and the polynomial, 256 bits for the target.  On the arguments the pallet passes
the checks never fail.
-/

namespace Numen
namespace Difficulty

open Foundation

inductive Abort where
  | overflow
  | panic (reason : Panic)
deriving DecidableEq, Repr

def inRange (low high a : Int) : Except Abort Int :=
  if low ≤ a ∧ a < high then Except.ok a else Except.error Abort.overflow

def inI128 (a : Int) : Except Abort Int :=
  inRange (-2 ^ 127) (2 ^ 127) a

def inUnsigned (width : Nat) (a : Int) : Except Abort Nat :=
  (inRange 0 (2 ^ width) a).map Int.toNat

def orPanic {α : Type} (x : Except Panic α) : Except Abort α :=
  x.mapError Abort.panic

/-- One factor of a term of the polynomial: multiply, then drop the fractional
bits. -/
def checkedScale (a x : Int) : Except Abort Int := do
  let product <- inI128 (a * x)
  return product.tdiv fracOne

def checkedFactor (x : Int) : Except Abort Int := do
  let term1 <- checkedScale 45426 x
  let square2 <- checkedScale 15736 x
  let term2 <- checkedScale square2 x
  let cube3 <- checkedScale 3638 x
  let square3 <- checkedScale cube3 x
  let term3 <- checkedScale square3 x
  let first <- inI128 (fracOne + term1)
  let second <- inI128 (first + term2)
  inI128 (second + term3)

def checkedShift (result : Nat) (int : Int) : Except Abort Nat :=
  if 0 ≤ int then
    if 256 ≤ int then
      Except.ok u256Max
    else do
      let shift <- inUnsigned 32 int
      let headroom <- inUnsigned 64 (256 - bits result)
      if headroom < shift then
        Except.ok u256Max
      else do
        let shifted <- inUnsigned 256 (result * 2 ^ shift)
        return atLeastOne shifted
  else
    if int ≤ -256 then
      Except.ok 1
    else do
      let negated <- inI128 (-int)
      let shift <- inUnsigned 32 negated
      return atLeastOne (result >>> shift)

def checkedNextTarget (anchorTarget : Nat) (timeDelta : Int)
    (heightDelta targetBlockTime halflife : Nat) : Except Abort Nat := do
  let idealTime <- inUnsigned 64 (targetBlockTime * heightDelta)
  let late <- inI128 (timeDelta - idealTime)
  let exponentNumer <- inI128 (late * fracOne)
  let quotient <- orPanic (divideSigned exponentNumer halflife)
  let exponent <- inI128 quotient
  let shifted <- inI128 (intPart exponent <<< fracBits)
  let x <- inI128 (exponent - shifted)
  let factor <- checkedFactor x
  let factor <- orPanic (toUnsigned factor)
  checkedShift (scaleByFraction anchorTarget factor) (intPart exponent)

theorem inRange_ok {low high a : Int} (hlow : low ≤ a) (hhigh : a < high) :
    inRange low high a = Except.ok a :=
  if_pos ⟨hlow, hhigh⟩

theorem inI128_ok {a : Int} (hlow : -2 ^ 127 ≤ a) (hhigh : a < 2 ^ 127) :
    inI128 a = Except.ok a :=
  inRange_ok hlow hhigh

theorem inUnsigned_ok {width n : Nat} (h : n < 2 ^ width) :
    inUnsigned width n = Except.ok n := by
  have hhigh : (n : Int) < 2 ^ width := by exact_mod_cast h
  unfold inUnsigned
  rw [inRange_ok (Int.natCast_nonneg n) hhigh]
  rfl

theorem checkedScale_ok {a x : Int} (ha : 0 ≤ a) (ha' : a ≤ 65536)
    (hx : 0 ≤ x) (hx' : x < 65536) :
    checkedScale a x = Except.ok ((a * x).tdiv fracOne) ∧
      0 ≤ (a * x).tdiv fracOne ∧ (a * x).tdiv fracOne ≤ 65536 := by
  have hnonneg : 0 ≤ a * x := Int.mul_nonneg ha hx
  have hle : a * x ≤ 65536 * 65536 :=
    Int.mul_le_mul ha' (Int.le_of_lt hx') hx (by decide)
  have hdiv : (a * x).tdiv fracOne = a * x / 65536 :=
    Int.tdiv_eq_ediv_of_nonneg hnonneg
  refine ⟨?_, ?_, ?_⟩
  · unfold checkedScale
    rw [inI128_ok (by lia) (by lia)]
    rfl
  · rw [hdiv]
    lia
  · rw [hdiv]
    lia

theorem checkedFactor_ok {x : Int} (hx : 0 ≤ x) (hx' : x < 65536) :
    checkedFactor x = Except.ok (fracFactor x) := by
  rcases checkedScale_ok (by decide : (0 : Int) ≤ 45426) (by decide) hx hx'
    with ⟨hterm1, hterm1_nonneg, hterm1_le⟩
  rcases checkedScale_ok (by decide : (0 : Int) ≤ 15736) (by decide) hx hx'
    with ⟨hsquare2, hsquare2_nonneg, hsquare2_le⟩
  rcases checkedScale_ok hsquare2_nonneg hsquare2_le hx hx'
    with ⟨hterm2, hterm2_nonneg, hterm2_le⟩
  rcases checkedScale_ok (by decide : (0 : Int) ≤ 3638) (by decide) hx hx'
    with ⟨hcube3, hcube3_nonneg, hcube3_le⟩
  rcases checkedScale_ok hcube3_nonneg hcube3_le hx hx'
    with ⟨hsquare3, hsquare3_nonneg, hsquare3_le⟩
  rcases checkedScale_ok hsquare3_nonneg hsquare3_le hx hx'
    with ⟨hterm3, hterm3_nonneg, hterm3_le⟩
  have hone : fracOne = 65536 := rfl
  unfold checkedFactor fracFactor
  dsimp only
  rw [hterm1, except_ok_bind, hsquare2, except_ok_bind, hterm2, except_ok_bind,
    hcube3, except_ok_bind, hsquare3, except_ok_bind, hterm3, except_ok_bind,
    inI128_ok (by lia) (by lia), except_ok_bind,
    inI128_ok (by lia) (by lia), except_ok_bind,
    inI128_ok (by lia) (by lia)]

theorem checkedShift_ok {result : Nat} (h : result ≤ u256Max) (int : Int) :
    checkedShift result int = Except.ok (shiftTarget result int) := by
  have hbits : bits result ≤ 256 := bits_le (le_u256Max.mp h)
  unfold checkedShift shiftTarget
  dsimp only
  by_cases hint : 0 ≤ int
  · rw [if_pos hint, if_pos hint]
    by_cases hlarge : 256 ≤ int
    · rw [if_pos hlarge, if_pos hlarge]
    · have hcast : int = (int.toNat : Int) := (Int.toNat_of_nonneg hint).symm
      have hshift : inUnsigned 32 int = Except.ok int.toNat := by
        conv => lhs; rw [hcast]
        exact inUnsigned_ok (by lia)
      have hheadroom : inUnsigned 64 (256 - bits result) =
          Except.ok (256 - bits result) := by
        have hsub : (256 - bits result : Int) = (256 - bits result : Nat) := by
          lia
        rw [hsub]
        exact inUnsigned_ok (by lia)
      rw [if_neg hlarge, if_neg hlarge, hshift, except_ok_bind, hheadroom,
        except_ok_bind]
      by_cases hroom : 256 - bits result < int.toNat
      · rw [if_pos hroom, if_pos hroom]
      · have hfits : result * 2 ^ int.toNat < 2 ^ 256 :=
          calc result * 2 ^ int.toNat < 2 ^ bits result * 2 ^ int.toNat :=
                Nat.mul_lt_mul_of_pos_right (lt_two_pow_bits result)
                  (Nat.two_pow_pos _)
            _ = 2 ^ (bits result + int.toNat) := (Nat.pow_add 2 _ _).symm
            _ ≤ 2 ^ 256 := Nat.pow_le_pow_right (by decide) (by lia)
        have hshifted : inUnsigned 256 (result * 2 ^ int.toNat) =
            Except.ok (result * 2 ^ int.toNat) := by
          have hproduct : (result * 2 ^ int.toNat : Int) =
              (result * 2 ^ int.toNat : Nat) := by push_cast; rfl
          rw [hproduct]
          exact inUnsigned_ok hfits
        rw [if_neg hroom, if_neg hroom, hshifted, except_ok_bind,
          Nat.shiftLeft_eq, Nat.mod_eq_of_lt hfits]
        rfl
  · rw [if_neg hint, if_neg hint]
    by_cases hsmall : int ≤ -256
    · rw [if_pos hsmall, if_pos hsmall]
    · have hcast : -int = ((-int).toNat : Int) :=
        (Int.toNat_of_nonneg (by lia)).symm
      have hshift : inUnsigned 32 (-int) = Except.ok (-int).toNat := by
        conv => lhs; rw [hcast]
        exact inUnsigned_ok (by lia)
      rw [if_neg hsmall, if_neg hsmall, inI128_ok (by lia) (by lia),
        except_ok_bind, hshift, except_ok_bind]
      rfl

theorem tdiv_bounds {a bound : Int} (hlow : -bound ≤ a) (hhigh : a ≤ bound)
    (b : Int) : -bound ≤ a.tdiv b ∧ a.tdiv b ≤ bound := by
  have hle : (a.tdiv b).natAbs ≤ a.natAbs := by
    rw [Int.natAbs_tdiv]
    exact Nat.div_le_self _ _
  lia

theorem checkedNextTarget_ok {timeDelta : Int}
    {heightDelta targetBlockTime halflife : Nat}
    (h : Domain timeDelta heightDelta targetBlockTime halflife)
    (anchorTarget : Nat) :
    checkedNextTarget anchorTarget timeDelta heightDelta targetBlockTime
      halflife = Except.ok (targetAt anchorTarget (exponentOf timeDelta
        heightDelta targetBlockTime halflife)) := by
  rcases h.time with ⟨now, anchor, htime⟩
  have hnow := now.toNat_lt
  have hanchor := anchor.toNat_lt
  have hideal := h.ideal
  have hone : fracOne = 65536 := rfl
  have hne : (halflife : Int) ≠ 0 :=
    Int.natCast_ne_zero.mpr (Nat.one_le_iff_ne_zero.mp h.halflife_pos)
  have hschedule : inUnsigned 64 (targetBlockTime * heightDelta) =
      Except.ok (targetBlockTime * heightDelta) :=
    inUnsigned_ok hideal
  have hexponent : exponentOf timeDelta heightDelta targetBlockTime halflife =
      ((timeDelta - (targetBlockTime * heightDelta : Nat)) * fracOne).tdiv
        halflife := rfl
  rw [hexponent]
  generalize hlate : timeDelta - (targetBlockTime * heightDelta : Nat) = late
  have hnumer : -2 ^ 81 ≤ late * fracOne ∧ late * fracOne ≤ 2 ^ 81 := by
    rw [hone]
    lia
  have hquotient := tdiv_bounds hnumer.left hnumer.right halflife
  unfold checkedNextTarget
  rw [hschedule, except_ok_bind, hlate, inI128_ok (by lia) (by lia),
    except_ok_bind, inI128_ok (by lia) (by lia), except_ok_bind,
    divideSigned_of_ne_zero _ hne]
  generalize (late * fracOne).tdiv halflife = exponent at hquotient
  have hfraction := fracPart_nonneg exponent
  have hfraction' := fracPart_lt exponent
  have hshift : intPart exponent <<< fracBits =
      exponent - fracPart exponent := by
    unfold fracPart
    lia
  have hfactor : 0 ≤ fracFactor (fracPart exponent) := by
    rw [← cast_factorOf]
    exact Int.natCast_nonneg _
  show (inI128 exponent >>= _) = _
  rw [inI128_ok (by lia) (by lia), except_ok_bind, hshift,
    inI128_ok (by lia) (by lia), except_ok_bind]
  have hsub : exponent - (exponent - fracPart exponent) =
      fracPart exponent := by lia
  rw [hsub, inI128_ok (by lia) (by lia), except_ok_bind,
    checkedFactor_ok hfraction hfraction', except_ok_bind,
    toUnsigned_of_nonneg hfactor]
  exact checkedShift_ok (scaleByFraction_le _ _) _

/-- On the arguments the pallet passes, every intermediate value of the
computation fits its type and the target is in range.  The target does not fall
with time, does not rise with height and does not fall with the anchor target;
in every state a chain reaches, the difficulty of the next block does not rise
while time passes. -/
theorem asert_is_monotone :
    (forall anchorTarget timeDelta heightDelta targetBlockTime halflife,
      anchorTarget ≤ u256Max ->
      Domain timeDelta heightDelta targetBlockTime halflife ->
      exists target,
        computeNextTarget anchorTarget timeDelta heightDelta targetBlockTime
            halflife = Except.ok target ∧
          checkedNextTarget anchorTarget timeDelta heightDelta targetBlockTime
            halflife = Except.ok target ∧
          1 ≤ target ∧ target ≤ u256Max) ∧
    (forall anchorTarget timeDelta timeDelta' heightDelta targetBlockTime
        halflife target target',
      Domain timeDelta heightDelta targetBlockTime halflife ->
      Domain timeDelta' heightDelta targetBlockTime halflife ->
      timeDelta ≤ timeDelta' ->
      computeNextTarget anchorTarget timeDelta heightDelta targetBlockTime
        halflife = Except.ok target ->
      computeNextTarget anchorTarget timeDelta' heightDelta targetBlockTime
        halflife = Except.ok target' ->
      target ≤ target') ∧
    (forall anchorTarget timeDelta heightDelta heightDelta' targetBlockTime
        halflife target target',
      Domain timeDelta heightDelta targetBlockTime halflife ->
      Domain timeDelta heightDelta' targetBlockTime halflife ->
      heightDelta ≤ heightDelta' ->
      computeNextTarget anchorTarget timeDelta heightDelta targetBlockTime
        halflife = Except.ok target ->
      computeNextTarget anchorTarget timeDelta heightDelta' targetBlockTime
        halflife = Except.ok target' ->
      target' ≤ target) ∧
    (forall anchorTarget anchorTarget' timeDelta heightDelta targetBlockTime
        halflife target target',
      Domain timeDelta heightDelta targetBlockTime halflife ->
      anchorTarget ≤ anchorTarget' ->
      computeNextTarget anchorTarget timeDelta heightDelta targetBlockTime
        halflife = Except.ok target ->
      computeNextTarget anchorTarget' timeDelta heightDelta targetBlockTime
        halflife = Except.ok target' ->
      target ≤ target') ∧
    (forall cfg initialDifficulty timestamps s,
      cfg.halflife ≠ 0 ->
      ReachedBy cfg initialDifficulty timestamps s ->
      forall secs secs' : UInt64, secs ≤ secs' ->
        exists difficulty difficulty',
          realtimeDifficulty cfg s secs.toNat = Except.ok difficulty ∧
            realtimeDifficulty cfg s secs'.toNat = Except.ok difficulty' ∧
            difficulty' ≤ difficulty) := by
  refine ⟨?_, ?_, ?_, ?_, ?_⟩
  · intro anchorTarget timeDelta heightDelta targetBlockTime halflife _ hdomain
    exact ⟨_, computeNextTarget_eq hdomain anchorTarget,
      checkedNextTarget_ok hdomain anchorTarget,
      shiftTarget_range (scaleByFraction_le _ _) _⟩
  · intro anchorTarget timeDelta timeDelta' heightDelta targetBlockTime halflife
      target target' hdomain hdomain' hle htarget htarget'
    rw [computeNextTarget_eq hdomain] at htarget
    rw [computeNextTarget_eq hdomain'] at htarget'
    cases htarget
    cases htarget'
    exact targetAt_mono anchorTarget (exponentOf_mono targetBlockTime
      hdomain.halflife_pos hle (Nat.le_refl heightDelta))
  · intro anchorTarget timeDelta heightDelta heightDelta' targetBlockTime
      halflife target target' hdomain hdomain' hle htarget htarget'
    rw [computeNextTarget_eq hdomain] at htarget
    rw [computeNextTarget_eq hdomain'] at htarget'
    cases htarget
    cases htarget'
    exact targetAt_mono anchorTarget (exponentOf_mono targetBlockTime
      hdomain.halflife_pos (Int.le_refl timeDelta) hle)
  · intro anchorTarget anchorTarget' timeDelta heightDelta targetBlockTime
      halflife target target' hdomain hle htarget htarget'
    rw [computeNextTarget_eq hdomain] at htarget htarget'
    cases htarget
    cases htarget'
    exact targetAt_mono_anchor hle _
  · intro cfg initialDifficulty timestamps s hhalflife _ secs secs' hle
    exact realtimeDifficulty_antitone hhalflife s (UInt64.le_iff_toNat_le.mp hle)

/-- Ten blocks in twice the time they should take. -/
theorem slow_blocks_keep_the_target_up :
    computeNextTarget 1000000 200 10 20 1800 = Except.ok 1000000 ∧
      exists target,
        computeNextTarget 1000000 400 10 20 1800 = Except.ok target ∧
          1000000 ≤ target := by
  have hdomain : Domain 200 10 20 1800 :=
    ⟨⟨200, 0, rfl⟩, by decide, by decide, by decide⟩
  have hdomain' : Domain 400 10 20 1800 :=
    ⟨⟨400, 0, rfl⟩, by decide, by decide, by decide⟩
  have honSchedule : computeNextTarget 1000000 200 10 20 1800 =
      Except.ok 1000000 := by
    decide +kernel
  rcases asert_is_monotone.left 1000000 400 10 20 1800 (by decide) hdomain'
    with ⟨target, htarget, _⟩
  exact ⟨honSchedule, target, htarget,
    asert_is_monotone.right.left 1000000 200 400 10 20 1800 _ _ hdomain
      hdomain' (by decide) honSchedule htarget⟩

end Difficulty
end Numen
