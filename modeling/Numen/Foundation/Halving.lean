import Mathlib.Algebra.Order.BigOperators.Group.Finset
import Numen.Foundation.Arithmetic

/-!
# Halving schedules

A quantity that starts at `initial` and is halved, rounding down, once every
`interval` steps.  It runs out after as many halvings as `initial` has binary
digits, and all of it together stays below `2 * initial * interval`.
-/

namespace Numen
namespace Foundation

def halved (initial interval n : Nat) : Nat :=
  initial / 2 ^ (n / interval)

theorem halved_le (initial interval n : Nat) :
    halved initial interval n ≤ initial :=
  Nat.div_le_self _ _

theorem halved_add_interval (initial : Nat) {interval : Nat}
    (hinterval : 0 < interval) (n : Nat) :
    halved initial interval (interval + n) = halved (initial / 2) interval n := by
  unfold halved
  rw [Nat.add_div_left n hinterval, Nat.pow_succ', Nat.div_div_eq_div_mul]

theorem halved_of_lt {initial interval n : Nat} (h : n < interval) :
    halved initial interval n = initial := by
  unfold halved
  rw [Nat.div_eq_of_lt h, Nat.pow_zero, Nat.div_one]

theorem lt_two_pow_bits (n : Nat) : n < 2 ^ bits n := by
  unfold bits
  split
  · rename_i hzero
    rw [hzero]
    exact Nat.one_pos
  · exact Nat.lt_log2_self

theorem halved_eq_zero {initial interval n : Nat} (hinterval : 0 < interval)
    (h : interval * bits initial ≤ n) : halved initial interval n = 0 := by
  have hhalvings : bits initial ≤ n / interval :=
    (Nat.le_div_iff_mul_le hinterval).mpr (by rwa [Nat.mul_comm])
  apply Nat.div_eq_of_lt
  exact Nat.lt_of_lt_of_le (lt_two_pow_bits initial)
    (Nat.pow_le_pow_right (by decide) hhalvings)

theorem sum_halved_first_interval (initial interval : Nat) :
    (Finset.range interval).sum (halved initial interval) =
      interval * initial := by
  rw [Finset.sum_const_nat (fun n hn => halved_of_lt (Finset.mem_range.mp hn)),
    Finset.card_range]

theorem sum_halved_lt {initial interval : Nat} (hinterval : 0 < interval)
    (hinitial : 0 < initial) (steps : Nat) :
    (Finset.range steps).sum (halved initial interval) <
      2 * initial * interval := by
  -- strong induction on the quantity: the first interval pays it in full, and
  -- the rest is the schedule of its half
  induction initial using Nat.strong_induction_on generalizing steps with
  | _ initial ih =>
      have hfirst := sum_halved_first_interval initial interval
      have hproduct : 0 < interval * initial := Nat.mul_pos hinterval hinitial
      have htwice : 2 * initial * interval =
          interval * initial + interval * initial := by
        rw [Nat.mul_assoc, Nat.mul_comm initial interval, Nat.two_mul]
      rcases Nat.lt_or_ge steps interval with hshort | hlong
      · have hmono : (Finset.range steps).sum (halved initial interval) ≤
            (Finset.range interval).sum (halved initial interval) :=
          Finset.sum_le_sum_of_subset
            (Finset.range_subset_range.mpr (Nat.le_of_lt hshort))
        lia
      · obtain ⟨rest, rfl⟩ := Nat.exists_eq_add_of_le hlong
        rw [Finset.sum_range_add, hfirst]
        have htail : (Finset.range rest).sum
              (fun n => halved initial interval (interval + n)) =
            (Finset.range rest).sum (halved (initial / 2) interval) :=
          Finset.sum_congr rfl
            (fun n _ => halved_add_interval initial hinterval n)
        rw [htail]
        rcases Nat.eq_zero_or_pos (initial / 2) with hzero | hpos
        · have hnothing : (Finset.range rest).sum
              (halved (initial / 2) interval) = 0 := by
            apply Finset.sum_eq_zero
            intro n _
            have := halved_le (initial / 2) interval n
            lia
          lia
        · have hhalf := ih (initial / 2) (Nat.div_lt_self hinitial (by decide))
            hpos rest
          have hle : 2 * (initial / 2) * interval ≤ initial * interval :=
            Nat.mul_le_mul_right interval (Nat.mul_div_le initial 2)
          rw [Nat.mul_comm initial interval] at hle
          lia

end Foundation
end Numen
