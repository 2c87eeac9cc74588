import Mathlib.Order.Basic

/-!
# Bisection

The search for a place where a test turns from true to false.  Both ends stay
on their side of it, and every round moves one of them.
-/

namespace Numen
namespace Foundation

/-- Narrow `low` and `high` down to neighbours and give the upper one.  `none`
means that the rounds ran out. -/
def bisect (test : Nat -> Bool) : Nat -> Nat -> Nat -> Option Nat
  | 0, low, high => if 1 < high - low then none else some high
  | rounds + 1, low, high =>
      if 1 < high - low then
        let middle := low + (high - low) / 2
        if test middle then bisect test rounds middle high
        else bisect test rounds low middle
      else some high

/-- `n` is where the test turns, as far as it was asked between `low` and
`high`. -/
structure Turns (test : Nat -> Bool) (low high n : Nat) : Prop where
  above : low < n
  upTo : n ≤ high
  before : n = low + 1 ∨ test (n - 1) = true
  here : n = high ∨ test n = false

variable {test : Nat -> Bool}

theorem Turns.raise {low middle high n : Nat} (hmiddle : low < middle)
    (htest : test middle = true) (h : Turns test middle high n) :
    Turns test low high n where
  above := Nat.lt_trans hmiddle h.above
  upTo := h.upTo
  before := by
    rcases h.before with hnext | hbefore
    · rw [hnext, Nat.add_sub_cancel]
      exact Or.inr htest
    · exact Or.inr hbefore
  here := h.here

theorem Turns.lower {low middle high n : Nat} (hmiddle : middle < high)
    (htest : test middle = false) (h : Turns test low middle n) :
    Turns test low high n where
  above := h.above
  upTo := Nat.le_trans h.upTo (Nat.le_of_lt hmiddle)
  before := h.before
  here := by
    rcases h.here with hlast | hhere
    · rw [hlast]
      exact Or.inr htest
    · exact Or.inr hhere

theorem bisect_turns (test : Nat -> Bool) {rounds low high : Nat}
    (hlow : low < high) (hrounds : high - low ≤ rounds + 1) :
    exists n, bisect test rounds low high = some n ∧
      Turns test low high n := by
  induction rounds generalizing low high with
  | zero =>
      refine ⟨high, if_neg (Nat.not_lt.mpr hrounds), hlow, Nat.le_refl high,
        ?_, Or.inl rfl⟩
      exact Or.inl (by lia)
  | succ rounds ih =>
      unfold bisect
      by_cases hwide : 1 < high - low
      · rw [if_pos hwide]
        dsimp only
        cases htest : test (low + (high - low) / 2) with
        | true =>
            rcases ih (by lia : low + (high - low) / 2 < high) (by lia) with
              ⟨n, hfound, hturns⟩
            rw [if_pos rfl]
            exact ⟨n, hfound, hturns.raise (by lia) htest⟩
        | false =>
            rcases ih (by lia : low < low + (high - low) / 2) (by lia) with
              ⟨n, hfound, hturns⟩
            rw [if_neg Bool.false_ne_true]
            exact ⟨n, hfound, hturns.lower (by lia) htest⟩
      · rw [if_neg hwide]
        exact ⟨high, rfl, hlow, Nat.le_refl high, Or.inl (by lia), Or.inl rfl⟩

end Foundation
end Numen
