import Numen.Foundation.Ancestry
import Numen.Pow.Import

/-!
# Candidates and the finalized chain

The headers a client stores form a tree rooted at block zero.  On such a tree
the walks of `finality_conflicts` cannot fail, and each finds the ancestor at
the height it stops at.
-/

namespace Numen
namespace Pow

open Foundation

variable {Hash : Type} [DecidableEq Hash]

def Stored (s : Client Hash) (b : Hash) : Prop :=
  exists header, s.headers.get b = some header

def numberOf (s : Client Hash) (b : Hash) : Nat :=
  match s.headers.get b with
  | some header => header.number
  | none => 0

/-- The parent of a stored block other than block zero. -/
def parentOf (s : Client Hash) (b : Hash) : Option Hash :=
  (s.headers.get b).bind fun header =>
    if header.number = 0 then none else some header.parentHash

/-- Every stored header but block zero has its parent stored, one number
lower. -/
def WellFormed (s : Client Hash) : Prop :=
  forall b header, s.headers.get b = some header -> header.number ≠ 0 ->
    exists above, s.headers.get header.parentHash = some above ∧
      header.number = above.number + 1

theorem numberOf_eq {s : Client Hash} {b : Hash} {header : Header Hash}
    (h : s.headers.get b = some header) : numberOf s b = header.number := by
  unfold numberOf
  rw [h]

theorem parentOf_eq_some {s : Client Hash} {b above : Hash} :
    parentOf s b = some above <->
      exists header, s.headers.get b = some header ∧ header.number ≠ 0 ∧
        header.parentHash = above := by
  unfold parentOf
  rw [Option.bind_eq_some_iff]
  constructor
  · rintro ⟨header, hget, hparent⟩
    split at hparent
    · cases hparent
    · rename_i hne
      exact ⟨header, hget, hne, Option.some.inj hparent⟩
  · rintro ⟨header, hget, hne, rfl⟩
    exact ⟨header, hget, if_neg hne⟩

namespace WellFormed

variable {s : Client Hash}

theorem stored_parent (hs : WellFormed s) (child above : Hash)
    (_ : Stored s child) (hparent : parentOf s child = some above) :
    Stored s above := by
  rcases parentOf_eq_some.mp hparent with ⟨header, hget, hne, rfl⟩
  rcases hs child header hget hne with ⟨parent, hparent, _⟩
  exact ⟨parent, hparent⟩

theorem number_lt (hs : WellFormed s) (child above : Hash)
    (hparent : parentOf s child = some above) :
    numberOf s above < numberOf s child := by
  rcases parentOf_eq_some.mp hparent with ⟨header, hget, hne, rfl⟩
  rcases hs child header hget hne with ⟨parent, hparent, hnumber⟩
  rw [numberOf_eq hget, numberOf_eq hparent]
  lia

/-- Walking back from a stored block finds its ancestor at the target number,
or the block itself when that is not above the target. -/
theorem walkBack_ok (hs : WellFormed s) (target : Nat) (number : Nat)
    (cur : Hash) (hcur : Stored s cur) (hnumber : numberOf s cur = number) :
    exists found, walkBack s target number cur = Except.ok found ∧
      Ancestor (parentOf s) found cur ∧ Stored s found ∧
      numberOf s found = min target number := by
  induction number generalizing cur with
  | zero =>
      refine ⟨cur, rfl, Ancestor.refl cur, hcur, ?_⟩
      rw [hnumber]
      lia
  | succ number ih =>
      rcases hcur with ⟨header, hget⟩
      unfold walkBack
      by_cases htarget : target < number + 1
      · rw [if_pos htarget]
        have hheader : header.number = number + 1 := by
          rw [← numberOf_eq hget]
          exact hnumber
        have hne : header.number ≠ 0 := by lia
        rcases hs cur header hget hne with ⟨above, habove, hstep⟩
        have hparent : parentOf s cur = some header.parentHash :=
          parentOf_eq_some.mpr ⟨header, hget, hne, rfl⟩
        have hnumber' : numberOf s header.parentHash = number := by
          rw [numberOf_eq habove]
          lia
        rcases ih header.parentHash ⟨above, habove⟩ hnumber' with
          ⟨found, hwalk, hancestor, hstored, hfound⟩
        refine ⟨found, ?_, hancestor.of_parent hparent, hstored, by lia⟩
        unfold headerOf
        rw [hget]
        exact hwalk
      · rw [if_neg htarget]
        refine ⟨cur, rfl, Ancestor.refl cur, ⟨header, hget⟩, ?_⟩
        rw [hnumber]
        lia

end WellFormed

end Pow
end Numen
