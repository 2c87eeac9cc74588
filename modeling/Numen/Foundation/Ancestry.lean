import Mathlib.Logic.Relation

/-!
# Ancestry in a forest

Nodes that know their parent.  Everything a block tree needs: two ancestors of
one node are comparable, a height function tells them apart, and adding a node
nobody descends from changes nothing for the others.
-/

namespace Numen
namespace Foundation

variable {Node : Type}

/-- Following parents from `b` leads to `a`, in zero or more steps. -/
def Ancestor (parent : Node -> Option Node) (a b : Node) : Prop :=
  Relation.ReflTransGen (fun child above => parent child = some above) b a

def Comparable (parent : Node -> Option Node) (a b : Node) : Prop :=
  Ancestor parent a b ∨ Ancestor parent b a

namespace Ancestor

variable {parent : Node -> Option Node} {a b c : Node}

theorem refl (a : Node) : Ancestor parent a a :=
  Relation.ReflTransGen.refl

theorem trans (hab : Ancestor parent a b) (hbc : Ancestor parent b c) :
    Ancestor parent a c :=
  Relation.ReflTransGen.trans hbc hab

theorem of_parent (hparent : parent b = some c) (h : Ancestor parent a c) :
    Ancestor parent a b :=
  Relation.ReflTransGen.head hparent h

theorem eq_or_of_parent (h : Ancestor parent a b) :
    a = b ∨ exists c, parent b = some c ∧ Ancestor parent a c := by
  rcases Relation.ReflTransGen.cases_head h with heq | ⟨c, hparent, hrest⟩
  · exact Or.inl heq.symm
  · exact Or.inr ⟨c, hparent, hrest⟩

theorem comparable (ha : Ancestor parent a c) (hb : Ancestor parent b c) :
    Comparable parent a b := by
  have hunique : Relator.RightUnique
      (fun child above => parent child = some above) := by
    intro child above above' habove habove'
    rw [habove] at habove'
    exact Option.some.inj habove'
  exact (Relation.ReflTransGen.total_of_right_unique hunique ha hb).symm

theorem mem_of_closed {stored : Node -> Prop}
    (hclosed : forall child above, stored child ->
      parent child = some above -> stored above)
    (h : Ancestor parent a b) (hb : stored b) : stored a := by
  unfold Ancestor at h
  induction h with
  | refl => exact hb
  | tail _ hparent ih => exact hclosed _ _ ih hparent

theorem congr {parent' : Node -> Option Node} {stored : Node -> Prop}
    (hclosed : forall child above, stored child ->
      parent child = some above -> stored above)
    (hagree : forall node, stored node -> parent' node = parent node)
    (hb : stored b) : Ancestor parent' a b <-> Ancestor parent a b := by
  constructor
  · intro h
    have hboth : Ancestor parent a b ∧ stored a := by
      unfold Ancestor at h
      induction h with
      | refl => exact ⟨refl b, hb⟩
      | tail _ hparent ih =>
          rw [hagree _ ih.right] at hparent
          exact ⟨Relation.ReflTransGen.tail ih.left hparent,
            hclosed _ _ ih.right hparent⟩
    exact hboth.left
  · intro h
    have hboth : Ancestor parent' a b ∧ stored a := by
      unfold Ancestor at h
      induction h with
      | refl => exact ⟨refl b, hb⟩
      | tail _ hparent ih =>
          refine ⟨Relation.ReflTransGen.tail ih.left ?_,
            hclosed _ _ ih.right hparent⟩
          rw [hagree _ ih.right]
          exact hparent
    exact hboth.left

section Height

variable {height : Node -> Nat}
  (hheight : forall child above, parent child = some above ->
    height above < height child)

include hheight

theorem height_le (h : Ancestor parent a b) : height a ≤ height b := by
  unfold Ancestor at h
  induction h with
  | refl => exact Nat.le_refl _
  | tail _ hparent ih =>
      exact Nat.le_trans (Nat.le_of_lt (hheight _ _ hparent)) ih

theorem eq_of_height_le (h : Ancestor parent a b) (hle : height b ≤ height a) :
    a = b := by
  rcases h.eq_or_of_parent with heq | ⟨c, hparent, hrest⟩
  · exact heq
  · have hlt := hheight _ _ hparent
    have hle' := height_le hheight hrest
    lia

theorem eq_of_height_eq (ha : Ancestor parent a c) (hb : Ancestor parent b c)
    (heq : height a = height b) : a = b := by
  rcases comparable ha hb with hab | hba
  · exact eq_of_height_le hheight hab (Nat.le_of_eq heq.symm)
  · exact (eq_of_height_le hheight hba (Nat.le_of_eq heq)).symm

end Height

end Ancestor

end Foundation
end Numen
