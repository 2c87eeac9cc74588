import Mathlib.Data.List.Basic

/-!
# Text with separators

Items that do not hold the separator can be told apart again.
-/

namespace Numen
namespace Foundation

variable {Symbol Item : Type} {sep : Symbol}

theorem append_sep_inj {front front' rest rest' : List Symbol}
    (hfront : sep ∉ front) (hfront' : sep ∉ front')
    (h : front ++ sep :: rest = front' ++ sep :: rest') :
    front = front' ∧ rest = rest' := by
  induction front generalizing front' with
  | nil =>
      cases front' with
      | nil => exact ⟨rfl, (List.cons.inj h).right⟩
      | cons first later =>
          rw [← (List.cons.inj h).left] at hfront'
          exact absurd List.mem_cons_self hfront'
  | cons first later ih =>
      cases front' with
      | nil =>
          rw [(List.cons.inj h).left] at hfront
          exact absurd List.mem_cons_self hfront
      | cons first' later' =>
          rcases List.cons.inj h with ⟨rfl, hlater⟩
          rcases ih (fun hmem => hfront (List.mem_cons_of_mem _ hmem))
            (fun hmem => hfront' (List.mem_cons_of_mem _ hmem)) hlater with
            ⟨rfl, hrest⟩
          exact ⟨rfl, hrest⟩

/-- Items one after another, each closed by the separator. -/
def terminated (sep : Symbol) (items : List (List Symbol)) : List Symbol :=
  items.flatMap fun item => item ++ [sep]

theorem terminated_cons (sep : Symbol) (item : List Symbol)
    (items : List (List Symbol)) :
    terminated sep (item :: items) = item ++ sep :: terminated sep items := by
  unfold terminated
  rw [List.flatMap_cons, List.append_assoc]
  rfl

theorem terminated_inj {items items' : List (List Symbol)}
    (hitems : ∀ item ∈ items, sep ∉ item)
    (hitems' : ∀ item ∈ items', sep ∉ item)
    (h : terminated sep items = terminated sep items') : items = items' := by
  induction items generalizing items' with
  | nil =>
      cases items' with
      | nil => rfl
      | cons item' later' =>
          rw [terminated_cons] at h
          exact absurd h.symm (by simp [terminated])
  | cons item later ih =>
      cases items' with
      | nil =>
          rw [terminated_cons] at h
          exact absurd h (by simp [terminated])
      | cons item' later' =>
          rw [terminated_cons, terminated_cons] at h
          rcases append_sep_inj (hitems item List.mem_cons_self)
            (hitems' item' List.mem_cons_self) h with ⟨rfl, hlater⟩
          rw [ih (fun other hmem => hitems other (List.mem_cons_of_mem _ hmem))
            (fun other hmem => hitems' other (List.mem_cons_of_mem _ hmem))
            hlater]

theorem map_inj_on {Key : Type} {f : Item -> Key} {items items' : List Item}
    (hinj : ∀ item ∈ items, ∀ item' ∈ items', f item = f item' -> item = item')
    (h : items.map f = items'.map f) : items = items' := by
  induction items generalizing items' with
  | nil =>
      cases items' with
      | nil => rfl
      | cons item' later' => cases h
  | cons item later ih =>
      cases items' with
      | nil => cases h
      | cons item' later' =>
          rcases List.cons.inj h with ⟨hfirst, hlater⟩
          rw [hinj item List.mem_cons_self item' List.mem_cons_self hfirst]
          rw [ih (fun a ha b hb => hinj a (List.mem_cons_of_mem _ ha) b
            (List.mem_cons_of_mem _ hb)) hlater]

end Foundation
end Numen
