import Mathlib.Data.List.Basic

/-!
# Loops as folds

Rules for a loop that runs over a list and rewrites an accumulator.
-/

namespace Numen
namespace Foundation

variable {Acc Item : Type}

theorem foldl_preserves {round : Acc -> Item -> Acc} (Inv : Acc -> Prop)
    (items : List Item)
    (hround : forall acc item, item ∈ items -> Inv acc -> Inv (round acc item))
    {acc : Acc} (h : Inv acc) : Inv (items.foldl round acc) := by
  induction items generalizing acc with
  | nil =>
      exact h
  | cons item rest ih =>
      apply ih
      · intro acc' item' hmem
        exact hround acc' item' (List.mem_cons_of_mem _ hmem)
      · exact hround acc item List.mem_cons_self h

theorem foldl_related {round : Acc -> Item -> Acc} (Rel : Acc -> Acc -> Prop)
    (hrefl : forall acc, Rel acc acc)
    (htrans : forall acc acc' acc'', Rel acc acc' -> Rel acc' acc'' ->
      Rel acc acc'')
    (items : List Item)
    (hround : forall acc item, item ∈ items -> Rel acc (round acc item))
    (acc : Acc) : Rel acc (items.foldl round acc) :=
  foldl_preserves (Rel acc) items
    (fun acc' item hmem hacc => htrans _ _ _ hacc (hround acc' item hmem))
    (hrefl acc)

theorem foldl_collects {round : Acc -> Item -> Acc} (Has : Acc -> Prop)
    (Adds : Item -> Prop)
    (hround : forall acc item, Has (round acc item) <-> Has acc ∨ Adds item)
    (items : List Item) (acc : Acc) :
    Has (items.foldl round acc) <->
      Has acc ∨ exists item, item ∈ items ∧ Adds item := by
  induction items generalizing acc with
  | nil =>
      simp
  | cons item rest ih =>
      rw [List.foldl_cons, ih, hround]
      simp [or_assoc]

/-- A loop whose rounds act on a view when they reach `who`.  Acting again
changes nothing. -/
theorem foldl_reaches {Key View : Type} [DecidableEq Key]
    {round : Acc -> Item -> Acc} (key : Item -> Key) (who : Key)
    (view : Acc -> View) (act : View -> View)
    (hidem : forall v, act (act v) = act v)
    (hround : forall acc item, view (round acc item) =
      if who = key item then act (view acc) else view acc)
    (items : List Item) (acc : Acc) :
    view (items.foldl round acc) =
      if who ∈ items.map key then act (view acc) else view acc := by
  induction items generalizing acc with
  | nil =>
      rfl
  | cons item rest ih =>
      rw [List.foldl_cons, ih, hround]
      by_cases hself : who = key item
      · simp [hself, hidem]
      · simp [hself]

/-!
## Rounds that look at their own item only

`view acc item` is the part of the accumulator that belongs to `item`.
-/

section Pointwise

variable [DecidableEq Item] {View Entry : Type} {round : Acc -> Item -> Acc}
  (view : Acc -> Item -> View)

/-- A loop over distinct items acts once on the view of each of them and on no
other view. -/
theorem foldl_pointwise (act : View -> View)
    (hround : forall acc item other, view (round acc item) other =
      if other = item then act (view acc item) else view acc other)
    {items : List Item} (hnodup : items.Nodup) (acc : Acc) (item : Item) :
    view (items.foldl round acc) item =
      if item ∈ items then act (view acc item) else view acc item := by
  induction items generalizing acc with
  | nil =>
      simp
  | cons first rest ih =>
      rw [List.nodup_cons] at hnodup
      rw [List.foldl_cons, ih hnodup.right, hround]
      by_cases hself : item = first
      · subst hself
        simp [hnodup.left]
      · simp [hself]

/-- Such a loop appends to a log what each item's own view, as it was before the
loop, calls for. -/
theorem foldl_appends (act : View -> View)
    (hround : forall acc item other, view (round acc item) other =
      if other = item then act (view acc item) else view acc other)
    (log : Acc -> List Entry) (emit : Item -> View -> List Entry)
    (hlog : forall acc item,
      log (round acc item) = log acc ++ emit item (view acc item))
    {items : List Item} (hnodup : items.Nodup) (acc : Acc) :
    log (items.foldl round acc) =
      log acc ++ items.flatMap (fun item => emit item (view acc item)) := by
  induction items generalizing acc with
  | nil =>
      simp
  | cons first rest ih =>
      rw [List.nodup_cons] at hnodup
      have hsame : rest.flatMap
            (fun item => emit item (view (round acc first) item)) =
          rest.flatMap (fun item => emit item (view acc item)) := by
        apply List.flatMap_congr
        intro item hmem
        have hne : item ≠ first := by
          rintro rfl
          exact hnodup.left hmem
        rw [hround, if_neg hne]
      rw [List.foldl_cons, ih hnodup.right, hlog, hsame, List.append_assoc,
        List.flatMap_cons]

end Pointwise

end Foundation
end Numen
