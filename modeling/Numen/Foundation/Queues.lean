import Mathlib.Data.List.Perm.Subperm

/-!
# Bounded queues

A queue that takes new elements at its end, drops its oldest ones when it grows
past a bound, and gives up any element that is taken out of it.
-/

namespace Numen
namespace Foundation

variable {α : Type}

/-- Drop elements from the front while there are more than `bound`. -/
def trim (bound : Nat) : List α -> List α
  | [] => []
  | x :: rest =>
      if bound < (x :: rest).length then trim bound rest else x :: rest

theorem length_trim_le (bound : Nat) (xs : List α) :
    (trim bound xs).length ≤ bound := by
  induction xs with
  | nil =>
      exact Nat.zero_le _
  | cons x rest ih =>
      unfold trim
      split
      · exact ih
      · rename_i hfits
        exact Nat.not_lt.mp hfits

theorem trim_of_length_le {bound : Nat} {xs : List α}
    (h : xs.length ≤ bound) : trim bound xs = xs := by
  cases xs with
  | nil => rfl
  | cons x rest => exact if_neg (Nat.not_lt.mpr h)

theorem trim_cons_of_length_eq {bound : Nat} {x : α} {rest : List α}
    (h : rest.length = bound) : trim bound (x :: rest) = rest := by
  have hlong : bound < (x :: rest).length := by
    rw [List.length_cons]
    lia
  rw [trim, if_pos hlong, trim_of_length_le (Nat.le_of_eq h)]

theorem trim_sublist (bound : Nat) (xs : List α) :
    List.Sublist (trim bound xs) xs := by
  induction xs with
  | nil =>
      exact List.Sublist.refl _
  | cons x rest ih =>
      unfold trim
      split
      · exact List.Sublist.cons x ih
      · exact List.Sublist.refl _

/-!
## What is in the queue
-/

/-- `queue` holds the most recent of the elements `pushed`, in their order, less
those that were `taken`.  The recent elements are marked with whether they are
still there; older ones are gone only because `bound` later ones came. -/
def Window (bound : Nat) (pushed taken queue : List α) : Prop :=
  exists (old : List α) (recent : List (α × Bool)),
    pushed = old ++ recent.map Prod.fst ∧
    queue = (recent.filter Prod.snd).map Prod.fst ∧
    List.Subperm ((recent.filter (fun entry => !entry.2)).map Prod.fst) taken ∧
    (old ≠ [] -> bound ≤ recent.length)

theorem Window.empty (bound : Nat) : Window bound ([] : List α) [] [] :=
  ⟨[], [], rfl, rfl, List.Subperm.refl _, fun h => absurd rfl h⟩

/-- A push onto a full queue drops the oldest element together with the taken
ones before it. -/
theorem Window.push {bound : Nat} {pushed taken queue : List α}
    (h : Window bound pushed taken queue) (hbound : 0 < bound)
    (hlength : queue.length ≤ bound) (x : α) :
    Window bound (pushed ++ [x]) taken (trim bound (queue ++ [x])) := by
  rcases h with ⟨old, recent, hpushed, hqueue, htaken, hold⟩
  rcases Nat.lt_or_eq_of_le hlength with hroom | hfull
  · refine ⟨old, recent ++ [(x, true)], ?_, ?_, ?_, ?_⟩
    · simp [hpushed]
    · have hfits : (queue ++ [x]).length ≤ bound := by
        rw [List.length_append, List.length_singleton]
        exact hroom
      rw [trim_of_length_le hfits, hqueue]
      simp
    · simpa using htaken
    · intro hne
      have := hold hne
      simp
      lia
  · cases queue with
    | nil =>
        rw [List.length_nil] at hfull
        lia
    | cons oldest rest =>
        rcases List.map_eq_cons_iff.mp hqueue.symm with
          ⟨entry, live, hfilter, hentry, hrest⟩
        rcases List.filter_eq_cons_iff.mp hfilter with
          ⟨gone, later, hsplit, hgone, _, hlive⟩
        have hlater : live.length ≤ later.length := by
          rw [← hlive]
          exact List.length_filter_le _ _
        have hcount : live.length + 1 = bound := by
          rw [← hrest, List.length_cons, List.length_map] at hfull
          exact hfull
        refine ⟨old ++ gone.map Prod.fst ++ [oldest],
          later ++ [(x, true)], ?_, ?_, ?_, ?_⟩
        · simp [hpushed, hsplit, hentry]
        · rw [List.cons_append, trim_cons_of_length_eq]
          · simp [hlive, hrest]
          · simpa using hfull
        · have hsublist : List.Sublist later recent := by
            rw [hsplit]
            exact List.Sublist.trans (List.sublist_cons_self entry later)
              (List.sublist_append_right gone _)
          have hsame : (later ++ [(x, true)]).filter (fun entry => !entry.2) =
              later.filter (fun entry => !entry.2) := by
            simp
          rw [hsame]
          exact ((hsublist.filter _).map _).subperm.trans htaken
        · intro _
          simp
          lia

theorem Window.take {bound : Nat} {pushed taken before after : List α} {x : α}
    (h : Window bound pushed taken (before ++ x :: after)) :
    Window bound pushed (taken ++ [x]) (before ++ after) := by
  rcases h with ⟨old, recent, hpushed, hqueue, htaken, hold⟩
  rcases List.map_eq_append_iff.mp hqueue.symm with
    ⟨liveBefore, liveRest, hfilter, hbefore, hrest⟩
  rcases List.map_eq_cons_iff.mp hrest with
    ⟨entry, liveAfter, rfl, hentry, hafter⟩
  rcases List.filter_eq_append_iff.mp hfilter with
    ⟨early, later, hsplit, hearly, hlater⟩
  rcases List.filter_eq_cons_iff.mp hlater with
    ⟨gone, tail, hlaterSplit, hgone, hlive, htail⟩
  have hnone : gone.filter Prod.snd = [] :=
    List.filter_eq_nil_iff.mpr hgone
  have hrecent : recent = early ++ gone ++ (x, true) :: tail := by
    rw [hsplit, hlaterSplit, List.append_assoc]
    cases entry with
    | mk fst snd =>
        cases hentry
        cases hlive
        rfl
  refine ⟨old, early ++ gone ++ (x, false) :: tail, ?_, ?_, ?_, ?_⟩
  · rw [hpushed, hrecent]
    simp
  · simp [hearly, hnone, htail, hbefore, hafter]
  · rw [hrecent] at htaken
    have hlost : forall mark, ((early ++ gone ++ (x, mark) :: tail).filter
          (fun entry => !entry.2)).map Prod.fst =
        ((early ++ gone).filter (fun entry => !entry.2)).map Prod.fst ++
          if mark then (tail.filter (fun entry => !entry.2)).map Prod.fst
          else x :: (tail.filter (fun entry => !entry.2)).map Prod.fst := by
      intro mark
      cases mark with
      | false => simp
      | true => simp
    rw [hlost] at htaken ⊢
    refine List.perm_middle.subperm.trans ?_
    have hcons := (List.subperm_cons x).mpr htaken
    exact hcons.trans (List.perm_append_singleton x taken).symm.subperm
  · intro hne
    have hlong := hold hne
    rw [hrecent] at hlong
    simpa using hlong

/-!
## Counting
-/

theorem countP_set_add (p : α -> Bool) {xs : List α} {i : Nat} {x : α} (y : α)
    (h : xs[i]? = some x) :
    (xs.set i y).countP p + (if p x then 1 else 0) =
      xs.countP p + (if p y then 1 else 0) := by
  rcases List.getElem?_eq_some_iff.mp h with ⟨hlt, hget⟩
  have hpos : p x = true -> 0 < xs.countP p := by
    intro hx
    exact List.countP_pos_iff.mpr ⟨x, List.mem_of_getElem? h, hx⟩
  rw [List.countP_set hlt, hget]
  cases hx : p x with
  | false =>
      simp
  | true =>
      have := hpos hx
      simp only [if_true]
      lia

end Foundation
end Numen
