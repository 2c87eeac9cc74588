import Mathlib.Data.List.Basic
import Numen.Foundation.Arithmetic
import Numen.Foundation.Folds

/-!
# Attempts

A transaction that fails is rolled back.  A sweep attempts one transaction per
key and goes on whether it succeeded or not.  If transactions of different keys
leave each other's part of the state alone, every key ends up as its own
transaction left it, or as it was.
-/

namespace Numen
namespace Foundation

variable {State Key Error : Type}

def attempt (f : State -> Except Error State) (s : State) : State :=
  match f s with
  | Except.ok t => t
  | Except.error _ => s

theorem attempt_of_ok {f : State -> Except Error State} {s t : State}
    (h : f s = Except.ok t) : attempt f s = t := by
  unfold attempt
  rw [h]

theorem attempt_of_error {f : State -> Except Error State} {s : State}
    {error : Error} (h : f s = Except.error error) : attempt f s = s := by
  unfold attempt
  rw [h]

theorem attempt_induction {f : State -> Except Error State}
    (Q : State -> Prop) {s : State} (hs : Q s)
    (hok : forall t, f s = Except.ok t -> Q t) : Q (attempt f s) := by
  cases h : f s with
  | error error =>
      rw [attempt_of_error h]
      exact hs
  | ok t =>
      rw [attempt_of_ok h]
      exact hok t h

def sweep (f : Key -> State -> Except Error State) (keys : List Key)
    (s : State) : State :=
  keys.foldl (fun s key => attempt (f key) s) s

section Sweep

variable {f : Key -> State -> Except Error State} {keys : List Key}

theorem apart_of_split {key : Key} {before after : List Key}
    (hkeys : (before ++ key :: after).Nodup) :
    (∀ other ∈ before, other ≠ key) ∧ ∀ other ∈ after, other ≠ key := by
  have hapart := List.nodup_append.mp hkeys
  constructor
  · intro other hother
    exact hapart.right.right other hother key List.mem_cons_self
  · intro other hother heq
    rw [heq] at hother
    exact (List.nodup_cons.mp hapart.right.left).left hother

theorem split_of_mem {key : Key} (hkeys : keys.Nodup) (hkey : key ∈ keys) :
    exists before after, keys = before ++ key :: after ∧
      (∀ other ∈ before, other ≠ key) ∧ ∀ other ∈ after, other ≠ key := by
  rcases List.append_of_mem hkey with ⟨before, after, heq⟩
  subst heq
  exact ⟨before, after, rfl, apart_of_split hkeys⟩

theorem sweep_append (first second : List Key) (s : State) :
    sweep f (first ++ second) s = sweep f second (sweep f first s) :=
  List.foldl_append

theorem sweep_preserves (Inv : State -> Prop)
    (hstep : forall key, key ∈ keys -> forall s t, Inv s ->
      f key s = Except.ok t -> Inv t)
    {s : State} (hs : Inv s) : Inv (sweep f keys s) := by
  refine foldl_preserves Inv keys ?_ hs
  intro u key hkey hu
  exact attempt_induction Inv hu (fun t ht => hstep key hkey u t hu ht)

section Invariant

variable (Inv : State -> Prop)
  (hinv : forall key, key ∈ keys -> forall s t, Inv s ->
    f key s = Except.ok t -> Inv t)

include hinv

theorem sweep_keeps (Kept : State -> State -> Prop)
    (hrefl : forall s, Kept s s)
    (htrans : forall s t u, Kept s t -> Kept t u -> Kept s u)
    (hkept : forall key, key ∈ keys -> forall s t, Inv s ->
      f key s = Except.ok t -> Kept s t)
    {s : State} (hs : Inv s) : Kept s (sweep f keys s) := by
  have hboth : Inv (sweep f keys s) ∧ Kept s (sweep f keys s) := by
    refine sweep_preserves (fun t => Inv t ∧ Kept s t) ?_ ⟨hs, hrefl s⟩
    rintro key hkey u t ⟨hu, hkeptu⟩ ht
    exact ⟨hinv key hkey u t hu ht,
      htrans _ _ _ hkeptu (hkept key hkey u t hu ht)⟩
  exact hboth.right

/-- A sweep attempts the transaction of each key in a state that the ones before
it left alone, and leaves its outcome alone afterwards. -/
theorem sweep_reaches (Kept : State -> State -> Prop)
    (hrefl : forall s, Kept s s)
    (htrans : forall s t u, Kept s t -> Kept t u -> Kept s u)
    {key : Key} {before after : List Key}
    (hsplit : keys = before ++ key :: after) (hkeys : keys.Nodup)
    (hkept : forall other, other ∈ keys -> other ≠ key -> forall s t, Inv s ->
      f other s = Except.ok t -> Kept s t)
    {s : State} (hs : Inv s) :
    Inv (sweep f before s) ∧ Kept s (sweep f before s) ∧
      Kept (attempt (f key) (sweep f before s)) (sweep f keys s) := by
  subst hsplit
  rcases apart_of_split hkeys with ⟨hbefore, hafter⟩
  have hkey : key ∈ before ++ key :: after :=
    List.mem_append_right before List.mem_cons_self
  have hinvBefore : Inv (sweep f before s) := by
    refine sweep_preserves Inv ?_ hs
    intro other hother
    exact hinv other (List.mem_append_left _ hother)
  have hinvKey : Inv (attempt (f key) (sweep f before s)) :=
    attempt_induction Inv hinvBefore
      (fun t ht => hinv key hkey _ t hinvBefore ht)
  refine ⟨hinvBefore, ?_, ?_⟩
  · refine sweep_keeps Inv ?_ Kept hrefl htrans ?_ hs
    · intro other hother
      exact hinv other (List.mem_append_left _ hother)
    · intro other hother
      exact hkept other (List.mem_append_left _ hother) (hbefore other hother)
  · rw [sweep_append]
    refine sweep_keeps Inv ?_ Kept hrefl htrans ?_ hinvKey
    · intro other hother
      exact hinv other (List.mem_append_right _ (List.mem_cons_of_mem _ hother))
    · intro other hother
      exact hkept other
        (List.mem_append_right _ (List.mem_cons_of_mem _ hother))
        (hafter other hother)

/-- A counter capped at `top` grows by what each transaction that succeeded
gains.  `gain key` is read off the state, is zero before the transaction of
`key`, and is left alone by the others. -/
theorem sweep_counts {top : Nat} (count : State -> Nat)
    (gain : Key -> State -> Nat) (hkeys : keys.Nodup)
    (hgain : forall key, key ∈ keys -> forall other, other ∈ keys ->
      other ≠ key -> forall s t, Inv s -> f other s = Except.ok t ->
        gain key t = gain key s)
    (hcount : forall key, key ∈ keys -> forall s t, Inv s ->
      f key s = Except.ok t -> count t = satAdd top (count s) (gain key t))
    {s : State} (hs : Inv s) (hfresh : forall key, key ∈ keys -> gain key s = 0)
    (htop : count s ≤ top) :
    count (sweep f keys s) =
      satAdd top (count s)
        ((keys.map fun key => gain key (sweep f keys s)).sum) := by
  induction keys generalizing s with
  | nil =>
      unfold satAdd
      exact (Nat.min_eq_left htop).symm
  | cons key rest ih =>
      have hnodup := List.nodup_cons.mp hkeys
      have hne : forall other, other ∈ rest -> other ≠ key := by
        intro other hother heq
        rw [heq] at hother
        exact hnodup.left hother
      have hhead : Inv (attempt (f key) s) ∧
          count (attempt (f key) s) =
            satAdd top (count s) (gain key (attempt (f key) s)) ∧
          forall other, other ∈ rest -> gain other (attempt (f key) s) = 0 := by
        refine attempt_induction (fun t => Inv t ∧
          count t = satAdd top (count s) (gain key t) ∧
          forall other, other ∈ rest -> gain other t = 0) ?_ ?_
        · refine ⟨hs, ?_, ?_⟩
          · rw [hfresh key List.mem_cons_self]
            unfold satAdd
            exact (Nat.min_eq_left htop).symm
          · intro other hother
            exact hfresh other (List.mem_cons_of_mem _ hother)
        · intro t ht
          refine ⟨hinv key List.mem_cons_self s t hs ht,
            hcount key List.mem_cons_self s t hs ht, ?_⟩
          intro other hother
          rw [hgain other (List.mem_cons_of_mem _ hother) key
            List.mem_cons_self (hne other hother).symm s t hs ht]
          exact hfresh other (List.mem_cons_of_mem _ hother)
      rcases hhead with ⟨hinvHead, hcountHead, hfreshHead⟩
      have hinvRest : forall other, other ∈ rest -> forall s t, Inv s ->
          f other s = Except.ok t -> Inv t := by
        intro other hother
        exact hinv other (List.mem_cons_of_mem _ hother)
      have hkeep : gain key (sweep f rest (attempt (f key) s)) =
          gain key (attempt (f key) s) := by
        refine sweep_keeps Inv hinvRest
          (fun s t => gain key t = gain key s) (fun _ => rfl)
          (fun _ _ _ hst htu => htu.trans hst) ?_ hinvHead
        intro other hother
        exact hgain key List.mem_cons_self other
          (List.mem_cons_of_mem _ hother) (hne other hother)
      have hrest := ih hinvRest hnodup.right
        (fun a ha b hb => hgain a (List.mem_cons_of_mem _ ha) b
          (List.mem_cons_of_mem _ hb))
        (fun a ha => hcount a (List.mem_cons_of_mem _ ha)) hinvHead hfreshHead
        (by rw [hcountHead]; exact satAdd_le_top _ _ _)
      have hsweep : sweep f (key :: rest) s =
          sweep f rest (attempt (f key) s) := rfl
      rw [hsweep, List.map_cons, List.sum_cons, hrest, hcountHead, hkeep]
      unfold satAdd
      lia

end Invariant

end Sweep

/-!
## Runs without failure
-/

/-- Run the transaction of one key after another.  The first failure ends the
run. -/
def runAll (f : Key -> State -> Except Error State) (keys : List Key)
    (s : State) : Except Error State :=
  keys.foldlM (fun s key => f key s) s

section RunAll

variable {f : Key -> State -> Except Error State} {keys : List Key}
  {s t : State}

theorem runAll_cons {key : Key}
    (h : runAll f (key :: keys) s = Except.ok t) :
    exists u, f key s = Except.ok u ∧ runAll f keys u = Except.ok t := by
  unfold runAll at h
  rw [List.foldlM_cons] at h
  exact except_bind_eq_ok h

theorem runAll_append {first second : List Key}
    (h : runAll f (first ++ second) s = Except.ok t) :
    exists u, runAll f first s = Except.ok u ∧
      runAll f second u = Except.ok t := by
  unfold runAll at h
  rw [List.foldlM_append] at h
  exact except_bind_eq_ok h

theorem sweep_of_runAll (h : runAll f keys s = Except.ok t) :
    sweep f keys s = t := by
  induction keys generalizing s with
  | nil =>
      cases h
      rfl
  | cons key rest ih =>
      rcases runAll_cons h with ⟨u, hkey, hrest⟩
      have hsweep : sweep f (key :: rest) s =
          sweep f rest (attempt (f key) s) := rfl
      rw [hsweep, attempt_of_ok hkey]
      exact ih hrest

section Kept

variable (Kept : State -> State -> Prop) (hrefl : forall s, Kept s s)
  (htrans : forall s t u, Kept s t -> Kept t u -> Kept s u)

include hrefl htrans

theorem runAll_keeps
    (hkept : forall key, key ∈ keys -> forall s t, f key s = Except.ok t ->
      Kept s t)
    (h : runAll f keys s = Except.ok t) : Kept s t := by
  rw [← sweep_of_runAll h]
  exact sweep_keeps (fun _ => True) (fun _ _ _ _ _ _ => trivial) Kept hrefl
    htrans (fun key hkey s t _ => hkept key hkey s t) trivial

/-- The transaction of each key runs in a state that the others left alone, and
they leave its outcome alone afterwards. -/
theorem runAll_reaches {key : Key} (hkeys : keys.Nodup) (hkey : key ∈ keys)
    (hkept : forall other, other ∈ keys -> other ≠ key -> forall s t,
      f other s = Except.ok t -> Kept s t)
    (h : runAll f keys s = Except.ok t) :
    exists u v, Kept s u ∧ f key u = Except.ok v ∧ Kept v t := by
  rcases split_of_mem hkeys hkey with ⟨before, after, heq, hbefore, hafter⟩
  subst heq
  rcases runAll_append h with ⟨u, hfirst, h⟩
  rcases runAll_cons h with ⟨v, hstep, hlast⟩
  refine ⟨u, v, ?_, hstep, ?_⟩
  · refine runAll_keeps Kept hrefl htrans ?_ hfirst
    intro other hother
    exact hkept other (List.mem_append_left _ hother) (hbefore other hother)
  · refine runAll_keeps Kept hrefl htrans ?_ hlast
    intro other hother
    exact hkept other (List.mem_append_right _ (List.mem_cons_of_mem _ hother))
      (hafter other hother)

end Kept

/-- Growth that adds up along a run.  Whether the transaction of `key` grows by
one can be told from any state before it, since the others leave it alone. -/
theorem runAll_counts (Grown : Nat -> State -> State -> Prop)
    (hzero : forall s, Grown 0 s s)
    (hadd : forall m n s t u, Grown m s t -> Grown n t u -> Grown (m + n) s u)
    (test : Key -> State -> Bool) (hkeys : keys.Nodup)
    (hgrown : forall key, key ∈ keys -> forall s t, f key s = Except.ok t ->
      Grown (test key s).toNat s t)
    (hkept : forall key, key ∈ keys -> forall other, other ∈ keys ->
      other ≠ key -> forall s t, f other s = Except.ok t ->
        test key t = test key s)
    (h : runAll f keys s = Except.ok t) :
    Grown (keys.countP fun key => test key s) s t := by
  induction keys generalizing s with
  | nil =>
      cases h
      exact hzero _
  | cons key rest ih =>
      rcases runAll_cons h with ⟨u, hkey, hrest⟩
      have hnodup := List.nodup_cons.mp hkeys
      have hsame : (rest.countP fun other => test other u) =
          rest.countP fun other => test other s := by
        refine List.countP_congr ?_
        intro other hother
        have hne : key ≠ other := by
          intro heq
          rw [← heq] at hother
          exact hnodup.left hother
        rw [hkept other (List.mem_cons_of_mem _ hother) key
          List.mem_cons_self hne s u hkey]
      have hfirst := hgrown key List.mem_cons_self s u hkey
      have hsecond := ih hnodup.right
        (fun other hother => hgrown other (List.mem_cons_of_mem _ hother))
        (fun a ha b hb => hkept a (List.mem_cons_of_mem _ ha) b
          (List.mem_cons_of_mem _ hb)) hrest
      rw [hsame] at hsecond
      have hall := hadd _ _ _ _ _ hfirst hsecond
      have hcount : ((key :: rest).countP fun other => test other s) =
          (test key s).toNat + rest.countP fun other => test other s := by
        rw [List.countP_cons, Nat.add_comm]
        cases test key s <;> rfl
      rw [hcount]
      exact hall

end RunAll

theorem sum_map_toNat {Key : Type} (keys : List Key) (test : Key -> Bool) :
    (keys.map fun key => (test key).toNat).sum = keys.countP test := by
  induction keys with
  | nil => rfl
  | cons key rest ih =>
      rw [List.map_cons, List.sum_cons, ih, List.countP_cons]
      cases test key with
      | true => exact Nat.add_comm _ _
      | false => exact Nat.zero_add _

theorem countP_eq_add {Key : Type} {keys : List Key}
    {test first second : Key -> Bool}
    (h : ∀ key ∈ keys, (test key).toNat =
      (first key).toNat + (second key).toNat) :
    keys.countP test = keys.countP first + keys.countP second := by
  induction keys with
  | nil => rfl
  | cons key rest ih =>
      have hkey := h key List.mem_cons_self
      have hrest := ih (fun other hother =>
        h other (List.mem_cons_of_mem _ hother))
      rw [← sum_map_toNat, ← sum_map_toNat, ← sum_map_toNat] at hrest ⊢
      rw [List.map_cons, List.map_cons, List.map_cons, List.sum_cons,
        List.sum_cons, List.sum_cons]
      lia

end Foundation
end Numen
