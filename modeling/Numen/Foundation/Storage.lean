import Mathlib.Data.List.AList

/-!
# Storage maps and bounded vectors

The two containers of on-chain state: a map with finitely many keys, read and
written one key at a time or swept as a whole, and a vector that refuses to
grow past its bound.  Iteration order is whatever order the entries happen to
be kept in, so a sweep may rely on every key coming up exactly once and on
nothing else.
-/

namespace Numen
namespace Foundation

/-- A map with finitely many keys, each bound to a single value. -/
def StorageMap (K V : Type) : Type :=
  AList (fun _ : K => V)

namespace StorageMap

variable {K V : Type}

def empty : StorageMap K V :=
  (∅ : AList (fun _ : K => V))

def iter (m : StorageMap K V) : List (K × V) :=
  m.entries.map (fun entry => (entry.1, entry.2))

def keys (m : StorageMap K V) : List K :=
  AList.keys m

theorem nodup_keys (m : StorageMap K V) : m.keys.Nodup :=
  AList.keys_nodup m

theorem nodup_iter_keys (m : StorageMap K V) :
    (m.iter.map Prod.fst).Nodup := by
  have hkeys : m.iter.map Prod.fst = m.keys := by
    unfold iter keys AList.keys List.keys
    rw [List.map_map]
    rfl
  rw [hkeys]
  exact nodup_keys m

theorem fst_ne_of_mem_iter {m : StorageMap K V} {a b : K × V}
    (ha : a ∈ m.iter) (hb : b ∈ m.iter) (hne : b ≠ a) : a.1 ≠ b.1 := by
  intro heq
  exact hne (List.inj_on_of_nodup_map (nodup_iter_keys m) hb ha heq.symm)

section Lookup

variable [DecidableEq K]

def get (m : StorageMap K V) (k : K) : Option V :=
  AList.lookup k m

def containsKey (m : StorageMap K V) (k : K) : Bool :=
  (m.get k).isSome

def insert (m : StorageMap K V) (k : K) (v : V) : StorageMap K V :=
  AList.insert k v m

def remove (m : StorageMap K V) (k : K) : StorageMap K V :=
  AList.erase k m

/-- Rewrite the value under `k`; a result of `none` deletes the key. -/
def mutate (m : StorageMap K V) (k : K) (f : Option V -> Option V) :
    StorageMap K V :=
  match f (m.get k) with
  | some v => m.insert k v
  | none => m.remove k

/-!
## Reading back a write
-/

@[simp] theorem get_empty (k : K) :
    (empty : StorageMap K V).get k = none :=
  AList.lookup_empty k

@[simp] theorem get_insert_self (m : StorageMap K V) (k : K) (v : V) :
    (m.insert k v).get k = some v :=
  AList.lookup_insert m

theorem get_insert_of_ne (m : StorageMap K V) {k k' : K} (v : V)
    (h : k' ≠ k) : (m.insert k v).get k' = m.get k' :=
  AList.lookup_insert_ne h

theorem get_insert (m : StorageMap K V) (k k' : K) (v : V) :
    (m.insert k v).get k' = if k' = k then some v else m.get k' := by
  by_cases h : k' = k
  · subst h
    simp
  · rw [if_neg h, get_insert_of_ne m v h]

theorem get_insert_cases {m : StorageMap K V} {k k' : K} {v v' : V}
    (h : (m.insert k v).get k' = some v') :
    (k' = k ∧ v' = v) ∨ m.get k' = some v' := by
  rw [get_insert] at h
  split at h
  · rename_i hself
    exact Or.inl ⟨hself, (Option.some.inj h).symm⟩
  · exact Or.inr h

@[simp] theorem get_remove_self (m : StorageMap K V) (k : K) :
    (m.remove k).get k = none :=
  AList.lookup_erase k m

theorem get_remove_of_ne (m : StorageMap K V) {k k' : K} (h : k' ≠ k) :
    (m.remove k).get k' = m.get k' :=
  AList.lookup_erase_ne h

theorem get_remove (m : StorageMap K V) (k k' : K) :
    (m.remove k).get k' = if k' = k then none else m.get k' := by
  by_cases h : k' = k
  · subst h
    simp
  · rw [if_neg h, get_remove_of_ne m h]

theorem get_mutate (m : StorageMap K V) (k k' : K) (f : Option V -> Option V) :
    (m.mutate k f).get k' = if k' = k then f (m.get k) else m.get k' := by
  unfold mutate
  cases hf : f (m.get k) with
  | none => exact get_remove m k k'
  | some v => exact get_insert m k k' v

theorem containsKey_eq_true {m : StorageMap K V} {k : K} :
    m.containsKey k = true <-> exists v, m.get k = some v :=
  Option.isSome_iff_exists

/-!
## Sweeping a whole map
-/

theorem mem_iter {m : StorageMap K V} {k : K} {v : V} :
    (k, v) ∈ m.iter <-> m.get k = some v := by
  have hlookup : m.get k = some v <-> (Sigma.mk k v) ∈ m.entries :=
    AList.mem_lookup_iff
  rw [hlookup]
  constructor
  · intro h
    rcases List.mem_map.mp h with ⟨entry, hentry, heq⟩
    cases entry
    cases heq
    exact hentry
  · intro h
    exact List.mem_map.mpr ⟨_, h, rfl⟩

theorem mem_keys {m : StorageMap K V} {k : K} :
    k ∈ m.keys <-> exists v, m.get k = some v := by
  rw [← containsKey_eq_true]
  exact AList.mem_keys.symm.trans AList.lookup_isSome.symm

theorem length_keys_insert {m : StorageMap K V} {k : K} (h : m.get k = none)
    {v : V} : (m.insert k v).keys.length = m.keys.length + 1 := by
  have hnew : k ∉ m.keys := by
    intro hmem
    rcases mem_keys.mp hmem with ⟨old, hold⟩
    rw [h] at hold
    cases hold
  have hkeys : (m.insert k v).keys = k :: m.keys.erase k := AList.keys_insert m
  rw [hkeys, List.length_cons, List.erase_of_not_mem hnew]

/-- Remove entries in iteration order, `limit` of them at most. -/
def clear (m : StorageMap K V) (limit : Nat) : StorageMap K V :=
  (m.keys.take limit).foldl remove m

theorem get_foldl_remove (ks : List K) (m : StorageMap K V) (k : K) :
    (ks.foldl remove m).get k = if k ∈ ks then none else m.get k := by
  induction ks generalizing m with
  | nil => simp
  | cons first rest ih =>
      rw [List.foldl_cons, ih, get_remove]
      by_cases hrest : k ∈ rest
      · rw [if_pos hrest, if_pos (List.mem_cons_of_mem _ hrest)]
      · rw [if_neg hrest]
        by_cases hfirst : k = first
        · rw [if_pos hfirst, if_pos (List.mem_cons.mpr (Or.inl hfirst))]
        · rw [if_neg hfirst, if_neg (by simp [hfirst, hrest])]

theorem get_clear (m : StorageMap K V) {limit : Nat}
    (hlimit : m.iter.length ≤ limit) (k : K) : (m.clear limit).get k = none := by
  have hlength : m.keys.length ≤ limit := by
    unfold iter at hlimit
    unfold keys AList.keys List.keys
    rw [List.length_map] at hlimit ⊢
    exact hlimit
  unfold clear
  rw [get_foldl_remove, List.take_of_length_le hlength]
  by_cases hk : k ∈ m.keys
  · rw [if_pos hk]
  · rw [if_neg hk]
    cases hget : m.get k with
    | none => rfl
    | some v => exact absurd (mem_keys.mpr ⟨v, hget⟩) hk

theorem get_foldl_insert {entries : List (K × V)}
    (hentries : (entries.map Prod.fst).Nodup) (m : StorageMap K V) (k : K)
    (v : V) :
    (entries.foldl (fun m entry => m.insert entry.1 entry.2) m).get k =
        some v <->
      (k, v) ∈ entries ∨ (k ∉ entries.map Prod.fst ∧ m.get k = some v) := by
  induction entries generalizing m with
  | nil => simp
  | cons entry rest ih =>
      rw [List.map_cons, List.nodup_cons] at hentries
      rw [List.foldl_cons, ih hentries.right, get_insert]
      by_cases hfirst : k = entry.1
      · subst hfirst
        have hmem : (entry.1, v) ∈ rest -> entry.1 ∈ rest.map Prod.fst := by
          intro hrest
          exact List.mem_map.mpr ⟨_, hrest, rfl⟩
        rw [if_pos rfl]
        constructor
        · rintro (hrest | ⟨_, heq⟩)
          · exact absurd (hmem hrest) hentries.left
          · cases heq
            exact Or.inl List.mem_cons_self
        · rintro (hrest | ⟨hnone, _⟩)
          · rcases List.mem_cons.mp hrest with heq | hrest
            · exact Or.inr ⟨hentries.left, congrArg some
                (congrArg Prod.snd heq).symm⟩
            · exact absurd (hmem hrest) hentries.left
          · exact absurd List.mem_cons_self hnone
      · have hne : (k, v) ≠ entry := by
          intro heq
          exact hfirst (congrArg Prod.fst heq)
        rw [if_neg hfirst, List.mem_cons, List.map_cons, List.mem_cons]
        simp [hne, hfirst]

end Lookup

end StorageMap

structure BoundedVec (α : Type) (bound : Nat) where
  toList : List α
  length_le : toList.length ≤ bound
deriving DecidableEq

namespace BoundedVec

variable {α : Type} {bound : Nat}

def empty : BoundedVec α bound :=
  { toList := [], length_le := Nat.zero_le bound }

def isFull (xs : BoundedVec α bound) : Bool :=
  decide (bound ≤ xs.toList.length)

/-- Append one element, or nothing at all when the vector is full. -/
def tryPush (xs : BoundedVec α bound) (x : α) : Option (BoundedVec α bound) :=
  if h : xs.toList.length < bound then
    some
      { toList := xs.toList ++ [x]
        length_le := by
          rw [List.length_append]
          exact h }
  else
    none

/-- Append one element and ignore the refusal of a full vector. -/
def pushOrDrop (xs : BoundedVec α bound) (x : α) : BoundedVec α bound :=
  (xs.tryPush x).getD xs

def removeFirst [DecidableEq α] (xs : BoundedVec α bound) (x : α) :
    BoundedVec α bound :=
  { toList := xs.toList.erase x
    length_le := Nat.le_trans (List.length_erase_le) xs.length_le }

@[simp] theorem toList_empty :
    (empty : BoundedVec α bound).toList = [] :=
  rfl

theorem ext_toList {xs ys : BoundedVec α bound}
    (h : xs.toList = ys.toList) : xs = ys := by
  cases xs
  cases ys
  cases h
  rfl

theorem isFull_eq_false {xs : BoundedVec α bound} :
    xs.isFull = false <-> xs.toList.length < bound := by
  simp [isFull]

theorem tryPush_of_lt {xs : BoundedVec α bound} (x : α)
    (h : xs.toList.length < bound) :
    exists ys, xs.tryPush x = some ys ∧ ys.toList = xs.toList ++ [x] := by
  unfold tryPush
  rw [dif_pos h]
  exact ⟨_, rfl, rfl⟩

theorem toList_pushOrDrop_of_lt {xs : BoundedVec α bound} (x : α)
    (h : xs.toList.length < bound) :
    (xs.pushOrDrop x).toList = xs.toList ++ [x] := by
  rcases tryPush_of_lt x h with ⟨ys, hys, hlist⟩
  simp [pushOrDrop, hys, hlist]

theorem mem_pushOrDrop {xs : BoundedVec α bound} {x y : α}
    (h : y ∈ (xs.pushOrDrop x).toList) : y ∈ xs.toList ∨ y = x := by
  by_cases hlt : xs.toList.length < bound
  · rw [toList_pushOrDrop_of_lt x hlt] at h
    simpa using h
  · simp only [pushOrDrop, tryPush, dif_neg hlt, Option.getD_none] at h
    exact Or.inl h

end BoundedVec

end Foundation
end Numen
