import Mathlib.Data.List.Nodup
import Mathlib.Data.List.Perm.Subperm
import Mathlib.Data.Prod.Basic
import Mathlib.Order.Lattice

/-!
# Closed surfaces

A surface is a list of triangles over a type of vertices.  It is closed and
consistently oriented if every directed edge belongs to one triangle and its
reverse to one as well.  Splitting every triangle at the midpoints of its edges
keeps a surface closed, provided that no two triangles share two edges and that
the midpoints are new and tell the edges apart.
-/

namespace Numen
namespace Foundation

variable {V : Type}

@[ext]
structure Triangle (V : Type) where
  a : V
  b : V
  c : V
deriving DecidableEq

namespace Triangle

def corners (t : Triangle V) : List V :=
  [t.a, t.b, t.c]

def edges (t : Triangle V) : List (V × V) :=
  [(t.a, t.b), (t.b, t.c), (t.c, t.a)]

def Proper (t : Triangle V) : Prop :=
  t.a ≠ t.b ∧ t.b ≠ t.c ∧ t.c ≠ t.a

/-- No common edge in the same direction, and at most one in opposite
directions. -/
def Apart (s t : Triangle V) : Prop :=
  (∀ e ∈ s.edges, e ∉ t.edges) ∧
    ∀ e ∈ s.edges, ∀ d ∈ s.edges,
      e.swap ∈ t.edges -> d.swap ∈ t.edges -> e = d

def split (m : V -> V -> V) (t : Triangle V) : List (Triangle V) :=
  [⟨t.a, m t.a t.b, m t.c t.a⟩, ⟨t.b, m t.b t.c, m t.a t.b⟩,
    ⟨t.c, m t.c t.a, m t.b t.c⟩, ⟨m t.a t.b, m t.b t.c, m t.c t.a⟩]

theorem mem_corners {t : Triangle V} {v : V} :
    v ∈ t.corners <-> v = t.a ∨ v = t.b ∨ v = t.c := by
  simp [corners]

theorem mem_edges {t : Triangle V} {e : V × V} :
    e ∈ t.edges <-> e = (t.a, t.b) ∨ e = (t.b, t.c) ∨ e = (t.c, t.a) := by
  simp [edges]

theorem ab_mem_edges (t : Triangle V) : (t.a, t.b) ∈ t.edges :=
  mem_edges.mpr (Or.inl rfl)

theorem bc_mem_edges (t : Triangle V) : (t.b, t.c) ∈ t.edges :=
  mem_edges.mpr (Or.inr (Or.inl rfl))

theorem ca_mem_edges (t : Triangle V) : (t.c, t.a) ∈ t.edges :=
  mem_edges.mpr (Or.inr (Or.inr rfl))

theorem mem_split {m : V -> V -> V} {t x : Triangle V} :
    x ∈ t.split m <->
      x = ⟨t.a, m t.a t.b, m t.c t.a⟩ ∨ x = ⟨t.b, m t.b t.c, m t.a t.b⟩ ∨
        x = ⟨t.c, m t.c t.a, m t.b t.c⟩ ∨
        x = ⟨m t.a t.b, m t.b t.c, m t.c t.a⟩ := by
  simp [split]

theorem split_congr {m m' : V -> V -> V} {t : Triangle V}
    (h : ∀ e ∈ t.edges, m e.1 e.2 = m' e.1 e.2) : t.split m = t.split m' := by
  have hab : m t.a t.b = m' t.a t.b := h _ t.ab_mem_edges
  have hbc : m t.b t.c = m' t.b t.c := h _ t.bc_mem_edges
  have hca : m t.c t.a = m' t.c t.a := h _ t.ca_mem_edges
  unfold split
  rw [hab, hbc, hca]

theorem Proper.ne_of_mem {t : Triangle V} (h : t.Proper) {e : V × V}
    (he : e ∈ t.edges) : e.1 ≠ e.2 := by
  rcases mem_edges.mp he with rfl | rfl | rfl
  · exact h.left
  · exact h.right.left
  · exact h.right.right

theorem Proper.nodup_edges {t : Triangle V} (h : t.Proper) :
    t.edges.Nodup := by
  rcases h with ⟨hab, hbc, hca⟩
  simp [edges, hab, hbc, hca.symm]

instance [DecidableEq V] (t : Triangle V) : Decidable t.Proper :=
  inferInstanceAs (Decidable (_ ∧ _))

instance [DecidableEq V] (s t : Triangle V) : Decidable (s.Apart t) :=
  inferInstanceAs (Decidable (_ ∧ _))

def map {W : Type} (f : V -> W) (t : Triangle V) : Triangle W :=
  ⟨f t.a, f t.b, f t.c⟩

theorem edges_map {W : Type} (f : V -> W) (t : Triangle V) :
    (t.map f).edges = t.edges.map (Prod.map f f) :=
  rfl

theorem Apart.map {W : Type} {f : V -> W} (hf : Function.Injective f)
    {s t : Triangle V} (h : s.Apart t) : (s.map f).Apart (t.map f) := by
  have hpair : Function.Injective (Prod.map f f) := hf.prodMap hf
  have hswap : forall e : V × V,
      (Prod.map f f e).swap = Prod.map f f e.swap := fun _ => rfl
  unfold Apart
  rw [edges_map, edges_map]
  constructor
  · intro e he he'
    rcases List.mem_map.mp he with ⟨d, hd, rfl⟩
    exact h.left d hd ((List.mem_map_of_injective hpair).mp he')
  · intro e he e' he' hmem hmem'
    rcases List.mem_map.mp he with ⟨d, hd, rfl⟩
    rcases List.mem_map.mp he' with ⟨d', hd', rfl⟩
    rw [hswap, List.mem_map_of_injective hpair] at hmem hmem'
    rw [h.right d hd d' hd' hmem hmem']

end Triangle

def edges (faces : List (Triangle V)) : List (V × V) :=
  faces.flatMap Triangle.edges

theorem mem_edges_faces {faces : List (Triangle V)} {e : V × V} :
    e ∈ edges faces <-> ∃ t ∈ faces, e ∈ t.edges :=
  List.mem_flatMap

structure Closed (faces : List (Triangle V)) : Prop where
  proper : ∀ t ∈ faces, t.Proper
  apart : faces.Pairwise Triangle.Apart
  swap_mem : ∀ e ∈ edges faces, e.swap ∈ edges faces

def subdivide (m : V -> V -> V) (faces : List (Triangle V)) :
    List (Triangle V) :=
  faces.flatMap (Triangle.split m)

/-- Midpoints do not depend on the direction of an edge, tell edges apart and
are no ends of edges. -/
structure Midpoints (m : V -> V -> V) (E : List (V × V)) : Prop where
  comm : forall u v, m u v = m v u
  inj : ∀ e ∈ E, ∀ d ∈ E, m e.1 e.2 = m d.1 d.2 -> d = e ∨ d = e.swap
  fresh : ∀ e ∈ E, ∀ d ∈ E, m e.1 e.2 ≠ d.1 ∧ m e.1 e.2 ≠ d.2

/-!
## The edges of a split triangle
-/

/-- Either half of an edge, or an edge between two midpoints. -/
inductive SplitEdge (m : V -> V -> V) (t : Triangle V) : V × V -> Prop where
  | first (d : V × V) : d ∈ t.edges -> SplitEdge m t (d.1, m d.1 d.2)
  | second (d : V × V) : d ∈ t.edges -> SplitEdge m t (m d.1 d.2, d.2)
  | inner (d d' : V × V) : d ∈ t.edges -> d' ∈ t.edges -> d ≠ d' ->
      SplitEdge m t (m d.1 d.2, m d'.1 d'.2)

theorem splitEdge_of_mem {m : V -> V -> V} {t x : Triangle V} (h : t.Proper)
    (hx : x ∈ t.split m) {e : V × V} (he : e ∈ x.edges) : SplitEdge m t e := by
  have hab := t.ab_mem_edges
  have hbc := t.bc_mem_edges
  have hca := t.ca_mem_edges
  rcases h with ⟨hne_ab, hne_bc, hne_ca⟩
  rcases Triangle.mem_split.mp hx with rfl | rfl | rfl | rfl
  · rcases Triangle.mem_edges.mp he with rfl | rfl | rfl
    · exact SplitEdge.first _ hab
    · exact SplitEdge.inner _ _ hab hca (by simp [hne_ca.symm])
    · exact SplitEdge.second _ hca
  · rcases Triangle.mem_edges.mp he with rfl | rfl | rfl
    · exact SplitEdge.first _ hbc
    · exact SplitEdge.inner _ _ hbc hab (by simp [hne_ab.symm])
    · exact SplitEdge.second _ hab
  · rcases Triangle.mem_edges.mp he with rfl | rfl | rfl
    · exact SplitEdge.first _ hca
    · exact SplitEdge.inner _ _ hca hbc (by simp [hne_bc.symm])
    · exact SplitEdge.second _ hbc
  · rcases Triangle.mem_edges.mp he with rfl | rfl | rfl
    · exact SplitEdge.inner _ _ hab hbc (by simp [hne_ab])
    · exact SplitEdge.inner _ _ hbc hca (by simp [hne_bc])
    · exact SplitEdge.inner _ _ hca hab (by simp [hne_ca])

theorem SplitEdge.exists_mem {m : V -> V -> V} {t : Triangle V} {e : V × V}
    (h : SplitEdge m t e) : ∃ x ∈ t.split m, e ∈ x.edges := by
  cases h with
  | first d hd =>
      rcases Triangle.mem_edges.mp hd with rfl | rfl | rfl <;>
        simp [Triangle.split, Triangle.edges]
  | second d hd =>
      rcases Triangle.mem_edges.mp hd with rfl | rfl | rfl <;>
        simp [Triangle.split, Triangle.edges]
  | inner d d' hd hd' hne =>
      rcases Triangle.mem_edges.mp hd with rfl | rfl | rfl <;>
        rcases Triangle.mem_edges.mp hd' with rfl | rfl | rfl <;>
        simp [Triangle.split, Triangle.edges] at hne ⊢

/-!
## Splitting keeps triangles apart
-/

section Split

variable {m : V -> V -> V} {E : List (V × V)} {s t : Triangle V}

theorem Midpoints.swap_of_eq (hm : Midpoints m E)
    (hsE : ∀ e ∈ s.edges, e ∈ E) (htE : ∀ e ∈ t.edges, e ∈ E)
    (hapart : s.Apart t) {d d' : V × V} (hd : d ∈ s.edges) (hd' : d' ∈ t.edges)
    (heq : m d.1 d.2 = m d'.1 d'.2) : d' = d.swap := by
  rcases hm.inj d (hsE d hd) d' (htE d' hd') heq with hsame | hswap
  · rw [hsame] at hd'
    exact absurd hd' (hapart.left d hd)
  · exact hswap

theorem SplitEdge.ne (hm : Midpoints m E) (hsE : ∀ e ∈ s.edges, e ∈ E)
    (htE : ∀ e ∈ t.edges, e ∈ E) (hs : s.Proper) (hapart : s.Apart t)
    {e e' : V × V} (h : SplitEdge m s e) (h' : SplitEdge m t e') : e ≠ e' := by
  intro heq
  have hstart : e.1 = e'.1 := congrArg Prod.fst heq
  have hend : e.2 = e'.2 := congrArg Prod.snd heq
  clear heq
  cases h with
  | first d hd =>
      cases h' with
      | first d' hd' =>
          have hswap := hm.swap_of_eq hsE htE hapart hd hd' hend
          subst hswap
          exact hs.ne_of_mem hd hstart
      | second d' hd' =>
          exact (hm.fresh d' (htE d' hd') d (hsE d hd)).left hstart.symm
      | inner d₁ d₂ hd₁ hd₂ hne =>
          exact (hm.fresh d₁ (htE d₁ hd₁) d (hsE d hd)).left hstart.symm
  | second d hd =>
      cases h' with
      | first d' hd' =>
          exact (hm.fresh d (hsE d hd) d' (htE d' hd')).left hstart
      | second d' hd' =>
          have hswap := hm.swap_of_eq hsE htE hapart hd hd' hstart
          subst hswap
          exact hs.ne_of_mem hd hend.symm
      | inner d₁ d₂ hd₁ hd₂ hne =>
          exact (hm.fresh d₂ (htE d₂ hd₂) d (hsE d hd)).right hend.symm
  | inner d₁ d₂ hd₁ hd₂ hne =>
      cases h' with
      | first d' hd' =>
          exact (hm.fresh d₁ (hsE d₁ hd₁) d' (htE d' hd')).left hstart
      | second d' hd' =>
          exact (hm.fresh d₂ (hsE d₂ hd₂) d' (htE d' hd')).right hend
      | inner d₁' d₂' hd₁' hd₂' hne' =>
          have hswap₁ := hm.swap_of_eq hsE htE hapart hd₁ hd₁' hstart
          have hswap₂ := hm.swap_of_eq hsE htE hapart hd₂ hd₂' hend
          exact hne (hapart.right d₁ hd₁ d₂ hd₂ (hswap₁ ▸ hd₁') (hswap₂ ▸ hd₂'))

/-- An edge that meets its reverse in the other triangle is half of an edge the
two share. -/
theorem SplitEdge.shared (hm : Midpoints m E) (hsE : ∀ e ∈ s.edges, e ∈ E)
    (htE : ∀ e ∈ t.edges, e ∈ E) (hapart : s.Apart t) {e e' : V × V}
    (h : SplitEdge m s e) (h' : SplitEdge m t e') (heq : e.swap = e') :
    ∃ d ∈ s.edges, d.swap ∈ t.edges ∧
      (e = (d.1, m d.1 d.2) ∨ e = (m d.1 d.2, d.2)) := by
  have hstart : e.2 = e'.1 := congrArg Prod.fst heq
  have hend : e.1 = e'.2 := congrArg Prod.snd heq
  clear heq
  cases h with
  | first d hd =>
      refine ⟨d, hd, ?_, Or.inl rfl⟩
      cases h' with
      | first d' hd' =>
          exact absurd hstart (hm.fresh d (hsE d hd) d' (htE d' hd')).left
      | second d' hd' =>
          exact hm.swap_of_eq hsE htE hapart hd hd' hstart ▸ hd'
      | inner d₁ d₂ hd₁ hd₂ hne =>
          exact absurd hend.symm (hm.fresh d₂ (htE d₂ hd₂) d (hsE d hd)).left
  | second d hd =>
      refine ⟨d, hd, ?_, Or.inr rfl⟩
      cases h' with
      | first d' hd' =>
          exact hm.swap_of_eq hsE htE hapart hd hd' hend ▸ hd'
      | second d' hd' =>
          exact absurd hstart.symm
            (hm.fresh d' (htE d' hd') d (hsE d hd)).right
      | inner d₁ d₂ hd₁ hd₂ hne =>
          exact absurd hstart.symm
            (hm.fresh d₁ (htE d₁ hd₁) d (hsE d hd)).right
  | inner d₁ d₂ hd₁ hd₂ hne =>
      exfalso
      cases h' with
      | first d' hd' =>
          exact (hm.fresh d₂ (hsE d₂ hd₂) d' (htE d' hd')).left hstart
      | second d' hd' =>
          exact (hm.fresh d₁ (hsE d₁ hd₁) d' (htE d' hd')).right hend
      | inner d₁' d₂' hd₁' hd₂' hne' =>
          have hswap₂ := hm.swap_of_eq hsE htE hapart hd₂ hd₁' hstart
          have hswap₁ := hm.swap_of_eq hsE htE hapart hd₁ hd₂' hend
          exact hne (hapart.right d₁ hd₁ d₂ hd₂ (hswap₁ ▸ hd₂') (hswap₂ ▸ hd₁'))

theorem midpoints_of_mem_split {x : Triangle V} (hx : x ∈ s.split m) :
    ∃ d ∈ s.edges, ∃ d' ∈ s.edges, x.b = m d.1 d.2 ∧ x.c = m d'.1 d'.2 := by
  have hab := s.ab_mem_edges
  have hbc := s.bc_mem_edges
  have hca := s.ca_mem_edges
  rcases Triangle.mem_split.mp hx with rfl | rfl | rfl | rfl
  · exact ⟨_, hab, _, hca, rfl, rfl⟩
  · exact ⟨_, hbc, _, hab, rfl, rfl⟩
  · exact ⟨_, hca, _, hbc, rfl, rfl⟩
  · exact ⟨_, hbc, _, hca, rfl, rfl⟩

theorem corner_of_mem_split {x : Triangle V} (hx : x ∈ s.split m) {v : V}
    (hv : v ∈ x.corners) :
    v ∈ s.corners ∨ ∃ d ∈ s.edges, v = m d.1 d.2 := by
  rcases midpoints_of_mem_split hx with ⟨d, hd, d', hd', hb, hc⟩
  have hfirst : x.a ∈ s.corners ∨ ∃ d ∈ s.edges, x.a = m d.1 d.2 := by
    rcases Triangle.mem_split.mp hx with rfl | rfl | rfl | rfl
    · exact Or.inl (Triangle.mem_corners.mpr (Or.inl rfl))
    · exact Or.inl (Triangle.mem_corners.mpr (Or.inr (Or.inl rfl)))
    · exact Or.inl (Triangle.mem_corners.mpr (Or.inr (Or.inr rfl)))
    · exact Or.inr ⟨_, s.ab_mem_edges, rfl⟩
  rcases Triangle.mem_corners.mp hv with rfl | rfl | rfl
  · exact hfirst
  · exact Or.inr ⟨d, hd, hb⟩
  · exact Or.inr ⟨d', hd', hc⟩

theorem not_both_halves (hm : Midpoints m E) (hsE : ∀ e ∈ s.edges, e ∈ E)
    (hs : s.Proper) {x : Triangle V} (hx : x ∈ s.split m) {d : V × V}
    (hd : d ∈ s.edges) (hfirst : (d.1, m d.1 d.2) ∈ x.edges)
    (hsecond : (m d.1 d.2, d.2) ∈ x.edges) : False := by
  rcases midpoints_of_mem_split hx with ⟨e, he, e', he', hb, hc⟩
  have hfresh := hm.fresh e (hsE e he) d (hsE d hd)
  have hfresh' := hm.fresh e' (hsE e' he') d (hsE d hd)
  rw [← hb] at hfresh
  rw [← hc] at hfresh'
  have hstart : d.1 = x.a := by
    rcases Triangle.mem_edges.mp hfirst with heq | heq | heq
    · exact congrArg Prod.fst heq
    · exact absurd (congrArg Prod.fst heq).symm hfresh.left
    · exact absurd (congrArg Prod.fst heq).symm hfresh'.left
  have hend : d.2 = x.a := by
    rcases Triangle.mem_edges.mp hsecond with heq | heq | heq
    · exact absurd (congrArg Prod.snd heq).symm hfresh.right
    · exact absurd (congrArg Prod.snd heq).symm hfresh'.right
    · exact congrArg Prod.snd heq
  exact hs.ne_of_mem hd (hstart.trans hend.symm)

theorem apart_of_mem_split (hm : Midpoints m E) (hsE : ∀ e ∈ s.edges, e ∈ E)
    (htE : ∀ e ∈ t.edges, e ∈ E) (hs : s.Proper) (ht : t.Proper)
    (hapart : s.Apart t) {x y : Triangle V} (hx : x ∈ s.split m)
    (hy : y ∈ t.split m) : x.Apart y := by
  constructor
  · intro e he he'
    exact SplitEdge.ne hm hsE htE hs hapart (splitEdge_of_mem hs hx he)
      (splitEdge_of_mem ht hy he') rfl
  · intro e he e' he' hswap hswap'
    rcases SplitEdge.shared hm hsE htE hapart (splitEdge_of_mem hs hx he)
      (splitEdge_of_mem ht hy hswap) rfl with ⟨d, hd, hshared, hhalf⟩
    rcases SplitEdge.shared hm hsE htE hapart (splitEdge_of_mem hs hx he')
      (splitEdge_of_mem ht hy hswap') rfl with ⟨d', hd', hshared', hhalf'⟩
    have hsame := hapart.right d hd d' hd' hshared hshared'
    subst hsame
    rcases hhalf with hfirst | hsecond
    · rcases hhalf' with hfirst' | hsecond'
      · rw [hfirst, hfirst']
      · rw [hfirst] at he
        rw [hsecond'] at he'
        exact (not_both_halves hm hsE hs hx hd he he').elim
    · rcases hhalf' with hfirst' | hsecond'
      · rw [hsecond] at he
        rw [hfirst'] at he'
        exact (not_both_halves hm hsE hs hx hd he' he).elim
      · rw [hsecond, hsecond']

theorem nodup_corners_split (hm : Midpoints m E) (hsE : ∀ e ∈ s.edges, e ∈ E)
    (hs : s.Proper) :
    [s.a, s.b, s.c, m s.a s.b, m s.b s.c, m s.c s.a].Nodup := by
  have hab := hsE _ s.ab_mem_edges
  have hbc := hsE _ s.bc_mem_edges
  have hca := hsE _ s.ca_mem_edges
  have hinj_ab := hm.inj _ hab _ hbc
  have hinj_bc := hm.inj _ hbc _ hca
  have hinj_ca := hm.inj _ hca _ hab
  have hfresh := hm.fresh
  rcases hs with ⟨hne_ab, hne_bc, hne_ca⟩
  simp only [Prod.mk.injEq, Prod.swap_prod_mk] at hinj_ab hinj_bc hinj_ca
  have hfresh_ab := And.intro (hfresh _ hab _ hab) (hfresh _ hab _ hbc)
  have hfresh_bc := And.intro (hfresh _ hbc _ hab) (hfresh _ hbc _ hbc)
  have hfresh_ca := And.intro (hfresh _ hca _ hab) (hfresh _ hca _ hbc)
  simp only [List.nodup_cons, List.mem_cons, List.not_mem_nil, or_false,
    not_or, not_false_eq_true, List.nodup_nil, and_true]
  grind

theorem pairwise_apart_split (hm : Midpoints m E)
    (hsE : ∀ e ∈ s.edges, e ∈ E) (hs : s.Proper) :
    (s.split m).Pairwise Triangle.Apart := by
  have hnodup := nodup_corners_split hm hsE hs
  -- the parts of any triangle are these four, up to the names of the corners
  have hparts : [(⟨0, 3, 5⟩ : Triangle (Fin 6)), ⟨1, 4, 3⟩, ⟨2, 5, 4⟩,
      ⟨3, 4, 5⟩].Pairwise Triangle.Apart := by
    decide
  have hmap := hparts.map (Triangle.map fun i =>
    [s.a, s.b, s.c, m s.a s.b, m s.b s.c, m s.c s.a].get i)
    fun _ _ => Triangle.Apart.map (List.nodup_iff_injective_get.mp hnodup)
  exact hmap

end Split

/-!
## Splitting keeps a surface closed
-/

theorem length_subdivide (m : V -> V -> V) (faces : List (Triangle V)) :
    (subdivide m faces).length = 4 * faces.length := by
  induction faces with
  | nil => rfl
  | cons t rest ih =>
      unfold subdivide at ih ⊢
      rw [List.flatMap_cons, List.length_append, ih, List.length_cons]
      show 4 + 4 * rest.length = 4 * (rest.length + 1)
      lia

theorem Midpoints.proper_split {m : V -> V -> V} {E : List (V × V)}
    (hm : Midpoints m E) {s : Triangle V} (hsE : ∀ e ∈ s.edges, e ∈ E)
    (hs : s.Proper) : ∀ x ∈ s.split m, x.Proper := by
  have hnodup := nodup_corners_split hm hsE hs
  intro x hx
  rw [Triangle.mem_split] at hx
  simp only [List.nodup_cons, List.mem_cons, List.not_mem_nil, or_false,
    not_or] at hnodup
  unfold Triangle.Proper
  grind

theorem Closed.subdivide {faces : List (Triangle V)} (h : Closed faces)
    {m : V -> V -> V} (hm : Midpoints m (edges faces)) :
    Closed (subdivide m faces) where
  proper := by
    intro x hx
    rcases List.mem_flatMap.mp hx with ⟨t, ht, hx⟩
    exact hm.proper_split (fun e he => mem_edges_faces.mpr ⟨t, ht, he⟩)
      (h.proper t ht) x hx
  apart := by
    refine List.pairwise_flatMap.mpr ⟨?_, ?_⟩
    · intro t ht
      exact pairwise_apart_split hm
        (fun e he => mem_edges_faces.mpr ⟨t, ht, he⟩) (h.proper t ht)
    · refine h.apart.imp_of_mem ?_
      intro s t hs ht hapart x hx y hy
      exact apart_of_mem_split hm
        (fun e he => mem_edges_faces.mpr ⟨s, hs, he⟩)
        (fun e he => mem_edges_faces.mpr ⟨t, ht, he⟩) (h.proper s hs)
        (h.proper t ht) hapart hx hy
  swap_mem := by
    intro e he
    have hsplit : ∀ t ∈ faces, forall e, SplitEdge m t e ->
        e ∈ edges (Foundation.subdivide m faces) := by
      intro t ht e he
      rcases he.exists_mem with ⟨x, hx, hmem⟩
      exact mem_edges_faces.mpr ⟨x, List.mem_flatMap.mpr ⟨t, ht, hx⟩, hmem⟩
    rcases mem_edges_faces.mp he with ⟨x, hx, he⟩
    rcases List.mem_flatMap.mp hx with ⟨t, ht, hx⟩
    have hcase := splitEdge_of_mem (h.proper t ht) hx he
    cases hcase with
    | first d hd =>
        rcases mem_edges_faces.mp (h.swap_mem d
          (mem_edges_faces.mpr ⟨t, ht, hd⟩)) with ⟨t', ht', hd'⟩
        rw [hm.comm d.1 d.2]
        exact hsplit t' ht' _ (SplitEdge.second d.swap hd')
    | second d hd =>
        rcases mem_edges_faces.mp (h.swap_mem d
          (mem_edges_faces.mpr ⟨t, ht, hd⟩)) with ⟨t', ht', hd'⟩
        rw [hm.comm d.1 d.2]
        exact hsplit t' ht' _ (SplitEdge.first d.swap hd')
    | inner d d' hd hd' hne =>
        exact hsplit t ht _ (SplitEdge.inner d' d hd' hd hne.symm)

/-!
## Counting
-/

theorem length_edges (faces : List (Triangle V)) :
    (edges faces).length = 3 * faces.length := by
  induction faces with
  | nil => rfl
  | cons t rest ih =>
      unfold edges at ih ⊢
      rw [List.flatMap_cons, List.length_append, ih, List.length_cons]
      show 3 + 3 * rest.length = 3 * (rest.length + 1)
      lia

theorem Closed.nodup_edges {faces : List (Triangle V)} (h : Closed faces) :
    (edges faces).Nodup := by
  refine List.nodup_flatMap.mpr ⟨?_, ?_⟩
  · intro t ht
    exact (h.proper t ht).nodup_edges
  · refine h.apart.imp ?_
    intro s t hapart e hs ht
    exact hapart.left e hs ht

theorem Closed.ne_of_mem {faces : List (Triangle V)} (h : Closed faces)
    {e : V × V} (he : e ∈ edges faces) : e.1 ≠ e.2 := by
  rcases mem_edges_faces.mp he with ⟨t, ht, he⟩
  exact (h.proper t ht).ne_of_mem he

theorem countP_eq_one_of_pairwise {α : Type} {test : α -> Bool} {l : List α}
    (h : l.Pairwise fun x y => test x = true -> test y = false)
    (hex : ∃ x ∈ l, test x = true) : l.countP test = 1 := by
  induction l with
  | nil =>
      rcases hex with ⟨x, hx, _⟩
      cases hx
  | cons x rest ih =>
      rcases List.pairwise_cons.mp h with ⟨hhead, hrest⟩
      rw [List.countP_cons]
      by_cases hx : test x = true
      · have hnone : rest.countP test = 0 := by
          refine List.countP_eq_zero.mpr ?_
          intro y hy
          rw [hhead y hy hx]
          exact Bool.false_ne_true
        rw [hnone, if_pos hx]
      · rw [if_neg hx]
        rcases hex with ⟨y, hy, htest⟩
        rcases List.mem_cons.mp hy with rfl | hy
        · exact absurd htest hx
        · exact ih hrest ⟨y, hy, htest⟩

theorem Closed.countP_eq_one [DecidableEq V] {faces : List (Triangle V)}
    (h : Closed faces) {e : V × V} (he : e ∈ edges faces) :
    faces.countP (fun t => decide (e ∈ t.edges)) = 1 := by
  refine countP_eq_one_of_pairwise ?_ ?_
  · refine h.apart.imp ?_
    intro s t hapart hs
    exact decide_eq_false (hapart.left e (of_decide_eq_true hs))
  · rcases mem_edges_faces.mp he with ⟨t, ht, he⟩
    exact ⟨t, ht, decide_eq_true he⟩

/-- The edges that lead upwards, one for each pair of opposite ones. -/
def upward [LinearOrder V] (E : List (V × V)) : List (V × V) :=
  E.filter fun e => decide (e.1 < e.2)

theorem mem_upward [LinearOrder V] {E : List (V × V)} {e : V × V} :
    e ∈ upward E <-> e ∈ E ∧ e.1 < e.2 := by
  unfold upward
  rw [List.mem_filter, decide_eq_true_iff]

theorem Closed.nodup_upward [LinearOrder V] {faces : List (Triangle V)}
    (h : Closed faces) : (upward (edges faces)).Nodup :=
  h.nodup_edges.filter _

theorem Closed.length_upward [LinearOrder V] {faces : List (Triangle V)}
    (h : Closed faces) :
    2 * (upward (edges faces)).length = 3 * faces.length := by
  let downward := (edges faces).filter fun e => !decide (e.1 < e.2)
  have hdownward : (upward (edges faces)).map Prod.swap |>.Perm downward := by
    refine (List.perm_ext_iff_of_nodup
      (h.nodup_upward.map Prod.swap_injective)
      (h.nodup_edges.filter _)).mpr ?_
    intro e
    constructor
    · intro he
      rcases List.mem_map.mp he with ⟨d, hd, rfl⟩
      rcases mem_upward.mp hd with ⟨hmem, hlt⟩
      refine List.mem_filter.mpr ⟨h.swap_mem d hmem, ?_⟩
      rw [Bool.not_eq_true', decide_eq_false_iff_not]
      exact not_lt.mpr (le_of_lt hlt)
    · intro he
      rcases List.mem_filter.mp he with ⟨hmem, hdown⟩
      rw [Bool.not_eq_true', decide_eq_false_iff_not, not_lt] at hdown
      refine List.mem_map.mpr ⟨e.swap, mem_upward.mpr
        ⟨h.swap_mem e hmem, ?_⟩, Prod.swap_swap e⟩
      exact lt_of_le_of_ne hdown (h.ne_of_mem hmem).symm
  have hlength := hdownward.length_eq
  have hsplit := List.length_eq_length_filter_add
    (l := edges faces) fun e => decide (e.1 < e.2)
  rw [List.length_map] at hlength
  rw [length_edges] at hsplit
  change _ = (upward (edges faces)).length + downward.length at hsplit
  lia

end Foundation
end Numen
