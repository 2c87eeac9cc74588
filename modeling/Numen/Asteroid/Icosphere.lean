import Numen.Foundation.Arithmetic
import Numen.Foundation.Storage
import Numen.Foundation.Surface

/-!
# The asteroid blank

The blank of an asteroid is an icosahedron, subdivided level by level.  A cache
keyed by the ends of an edge hands out the midpoints, so that neighbouring
triangles share them.  Coordinates are left to the geometry; what is modelled is
which vertices the triangles name.
-/

namespace Numen
namespace Asteroid

open Foundation

structure Geometry (Point : Type) where
  corners : Vector Point 12
  normalize : Point -> Point
  average : Point -> Point -> Point

structure Mesh (Point : Type) where
  vertices : List Point
  faces : List (Triangle Nat)

def icosahedron : List (Triangle Nat) :=
  [⟨0, 11, 5⟩, ⟨0, 5, 1⟩, ⟨0, 1, 7⟩, ⟨0, 7, 10⟩, ⟨0, 10, 11⟩,
    ⟨1, 5, 9⟩, ⟨5, 11, 4⟩, ⟨11, 10, 2⟩, ⟨10, 7, 6⟩, ⟨7, 1, 8⟩,
    ⟨3, 9, 4⟩, ⟨3, 4, 2⟩, ⟨3, 2, 6⟩, ⟨3, 6, 8⟩, ⟨3, 8, 9⟩,
    ⟨4, 9, 5⟩, ⟨2, 4, 11⟩, ⟨6, 2, 10⟩, ⟨8, 6, 7⟩, ⟨9, 8, 1⟩]

structure Work (Point : Type) where
  midpoint : StorageMap (Nat × Nat) Nat
  vertices : List Point

def edgeKey (a b : Nat) : Nat × Nat :=
  if a < b then (a, b) else (b, a)

variable {Point : Type}

/-- The midpoint of an edge, taken from the cache if it is there.  `none` is an
index out of bounds. -/
def getMid (geometry : Geometry Point) (a b : Nat) (w : Work Point) :
    Option (Nat × Work Point) :=
  match w.midpoint.get (edgeKey a b) with
  | some index => some (index, w)
  | none => do
      let va <- w.vertices[a]?
      let vb <- w.vertices[b]?
      let mid := geometry.normalize (geometry.average va vb)
      let index := w.vertices.length % 2 ^ 32
      return (index,
        { midpoint := w.midpoint.insert (edgeKey a b) index
          vertices := w.vertices ++ [mid] })

def subdivideFace (geometry : Geometry Point) (f : Triangle Nat)
    (w : Work Point) : Option (List (Triangle Nat) × Work Point) := do
  let (a, w) <- getMid geometry f.a f.b w
  let (b, w) <- getMid geometry f.b f.c w
  let (c, w) <- getMid geometry f.c f.a w
  return ([⟨f.a, a, c⟩, ⟨f.b, b, a⟩, ⟨f.c, c, b⟩, ⟨a, b, c⟩], w)

def subdivideFaces (geometry : Geometry Point) :
    List (Triangle Nat) -> Work Point ->
      Option (List (Triangle Nat) × Work Point)
  | [], w => some ([], w)
  | f :: rest, w => do
      let (parts, w) <- subdivideFace geometry f w
      let (newFaces, w) <- subdivideFaces geometry rest w
      return (parts ++ newFaces, w)

def subdivideMesh (geometry : Geometry Point) (mesh : Mesh Point) :
    Option (Mesh Point) := do
  let (newFaces, w) <- subdivideFaces geometry mesh.faces
    ⟨StorageMap.empty, mesh.vertices⟩
  return ⟨w.vertices, newFaces⟩

def icosphere (geometry : Geometry Point) : Nat -> Option (Mesh Point)
  | 0 => some ⟨(geometry.corners.map geometry.normalize).toList, icosahedron⟩
  | subdivisions + 1 =>
      (icosphere geometry subdivisions).bind (subdivideMesh geometry)

def sculpt (relief : Point -> Point) (mesh : Mesh Point) : Mesh Point :=
  { mesh with vertices := mesh.vertices.map relief }

/-- `asteroid`; the shape drawn from a seed enters as what it does to a
vertex. -/
def asteroid (geometry : Geometry Point)
    (relief : Vector UInt8 32 -> Point -> Point) (seed : Vector UInt8 32)
    (subdivisions : Nat) : Option (Mesh Point) :=
  (icosphere geometry subdivisions).map (sculpt (relief seed))

/-!
## Keys
-/

theorem edgeKey_comm (a b : Nat) : edgeKey a b = edgeKey b a := by
  unfold edgeKey
  split
  · rename_i h
    rw [if_neg (Nat.lt_asymm h)]
  · split
    · rfl
    · have heq : a = b := by lia
      rw [heq]

theorem eq_or_swap_of_edgeKey {e d : Nat × Nat}
    (h : edgeKey e.1 e.2 = edgeKey d.1 d.2) : d = e ∨ d = e.swap := by
  rcases e with ⟨u, v⟩
  rcases d with ⟨u', v'⟩
  unfold edgeKey at h
  dsimp only at h
  simp only [Prod.mk.injEq, Prod.swap_prod_mk]
  split at h
  · split at h
    · rw [Prod.mk.injEq] at h
      lia
    · rw [Prod.mk.injEq] at h
      lia
  · split at h
    · rw [Prod.mk.injEq] at h
      lia
    · rw [Prod.mk.injEq] at h
      lia

theorem edgeKey_mem_upward {faces : List (Triangle Nat)} (h : Closed faces)
    {e : Nat × Nat} (he : e ∈ edges faces) :
    edgeKey e.1 e.2 ∈ upward (edges faces) := by
  have hne := h.ne_of_mem he
  unfold edgeKey
  split
  · rename_i hlt
    exact mem_upward.mpr ⟨he, hlt⟩
  · rename_i hlt
    exact mem_upward.mpr ⟨h.swap_mem e he, by lia⟩

/-!
## The cache
-/

def Work.mid (w : Work Point) (u v : Nat) : Nat :=
  (w.midpoint.get (edgeKey u v)).getD 0

def Work.Extends (w w' : Work Point) : Prop :=
  forall key index, w.midpoint.get key = some index ->
    w'.midpoint.get key = some index

/-- Every vertex beyond the first `base` is the midpoint of one of the keys. -/
structure Cache (base : Nat) (keys : List (Nat × Nat)) (w : Work Point) :
    Prop where
  size : w.vertices.length = base + w.midpoint.keys.length
  known : forall key index, w.midpoint.get key = some index -> key ∈ keys
  range : forall key index, w.midpoint.get key = some index ->
    base ≤ index ∧ index < w.vertices.length
  inj : forall key key' index, w.midpoint.get key = some index ->
    w.midpoint.get key' = some index -> key = key'

theorem cache_empty (keys : List (Nat × Nat)) (vertices : List Point) :
    Cache vertices.length keys ⟨StorageMap.empty, vertices⟩ := by
  have hnone : forall key index, (StorageMap.empty :
      StorageMap (Nat × Nat) Nat).get key ≠ some index := by
    intro key index hget
    rw [StorageMap.get_empty] at hget
    cases hget
  constructor
  · rfl
  · intro key index hget
    exact absurd hget (hnone key index)
  · intro key index hget
    exact absurd hget (hnone key index)
  · intro key key' index hget
    exact absurd hget (hnone key index)

theorem Cache.length_le {base : Nat} {keys : List (Nat × Nat)}
    {w : Work Point} (h : Cache base keys w) :
    w.midpoint.keys.length ≤ keys.length := by
  have hsubset : w.midpoint.keys ⊆ keys := by
    intro key hkey
    rcases StorageMap.mem_keys.mp hkey with ⟨index, hget⟩
    exact h.known key index hget
  exact (w.midpoint.nodup_keys.subperm hsubset).length_le

theorem Work.mid_of_get {w : Work Point} {u v index : Nat}
    (h : w.midpoint.get (edgeKey u v) = some index) : w.mid u v = index := by
  unfold Work.mid
  rw [h]
  rfl

theorem Work.Extends.mid_eq {w w' : Work Point} (h : w.Extends w')
    {u v index : Nat} (hget : w.midpoint.get (edgeKey u v) = some index) :
    w'.mid u v = w.mid u v := by
  rw [Work.mid_of_get hget, Work.mid_of_get (h _ _ hget)]

section Level

variable {base : Nat} {keys : List (Nat × Nat)}
variable (hroom : base + keys.length < 2 ^ 32)
include hroom

theorem Cache.insert {w : Work Point} (h : Cache base keys w)
    {key : Nat × Nat} (hkey : key ∈ keys) (hnone : w.midpoint.get key = none)
    (point : Point) :
    Cache base keys
      ⟨w.midpoint.insert key (w.vertices.length % 2 ^ 32),
        w.vertices ++ [point]⟩ := by
  have hlength := h.length_le
  have hsize := h.size
  have hindex : w.vertices.length % 2 ^ 32 = w.vertices.length :=
    Nat.mod_eq_of_lt (by lia)
  rw [hindex]
  constructor
  · show (w.vertices ++ [point]).length =
      base + (w.midpoint.insert key w.vertices.length).keys.length
    rw [List.length_append, List.length_singleton,
      StorageMap.length_keys_insert hnone]
    lia
  · intro other index hget
    rcases StorageMap.get_insert_cases hget with ⟨hself, _⟩ | hold
    · rw [hself]
      exact hkey
    · exact h.known other index hold
  · intro other index hget
    show base ≤ index ∧ index < (w.vertices ++ [point]).length
    rw [List.length_append, List.length_singleton]
    rcases StorageMap.get_insert_cases hget with ⟨_, hnew⟩ | hold
    · lia
    · have hrange := h.range other index hold
      lia
  · intro first second index hfirst hsecond
    rcases StorageMap.get_insert_cases hfirst with ⟨hself, hnew⟩ | hold
    · rcases StorageMap.get_insert_cases hsecond with ⟨hself', _⟩ | hold'
      · rw [hself, hself']
      · have hrange := h.range second index hold'
        lia
    · rcases StorageMap.get_insert_cases hsecond with ⟨_, hnew⟩ | hold'
      · have hrange := h.range first index hold
        lia
      · exact h.inj first second index hold hold'

theorem getMid_spec (geometry : Geometry Point) {w : Work Point}
    (h : Cache base keys w) {a b : Nat} (hkey : edgeKey a b ∈ keys)
    (ha : a < base) (hb : b < base) :
    exists index w', getMid geometry a b w = some (index, w') ∧
      w'.midpoint.get (edgeKey a b) = some index ∧ Cache base keys w' ∧
      w.Extends w' := by
  unfold getMid
  cases hget : w.midpoint.get (edgeKey a b) with
  | some index =>
      exact ⟨index, w, rfl, hget, h, fun _ _ hold => hold⟩
  | none =>
      have hsize := h.size
      have hva : a < w.vertices.length := by lia
      have hvb : b < w.vertices.length := by lia
      dsimp only
      rw [List.getElem?_eq_getElem hva, List.getElem?_eq_getElem hvb]
      refine ⟨_, _, rfl, StorageMap.get_insert_self _ _ _,
        h.insert hroom hkey hget _, ?_⟩
      intro key index hold
      show (w.midpoint.insert _ _).get key = some index
      rw [StorageMap.get_insert_of_ne]
      · exact hold
      · rintro rfl
        rw [hget] at hold
        cases hold

/-- What a loop over some of the faces leaves: their midpoints are cached, and
it has made the parts the cache stands for. -/
structure Subdivided (base : Nat) (keys : List (Nat × Nat)) (w : Work Point)
    (faces newFaces : List (Triangle Nat)) (w' : Work Point) : Prop where
  cache : Cache base keys w'
  extended : w.Extends w'
  found : ∀ e ∈ edges faces,
    exists index, w'.midpoint.get (edgeKey e.1 e.2) = some index
  newFaces : newFaces = subdivide w'.mid faces

theorem subdivideFace_spec (geometry : Geometry Point) {w : Work Point}
    (h : Cache base keys w) {f : Triangle Nat}
    (hkeys : ∀ e ∈ f.edges, edgeKey e.1 e.2 ∈ keys)
    (hbase : ∀ corner ∈ f.corners, corner < base) :
    exists parts w', subdivideFace geometry f w = some (parts, w') ∧
      Subdivided base keys w [f] parts w' := by
  have hedge : forall u v, (u, v) ∈ f.edges -> edgeKey u v ∈ keys :=
    fun u v he => hkeys (u, v) he
  have ha : f.a < base := hbase f.a (by simp [Triangle.corners])
  have hb : f.b < base := hbase f.b (by simp [Triangle.corners])
  have hc : f.c < base := hbase f.c (by simp [Triangle.corners])
  rcases getMid_spec hroom geometry h (hedge f.a f.b f.ab_mem_edges) ha
    hb with ⟨ab, w₁, hab, hgetab, hcache₁, hext₁⟩
  rcases getMid_spec hroom geometry hcache₁ (hedge f.b f.c f.bc_mem_edges) hb
    hc with ⟨bc, w₂, hbc, hgetbc, hcache₂, hext₂⟩
  rcases getMid_spec hroom geometry hcache₂ (hedge f.c f.a f.ca_mem_edges) hc
    ha with ⟨ca, w₃, hca, hgetca, hcache₃, hext₃⟩
  have hgetbc' := hext₃ _ _ hgetbc
  have hgetab' := hext₃ _ _ (hext₂ _ _ hgetab)
  refine ⟨[⟨f.a, ab, ca⟩, ⟨f.b, bc, ab⟩, ⟨f.c, ca, bc⟩, ⟨ab, bc, ca⟩], w₃, ?_,
    hcache₃, ?_, ?_, ?_⟩
  · unfold subdivideFace
    rw [hab]
    show (getMid geometry f.b f.c w₁).bind _ = _
    rw [hbc]
    show (getMid geometry f.c f.a w₂).bind _ = _
    rw [hca]
    rfl
  · intro key index hget
    exact hext₃ _ _ (hext₂ _ _ (hext₁ _ _ hget))
  · intro e he
    rw [edges, List.flatMap_singleton] at he
    rcases Triangle.mem_edges.mp he with rfl | rfl | rfl
    · exact ⟨ab, hgetab'⟩
    · exact ⟨bc, hgetbc'⟩
    · exact ⟨ca, hgetca⟩
  · rw [subdivide, List.flatMap_singleton]
    unfold Triangle.split
    rw [Work.mid_of_get hgetab', Work.mid_of_get hgetbc',
      Work.mid_of_get hgetca]

omit hroom in
theorem Subdivided.cons {w w₁ w₂ : Work Point} {f : Triangle Nat}
    {rest parts newFaces : List (Triangle Nat)}
    (hfirst : Subdivided base keys w [f] parts w₁)
    (hrest : Subdivided base keys w₁ rest newFaces w₂) :
    Subdivided base keys w (f :: rest) (parts ++ newFaces) w₂ where
  cache := hrest.cache
  extended := fun key index hget =>
    hrest.extended key index (hfirst.extended key index hget)
  found := by
    intro e he
    rcases List.mem_append.mp he with hhead | htail
    · rcases hfirst.found e (by simpa [edges] using hhead) with ⟨index, hget⟩
      exact ⟨index, hrest.extended _ _ hget⟩
    · exact hrest.found e htail
  newFaces := by
    have hsame : f.split w₁.mid = f.split w₂.mid := by
      refine Triangle.split_congr ?_
      intro e he
      rcases hfirst.found e (by simpa [edges] using he) with ⟨index, hget⟩
      exact (hrest.extended.mid_eq hget).symm
    rw [hfirst.newFaces, hrest.newFaces]
    unfold subdivide
    rw [List.flatMap_singleton, List.flatMap_cons, hsame]

theorem subdivideFaces_spec (geometry : Geometry Point)
    {faces : List (Triangle Nat)}
    (hkeys : ∀ f ∈ faces, ∀ e ∈ f.edges, edgeKey e.1 e.2 ∈ keys)
    (hbase : ∀ f ∈ faces, ∀ corner ∈ f.corners, corner < base)
    {w : Work Point} (h : Cache base keys w) :
    exists newFaces w', subdivideFaces geometry faces w =
        some (newFaces, w') ∧ Subdivided base keys w faces newFaces w' := by
  induction faces generalizing w with
  | nil =>
      refine ⟨[], w, rfl, h, fun _ _ hget => hget, ?_, rfl⟩
      intro e he
      cases he
  | cons f rest ih =>
      rcases subdivideFace_spec hroom geometry h (hkeys f List.mem_cons_self)
        (hbase f List.mem_cons_self) with ⟨parts, w₁, hface, hfirst⟩
      rcases ih (fun g hg => hkeys g (List.mem_cons_of_mem f hg))
        (fun g hg => hbase g (List.mem_cons_of_mem f hg)) hfirst.cache with
        ⟨newFaces, w₂, hfaces, hrest⟩
      refine ⟨parts ++ newFaces, w₂, ?_, hfirst.cons hrest⟩
      unfold subdivideFaces
      rw [hface]
      show (subdivideFaces geometry rest w₁).bind _ = _
      rw [hfaces]
      rfl

end Level

/-!
## The cache of a whole level
-/

theorem Subdivided.midpoints {base : Nat} {keys : List (Nat × Nat)}
    {w w' : Work Point} {faces newFaces : List (Triangle Nat)}
    (h : Subdivided base keys w faces newFaces w')
    (hbase : ∀ f ∈ faces, ∀ corner ∈ f.corners, corner < base) :
    Midpoints w'.mid (edges faces) where
  comm := by
    intro u v
    unfold Work.mid
    rw [edgeKey_comm]
  inj := by
    intro e he d hd heq
    rcases h.found e he with ⟨index, hget⟩
    rcases h.found d hd with ⟨index', hget'⟩
    rw [Work.mid_of_get hget, Work.mid_of_get hget'] at heq
    subst heq
    exact eq_or_swap_of_edgeKey (h.cache.inj _ _ _ hget hget')
  fresh := by
    intro e he d hd
    rcases h.found e he with ⟨index, hget⟩
    rcases mem_edges_faces.mp hd with ⟨f, hf, hd⟩
    have hrange := h.cache.range _ _ hget
    have hends : d.1 < base ∧ d.2 < base := by
      have hcorner := hbase f hf
      simp only [Triangle.corners, List.mem_cons, List.not_mem_nil, or_false,
        forall_eq_or_imp, forall_eq] at hcorner
      rcases Triangle.mem_edges.mp hd with rfl | rfl | rfl
      · exact ⟨hcorner.left, hcorner.right.left⟩
      · exact hcorner.right
      · exact ⟨hcorner.right.right, hcorner.left⟩
    rw [Work.mid_of_get hget]
    lia

theorem Subdivided.length_vertices {base : Nat} {w w' : Work Point}
    {faces newFaces : List (Triangle Nat)}
    (h : Subdivided base (upward (edges faces)) w faces newFaces w')
    (hclosed : Closed faces) :
    w'.vertices.length = base + (upward (edges faces)).length := by
  have hperm : w'.midpoint.keys.Perm (upward (edges faces)) := by
    refine (List.perm_ext_iff_of_nodup w'.midpoint.nodup_keys
      hclosed.nodup_upward).mpr ?_
    intro key
    rw [StorageMap.mem_keys]
    constructor
    · rintro ⟨index, hget⟩
      exact h.cache.known key index hget
    · intro hkey
      rcases mem_upward.mp hkey with ⟨hmem, hlt⟩
      have hself : edgeKey key.1 key.2 = key := if_pos hlt
      rw [← hself]
      exact h.found key hmem
  rw [h.cache.size, hperm.length_eq]

theorem Subdivided.bounded {base : Nat} {keys : List (Nat × Nat)}
    {w w' : Work Point} {faces newFaces : List (Triangle Nat)}
    (h : Subdivided base keys w faces newFaces w')
    (hbase : ∀ f ∈ faces, ∀ corner ∈ f.corners, corner < base) :
    ∀ f ∈ subdivide w'.mid faces, ∀ corner ∈ f.corners,
      corner < w'.vertices.length := by
  intro part hpart corner hcorner
  rcases List.mem_flatMap.mp hpart with ⟨f, hf, hpart⟩
  rcases corner_of_mem_split hpart hcorner with hold | ⟨d, hd, hmid⟩
  · have hlt := hbase f hf corner hold
    have hsize := h.cache.size
    lia
  · rcases h.found d (mem_edges_faces.mpr ⟨f, hf, hd⟩) with ⟨index, hget⟩
    rw [hmid, Work.mid_of_get hget]
    exact (h.cache.range _ _ hget).right

/-!
## Every level
-/

structure Welded (n : Nat) (mesh : Mesh Point) : Prop where
  closed : Closed mesh.faces
  faces : mesh.faces.length = 20 * 4 ^ n
  vertices : mesh.vertices.length = 10 * 4 ^ n + 2
  bounded : ∀ f ∈ mesh.faces, ∀ corner ∈ f.corners,
    corner < mesh.vertices.length

theorem icosahedron_closed : Closed icosahedron where
  proper := by decide
  apart := by decide +kernel
  swap_mem := by decide +kernel

theorem icosahedron_welded (geometry : Geometry Point) :
    Welded 0 (⟨(geometry.corners.map geometry.normalize).toList,
      icosahedron⟩ : Mesh Point) where
  closed := icosahedron_closed
  faces := rfl
  vertices := Vector.length_toList
  bounded := by
    have hcorners : ∀ f ∈ icosahedron, ∀ corner ∈ f.corners, corner < 12 := by
      decide
    intro f hf corner hcorner
    rw [Vector.length_toList]
    exact hcorners f hf corner hcorner

theorem subdivideMesh_welded (geometry : Geometry Point) {n : Nat}
    {mesh : Mesh Point} (h : Welded n mesh)
    (hsize : 10 * 4 ^ (n + 1) + 2 < 2 ^ 32) :
    exists mesh', subdivideMesh geometry mesh = some mesh' ∧
      Welded (n + 1) mesh' := by
  have hfaces := h.faces
  have hvertices := h.vertices
  have hedges := h.closed.length_upward
  rw [Nat.pow_succ] at hsize
  have hroom : mesh.vertices.length + (upward (edges mesh.faces)).length <
      2 ^ 32 := by
    lia
  have hempty := cache_empty (upward (edges mesh.faces)) mesh.vertices
  rcases subdivideFaces_spec hroom geometry
    (fun f hf e he => edgeKey_mem_upward h.closed
      (mem_edges_faces.mpr ⟨f, hf, he⟩)) h.bounded hempty with
    ⟨newFaces, w, hloop, hdone⟩
  have hlength := hdone.length_vertices h.closed
  refine ⟨⟨w.vertices, newFaces⟩, ?_, ?_⟩
  · unfold subdivideMesh
    rw [hloop]
    rfl
  have hmid := hdone.midpoints h.bounded
  have hnew := hdone.newFaces
  constructor
  · show Closed newFaces
    rw [hnew]
    exact h.closed.subdivide hmid
  · show newFaces.length = _
    rw [hnew, length_subdivide, Nat.pow_succ]
    lia
  · show w.vertices.length = _
    rw [Nat.pow_succ]
    lia
  · rw [hnew]
    exact hdone.bounded h.bounded

theorem icosphere_welded (geometry : Geometry Point) (n : Nat)
    (hsize : 10 * 4 ^ n + 2 < 2 ^ 32) :
    exists mesh, icosphere geometry n = some mesh ∧ Welded n mesh := by
  induction n with
  | zero => exact ⟨_, rfl, icosahedron_welded geometry⟩
  | succ n ih =>
      have hbelow : 10 * 4 ^ n + 2 < 2 ^ 32 := by
        rw [Nat.pow_succ] at hsize
        lia
      rcases ih hbelow with ⟨mesh, hmesh, hwelded⟩
      rcases subdivideMesh_welded geometry hwelded hsize with
        ⟨mesh', hmesh', hwelded'⟩
      refine ⟨mesh', ?_, hwelded'⟩
      unfold icosphere
      rw [hmesh]
      exact hmesh'

/-- At every level whose vertices a `u32` can number, the blank is a closed and
consistently oriented surface of the expected size, and sculpting it for any
seed changes neither the faces nor the number of vertices. -/
theorem blank_is_closed_at_every_level (geometry : Geometry Point)
    (relief : Vector UInt8 32 -> Point -> Point) (n : Nat)
    (hsize : 10 * 4 ^ n + 2 < 2 ^ 32) :
    exists mesh, icosphere geometry n = some mesh ∧
      mesh.faces.length = 20 * 4 ^ n ∧
      mesh.vertices.length = 10 * 4 ^ n + 2 ∧
      (∀ f ∈ mesh.faces, ∀ index ∈ [f.a, f.b, f.c],
        index < mesh.vertices.length) ∧
      (∀ f ∈ mesh.faces, f.a ≠ f.b ∧ f.b ≠ f.c ∧ f.c ≠ f.a) ∧
      (∀ f ∈ mesh.faces,
        ∀ e ∈ [(f.a, f.b), (f.b, f.c), (f.c, f.a)],
          mesh.faces.countP (fun g => decide (e ∈ g.edges)) = 1 ∧
          mesh.faces.countP (fun g => decide (e.swap ∈ g.edges)) = 1) ∧
      forall seed, exists sculpted,
        asteroid geometry relief seed n = some sculpted ∧
          sculpted.faces = mesh.faces ∧
          sculpted.vertices.length = mesh.vertices.length := by
  rcases icosphere_welded geometry n hsize with ⟨mesh, hmesh, hwelded⟩
  refine ⟨mesh, hmesh, hwelded.faces, hwelded.vertices, hwelded.bounded,
    hwelded.closed.proper, ?_, ?_⟩
  · intro f hf e he
    have hmem : e ∈ edges mesh.faces := mem_edges_faces.mpr ⟨f, hf, he⟩
    exact ⟨hwelded.closed.countP_eq_one hmem,
      hwelded.closed.countP_eq_one (hwelded.closed.swap_mem e hmem)⟩
  · intro seed
    refine ⟨sculpt (relief seed) mesh, ?_, rfl, List.length_map _⟩
    unfold asteroid
    rw [hmesh]
    rfl

def lineGeometry : Geometry Nat where
  corners := Vector.replicate 12 0
  normalize := id
  average := fun a b => (a + b) / 2

theorem third_level_is_closed :
    exists mesh, icosphere lineGeometry 3 = some mesh ∧
      mesh.faces.length = 1280 ∧ mesh.vertices.length = 642 := by
  rcases blank_is_closed_at_every_level lineGeometry (fun _ => id) 3
    (by decide) with ⟨mesh, hmesh, hfaces, hvertices, _⟩
  exact ⟨mesh, hmesh, hfaces, hvertices⟩

end Asteroid
end Numen
