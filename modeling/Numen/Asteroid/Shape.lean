import Numen.Asteroid.Icosphere
import Numen.Asteroid.Perlin

/-!
# The shape of an asteroid

The generator from the seed to the mesh: the parameters it draws, the relief,
lobes and craters it puts on the blank, and the axes it stretches it along.
Numbers stay abstract, every draw and every lookup is made as in the code.
-/

namespace Numen
namespace Asteroid

/-- The rest of the arithmetic.  `lit n k` is the literal `n / 10 ^ k`. -/
structure Maths (F : Type) extends Floats F where
  lit : Int -> Nat -> F
  pi : F
  sqrt : F -> F
  cos : F -> F
  sin : F -> F
  pow : F -> F -> F
  fmin : F -> F -> F
  fmax : F -> F -> F
  lt : F -> F -> Bool
  clamp : F -> F -> F -> F

variable {F Rng : Type}

/-!
## Drawing
-/

section Drawing

variable (m : Maths F) (draws : Draws Rng)

def unit : StateM Rng F :=
  draws.unit m.toFloats

def range (low high : F) : StateM Rng F := do
  let u <- unit m draws
  return m.add low (m.mul u (m.sub high low))

/-- A point on the unit sphere. -/
def unitVector : StateM Rng (Vector F 3) := do
  let z := m.sub (m.mul (m.lit 2 0) (<- unit m draws)) (m.lit 1 0)
  let phi := m.mul (m.mul (m.lit 2 0) m.pi) (<- unit m draws)
  let r := m.sqrt (m.sub (m.lit 1 0) (m.mul z z))
  return #v[m.mul r (m.cos phi), m.mul r (m.sin phi), z]

def nextU64 : StateM Rng UInt64 :=
  draws.nextU64

def leBytes (word : UInt64) : Vector UInt8 8 :=
  Vector.ofFn fun i => (word >>> (8 * UInt64.ofNat i.val)).toUInt8

/-- Four words in little-endian order. -/
def nextSeed : StateM Rng (Vector UInt8 32) := do
  let first <- nextU64 draws
  let second <- nextU64 draws
  let third <- nextU64 draws
  let fourth <- nextU64 draws
  return leBytes first ++ leBytes second ++ leBytes third ++ leBytes fourth

/-- `count` rounds of a loop that pushes what it draws. -/
def drawMany {α : Type} (draw : StateM Rng α) : Nat -> StateM Rng (List α)
  | 0 => return []
  | count + 1 => do
      let first <- draw
      let rest <- drawMany draw count
      return first :: rest

end Drawing

/-!
## Parameters
-/

structure Lobe (F : Type) where
  dir : Vector F 3
  amp : F
  sharp : F
  sign : F

structure AsteroidParams (F : Type) where
  baseRadius : F
  noiseAmplitude : F
  noiseFrequency : F
  octaves : Nat
  numCraters : Nat
  craterMin : F
  craterMax : F
  axisScale : Vector F 3
  lobes : List (Lobe F)

structure Crater (F : Type) where
  center : Vector F 3
  radius : F
  depth : F
  rimWidth : F

def octaves : Nat := 5
def numCraters : Nat := 10
def numLobes : Nat := 4

section Parameters

variable (m : Maths F) (draws : Draws Rng)

def drawLobe : StateM Rng (Lobe F) := do
  let dir <- unitVector m draws
  let amp <- range m draws (m.lit 8 2) (m.lit 20 2)
  let sharp <- range m draws (m.lit 1 0) (m.lit 2 0)
  let u <- unit m draws
  return { dir := dir, amp := amp, sharp := sharp
           sign := if m.lt u (m.lit 25 2) then m.lit (-1) 0 else m.lit 1 0 }

def drawParams : StateM Rng (AsteroidParams F) := do
  let lam31 <- range m draws (m.lit 18 2) (m.lit 90 2)
  let lam21 <- range m draws lam31
    (m.mul (m.add (m.lit 1 0) lam31) (m.lit 5 1))
  let axes <- shuffle3 m.toFloats draws
    #v[m.lit 1 0, m.sqrt lam21, m.sqrt lam31]
  let lobes <- drawMany (drawLobe m draws) numLobes
  let noiseAmplitude <- range m draws (m.lit 16 2) (m.lit 30 2)
  let noiseFrequency <- range m draws (m.lit 11 1) (m.lit 24 1)
  return { baseRadius := m.lit 1 0
           noiseAmplitude := noiseAmplitude
           noiseFrequency := noiseFrequency
           octaves := octaves
           numCraters := numCraters
           craterMin := m.lit 15 2
           craterMax := m.lit 45 2
           axisScale := axes
           lobes := lobes }

def drawCrater (params : AsteroidParams F) : StateM Rng (Crater F) := do
  let center <- unitVector m draws
  let radius <- range m draws params.craterMin params.craterMax
  let depth <- range m draws (m.lit 4 1) (m.lit 9 1)
  let rimWidth <- range m draws (m.lit 1 1) (m.lit 3 1)
  return ⟨center, radius, depth, rimWidth⟩

end Parameters

/-!
## Sculpting
-/

section Sculpting

variable (m : Maths F)

def dist (a b : Vector F 3) : F :=
  let dx := m.sub (xOf a) (xOf b)
  let dy := m.sub (yOf a) (yOf b)
  let dz := m.sub (zOf a) (zOf b)
  m.sqrt (m.add (m.add (m.mul dx dx) (m.mul dy dy)) (m.mul dz dz))

def smin (a b k : F) : F :=
  let h := m.clamp
    (m.add (m.lit 5 1) (m.div (m.mul (m.lit 5 1) (m.sub b a)) k))
    (m.lit 0 0) (m.lit 1 0)
  m.sub (m.add (m.mul b (m.sub (m.lit 1 0) h)) (m.mul a h))
    (m.mul (m.mul k h) (m.sub (m.lit 1 0) h))

def smax (a b k : F) : F :=
  m.neg (smin m (m.neg a) (m.neg b) k)

def addLobe (dir : Vector F 3) (elevation : F) (lobe : Lobe F) : F :=
  let d := m.add
    (m.add (m.mul (xOf dir) (xOf lobe.dir))
      (m.mul (yOf dir) (yOf lobe.dir)))
    (m.mul (zOf dir) (zOf lobe.dir))
  if m.positive d then
    m.add elevation (m.mul (m.mul lobe.sign lobe.amp) (m.pow d lobe.sharp))
  else
    elevation

def addCrater (params : AsteroidParams F) (dir : Vector F 3) (elevation : F)
    (c : Crater F) : F :=
  let x := m.div (dist m dir c.center) c.radius
  let cavity := m.sub (m.mul x x) (m.lit 1 0)
  let rimX := m.fmin (m.sub (m.sub x (m.lit 1 0)) c.rimWidth) (m.lit 0 0)
  let rim := m.mul (m.mul (m.lit 5 1) rimX) rimX
  let shape := smax m cavity (m.neg c.depth) (m.lit 5 1)
  let shape := smin m shape rim (m.lit 3 1)
  m.add elevation (m.mul shape params.noiseAmplitude)

/-- The vertex in direction `dir`, given the relief there. -/
def settle (params : AsteroidParams F) (craters : List (Crater F))
    (dir : Vector F 3) (n : F) : Vector F 3 :=
  let relief := m.add (m.lit 1 0) (m.mul params.noiseAmplitude n)
  let swollen := params.lobes.foldl (addLobe m dir) relief
  let elevation := craters.foldl (addCrater m params dir) swollen
  let r := m.fmax (m.mul params.baseRadius elevation)
    (m.mul (m.lit 3 1) params.baseRadius)
  #v[m.mul (m.mul (xOf dir) r) (xOf params.axisScale),
    m.mul (m.mul (yOf dir) r) (yOf params.axisScale),
    m.mul (m.mul (zOf dir) r) (zOf params.axisScale)]

/-- The loop over the vertices.  `none` is an index out of bounds. -/
def sculptVertices (params : AsteroidParams F) (fbm : Fbm F)
    (craters : List (Crater F)) (vertices : List (Vector F 3)) :
    Option (List (Vector F 3)) :=
  vertices.mapM fun dir =>
    (fbm.get m.toFloats dir).map (settle m params craters dir)

end Sculpting

/-- What is drawn for one asteroid, in the order it is drawn. -/
structure Shape (F : Type) where
  params : AsteroidParams F
  reliefSeed : Vector UInt8 32
  craters : List (Crater F)

def drawShape (m : Maths F) (draws : Draws Rng) : StateM Rng (Shape F) := do
  let params <- drawParams m draws
  let reliefSeed <- nextSeed draws
  let craters <- drawMany (drawCrater m draws params) params.numCraters
  return ⟨params, reliefSeed, craters⟩

/-- `normalize`, onto the unit sphere. -/
def normalize (m : Maths F) (v : Vector F 3) : Vector F 3 :=
  let len := m.sqrt (m.add
    (m.add (m.mul (xOf v) (xOf v)) (m.mul (yOf v) (yOf v)))
    (m.mul (zOf v) (zOf v)))
  #v[m.div (xOf v) len, m.div (yOf v) len, m.div (zOf v) len]

/-- The twelve corners of the icosahedron, by the golden ratio. -/
def icosahedronCorners (m : Maths F) : Vector (Vector F 3) 12 :=
  let t := m.div (m.add (m.lit 1 0) (m.sqrt (m.lit 5 0))) (m.lit 2 0)
  let nt := m.neg t
  let o := m.lit 0 0
  let p := m.lit 1 0
  let n := m.lit (-1) 0
  #v[#v[n, t, o], #v[p, t, o], #v[n, nt, o], #v[p, nt, o],
    #v[o, n, t], #v[o, p, t], #v[o, n, nt], #v[o, p, nt],
    #v[t, o, n], #v[t, o, p], #v[nt, o, n], #v[nt, o, p]]

def unitSphere (m : Maths F) : Geometry (Vector F 3) where
  corners := icosahedronCorners m
  normalize := normalize m
  average := fun a b =>
    #v[m.mul (m.add (xOf a) (xOf b)) (m.lit 5 1),
      m.mul (m.add (yOf a) (yOf b)) (m.lit 5 1),
      m.mul (m.add (zOf a) (zOf b)) (m.lit 5 1)]

/-- `asteroid`, from the seed to the mesh. -/
def grow (m : Maths F) (draws : Draws Rng) (seed : Vector UInt8 32)
    (subdivisions : Nat) : Option (Mesh (Vector F 3)) := do
  let base <- icosphere (unitSphere m) subdivisions
  let shape := ((drawShape m draws).run (draws.new seed)).fst
  let fbm := Fbm.new m.toFloats draws shape.reliefSeed shape.params.octaves
    shape.params.noiseFrequency
  let vertices <- sculptVertices m shape.params fbm shape.craters base.vertices
  return { base with vertices := vertices }

/-!
## What the generator does to the blank
-/

/-- What a seed does to a vertex, by the noise over the lattice. -/
def reliefOf (m : Maths F) (draws : Draws Rng) (seed : Vector UInt8 32)
    (dir : Vector F 3) : Vector F 3 :=
  let shape := ((drawShape m draws).run (draws.new seed)).fst
  settle m shape.params shape.craters dir
    (latticeRelief m.toFloats
      (shuffledTable m.toFloats draws shape.reliefSeed)
      shape.params.octaves shape.params.noiseFrequency dir)

theorem sculptVertices_eq (m : Maths F) (draws : Draws Rng)
    (seed : Vector UInt8 32) (vertices : List (Vector F 3)) :
    let shape := ((drawShape m draws).run (draws.new seed)).fst
    sculptVertices m shape.params
        (Fbm.new m.toFloats draws shape.reliefSeed shape.params.octaves
          shape.params.noiseFrequency) shape.craters vertices =
      some (vertices.map (reliefOf m draws seed)) := by
  intro shape
  unfold sculptVertices
  induction vertices with
  | nil =>
      rfl
  | cons dir rest ih =>
      rw [List.mapM_cons, ih, get_new]
      rfl

theorem grow_eq_asteroid (m : Maths F) (draws : Draws Rng)
    (seed : Vector UInt8 32) (subdivisions : Nat) :
    grow m draws seed subdivisions =
      asteroid (unitSphere m) (reliefOf m draws) seed subdivisions := by
  unfold grow asteroid
  cases icosphere (unitSphere m) subdivisions with
  | none =>
      rfl
  | some base =>
      rw [Option.bind_eq_bind, Option.bind_some]
      dsimp only
      rw [sculptVertices_eq]
      rfl

/-- Every seed grows an asteroid, and at every level whose vertices a `u32` can
number it is a closed and consistently oriented surface. -/
theorem every_seed_grows_a_closed_asteroid (m : Maths F) (draws : Draws Rng)
    (seed : Vector UInt8 32) (n : Nat) (hsize : 10 * 4 ^ n + 2 < 2 ^ 32) :
    exists mesh, grow m draws seed n = some mesh ∧ Welded n mesh := by
  rcases icosphere_welded (unitSphere m) n hsize with ⟨base, hbase, hwelded⟩
  refine ⟨sculpt (reliefOf m draws seed) base, ?_, ?_⟩
  · rw [grow_eq_asteroid]
    unfold asteroid
    rw [hbase]
    rfl
  · have hlength : (base.vertices.map (reliefOf m draws seed)).length =
        base.vertices.length := List.length_map _
    refine ⟨hwelded.closed, hwelded.faces, hlength.trans hwelded.vertices, ?_⟩
    intro f hf corner hcorner
    exact Nat.lt_of_lt_of_eq (hwelded.bounded f hf corner hcorner) hlength.symm

/-- Integers in place of floating-point numbers, to run the generator with. -/
def toyMaths : Maths Int where
  zero := 0
  one := 1
  ofNat := Int.ofNat
  add := fun a b => a + b
  sub := fun a b => a - b
  mul := fun a b => a * b
  div := fun a b => a / b
  neg := fun a => -a
  floor := id
  positive := fun a => decide (0 < a)
  toI32 := BitVec.ofInt 32
  toUsize := Int.toNat
  lit := fun n k => n / 10 ^ k
  pi := 3
  sqrt := id
  cos := id
  sin := id
  pow := fun a _ => a
  fmin := min
  fmax := max
  lt := fun a b => decide (a < b)
  clamp := fun a low high => max low (min high a)

/-- A generator that counts. -/
def toyDraws : Draws UInt64 where
  new := fun seed => (seed.get 0).toUInt64
  nextU64 := fun word => (word, word + 1)

theorem toy_asteroid_is_closed :
    exists mesh, grow toyMaths toyDraws (Vector.replicate 32 0) 4 = some mesh ∧
      Welded 4 mesh :=
  every_seed_grows_a_closed_asteroid toyMaths toyDraws (Vector.replicate 32 0) 4
    (by decide)

end Asteroid
end Numen
