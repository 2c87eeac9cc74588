import Mathlib.Data.BitVec
import Mathlib.Data.Vector.Basic

/-!
# The relief of an asteroid

Gradient noise over a table shuffled by the seed.  What the code does with
floating-point numbers enters as `Floats`, the words it draws as `Draws`; what is
modelled is which entries of the table it looks up.

The table holds a permutation twice, so that the lookups of a cell need not wrap
around.  `latticeNoise` is the noise with the wrap-around: the gradient of a
corner is a function of the lattice point it sits on, so the eight cells around
a point agree on it.
-/

namespace Numen
namespace Asteroid

/-- The operations on `f64` the relief is computed with.  `toI32` and `toUsize`
are the saturating casts. -/
structure Floats (F : Type) where
  zero : F
  one : F
  ofNat : Nat -> F
  add : F -> F -> F
  sub : F -> F -> F
  mul : F -> F -> F
  div : F -> F -> F
  neg : F -> F
  floor : F -> F
  positive : F -> Bool
  toI32 : F -> BitVec 32
  toUsize : F -> Nat

/-- A seeded generator of 64-bit words. -/
structure Draws (Rng : Type) where
  new : Vector UInt8 32 -> Rng
  nextU64 : Rng -> UInt64 × Rng

variable {F Rng : Type}

def xOf (point : Vector F 3) : F :=
  point.get 0

def yOf (point : Vector F 3) : F :=
  point.get 1

def zOf (point : Vector F 3) : F :=
  point.get 2

/-- A number in the unit interval, from the upper 53 bits of a word. -/
def Draws.unit (draws : Draws Rng) (fl : Floats F) (rng : Rng) : F × Rng :=
  let drawn := draws.nextU64 rng
  (fl.div (fl.ofNat (drawn.fst >>> 11).toNat) (fl.ofNat (2 ^ 53)), drawn.snd)

/-!
## Shuffling
-/

/-- The rounds of a Fisher-Yates shuffle from place `i` down to place 1.  A draw
that rounds up to `i + 1` is brought back by the minimum. -/
def shuffleFrom {α : Type} {n : Nat} (fl : Floats F) (draws : Draws Rng) :
    (i : Nat) -> i < n -> Vector α n -> Rng -> Vector α n × Rng
  | 0, _, v, rng => (v, rng)
  | i + 1, hi, v, rng =>
      let drawn := draws.unit fl rng
      let j := min (fl.toUsize (fl.mul drawn.fst (fl.add (fl.ofNat (i + 1)) fl.one)))
        (i + 1)
      shuffleFrom fl draws i (Nat.lt_of_succ_lt hi)
        (v.swap (i + 1) j hi (Nat.lt_of_le_of_lt (Nat.min_le_right _ _) hi))
        drawn.snd

theorem shuffleFrom_perm {α : Type} {n : Nat} (fl : Floats F)
    (draws : Draws Rng) (i : Nat) (hi : i < n) (v : Vector α n) (rng : Rng) :
    (shuffleFrom fl draws i hi v rng).fst.Perm v := by
  induction i generalizing v rng with
  | zero =>
      exact Vector.Perm.rfl
  | succ i ih =>
      exact (ih _ _ _).trans (Vector.swap_perm _ _)

/-- Fisher-Yates over the three axes. -/
def shuffle3 (fl : Floats F) (draws : Draws Rng) (axes : Vector F 3)
    (rng : Rng) : Vector F 3 × Rng :=
  shuffleFrom fl draws 2 (by decide) axes rng

def identityTable : Vector UInt8 256 :=
  Vector.ofFn fun i => UInt8.ofNat i.val

def shuffledTable (fl : Floats F) (draws : Draws Rng)
    (seed : Vector UInt8 32) : Vector UInt8 256 :=
  (shuffleFrom fl draws 255 (by decide) identityTable (draws.new seed)).fst

def mirror (table : Vector UInt8 256) : Vector UInt8 512 :=
  table ++ table

def shuffledPerm (fl : Floats F) (draws : Draws Rng)
    (seed : Vector UInt8 32) : Vector UInt8 512 :=
  mirror (shuffledTable fl draws seed)

/-!
## One octave
-/

def fade (fl : Floats F) (t : F) : F :=
  fl.mul (fl.mul (fl.mul t t) t)
    (fl.add (fl.mul t (fl.sub (fl.mul t (fl.ofNat 6)) (fl.ofNat 15)))
      (fl.ofNat 10))

def lerp (fl : Floats F) (t a b : F) : F :=
  fl.add a (fl.mul t (fl.sub b a))

/-- The gradient of a corner, one of twelve, dotted with the distance. -/
def grad (fl : Floats F) (hash : UInt8) (x y z : F) : F :=
  let h := hash &&& 15
  let u := if h < 8 then x else y
  let v := if h < 4 then y else if h = 12 ∨ h = 14 then x else z
  fl.add (if h &&& 1 = 0 then u else fl.neg u)
    (if h &&& 2 = 0 then v else fl.neg v)

/-- The gradients of the eight corners of a cell, named by the offset of the
corner on the three axes. -/
structure Corners where
  h000 : UInt8
  h100 : UInt8
  h010 : UInt8
  h110 : UInt8
  h001 : UInt8
  h101 : UInt8
  h011 : UInt8
  h111 : UInt8
deriving DecidableEq, Repr

/-- The trilinear blend of the eight corners, at the place `x y z` in a cell. -/
def blend (fl : Floats F) (corners : Corners) (x y z : F) : F :=
  let u := fade fl x
  let v := fade fl y
  let w := fade fl z
  lerp fl w
    (lerp fl v
      (lerp fl u (grad fl corners.h000 x y z)
        (grad fl corners.h100 (fl.sub x fl.one) y z))
      (lerp fl u (grad fl corners.h010 x (fl.sub y fl.one) z)
        (grad fl corners.h110 (fl.sub x fl.one) (fl.sub y fl.one) z)))
    (lerp fl v
      (lerp fl u (grad fl corners.h001 x y (fl.sub z fl.one))
        (grad fl corners.h101 (fl.sub x fl.one) y (fl.sub z fl.one)))
      (lerp fl u (grad fl corners.h011 x (fl.sub y fl.one) (fl.sub z fl.one))
        (grad fl corners.h111 (fl.sub x fl.one) (fl.sub y fl.one)
          (fl.sub z fl.one))))

/-- The cell of a coordinate along one axis, `floor(x) as i32 & 255`. -/
def cellOf (coordinate : BitVec 32) : Nat :=
  (coordinate &&& 255#32).toNat

/-- The lookups of one octave.  `none` is an index out of bounds. -/
def lookUp (perm : Vector UInt8 512) (xi yi zi : Nat) : Option Corners := do
  let a := (<- perm[xi]?).toNat + yi
  let aa := (<- perm[a]?).toNat + zi
  let ab := (<- perm[a + 1]?).toNat + zi
  let b := (<- perm[xi + 1]?).toNat + yi
  let ba := (<- perm[b]?).toNat + zi
  let bb := (<- perm[b + 1]?).toNat + zi
  return {
    h000 := <- perm[aa]?
    h100 := <- perm[ba]?
    h010 := <- perm[ab]?
    h110 := <- perm[bb]?
    h001 := <- perm[aa + 1]?
    h101 := <- perm[ba + 1]?
    h011 := <- perm[ab + 1]?
    h111 := <- perm[bb + 1]? }

def noise (fl : Floats F) (perm : Vector UInt8 512) (x y z : F) : Option F := do
  let corners <- lookUp perm (cellOf (fl.toI32 (fl.floor x)))
    (cellOf (fl.toI32 (fl.floor y))) (cellOf (fl.toI32 (fl.floor z)))
  return blend fl corners (fl.sub x (fl.floor x)) (fl.sub y (fl.floor y))
    (fl.sub z (fl.floor z))

/-!
## The lattice
-/

def entry (table : Vector UInt8 256) (n : Nat) : UInt8 :=
  table.get ⟨n % 256, Nat.mod_lt n (by decide)⟩

theorem entry_congr (table : Vector UInt8 256) {m n : Nat}
    (h : m % 256 = n % 256) : entry table m = entry table n := by
  unfold entry
  simp only [h]

theorem entry_toNat_lt (table : Vector UInt8 256) (n : Nat) :
    (entry table n).toNat < 256 :=
  (entry table n).toNat_lt

theorem getElem_mirror (table : Vector UInt8 256) {n : Nat} (hn : n < 512) :
    (mirror table)[n]? = some (entry table n) := by
  unfold mirror entry
  by_cases hlow : n < 256
  · rw [Vector.getElem?_append_left hlow, Vector.getElem?_eq_getElem hlow]
    simp only [Nat.mod_eq_of_lt hlow]
    rfl
  · have hplace : n % 256 = n - 256 := by lia
    have hlt : n - 256 < 256 := by lia
    rw [Vector.getElem?_append_right (Nat.le_of_not_lt hlow),
      Vector.getElem?_eq_getElem hlt]
    simp only [hplace]
    rfl

def hashAt (table : Vector UInt8 256) (x y z : Nat) : UInt8 :=
  entry table ((entry table ((entry table x).toNat + y)).toNat + z)

theorem lookUp_mirror (table : Vector UInt8 256) {xi yi zi : Nat}
    (hx : xi < 256) (hy : yi < 256) (hz : zi < 256) :
    lookUp (mirror table) xi yi zi =
      some
        { h000 := hashAt table xi yi zi
          h100 := hashAt table (xi + 1) yi zi
          h010 := hashAt table xi (yi + 1) zi
          h110 := hashAt table (xi + 1) (yi + 1) zi
          h001 := hashAt table xi yi (zi + 1)
          h101 := hashAt table (xi + 1) yi (zi + 1)
          h011 := hashAt table xi (yi + 1) (zi + 1)
          h111 := hashAt table (xi + 1) (yi + 1) (zi + 1) } := by
  have hsum : forall n k, k ≤ 256 -> (entry table n).toNat + k < 512 := by
    intro n k hk
    have := entry_toNat_lt table n
    lia
  have hread : forall n k, k ≤ 256 ->
      (mirror table)[(entry table n).toNat + k]? =
        some (entry table ((entry table n).toNat + k)) :=
    fun n k hk => getElem_mirror table (hsum n k hk)
  unfold lookUp
  simp only [getElem_mirror table (Nat.lt_trans hx (by decide : 256 < 512)),
    getElem_mirror table (show xi + 1 < 512 by lia), Option.bind_eq_bind,
    Option.bind_some, Nat.add_assoc, hread _ yi (by lia),
    hread _ (yi + 1) (by lia), hread _ zi (by lia), hread _ (zi + 1) (by lia)]
  rfl

theorem hashAt_congr (table : Vector UInt8 256) {x y z x' y' z' : Nat}
    (hx : x % 256 = x' % 256) (hy : y % 256 = y' % 256)
    (hz : z % 256 = z' % 256) : hashAt table x y z = hashAt table x' y' z' := by
  unfold hashAt
  rw [entry_congr table hx]
  have hrow : entry table ((entry table x').toNat + y) =
      entry table ((entry table x').toNat + y') :=
    entry_congr table (Nat.add_mod_eq_add_mod_left _ hy)
  rw [hrow]
  exact entry_congr table (Nat.add_mod_eq_add_mod_left _ hz)

theorem cellOf_eq (coordinate : BitVec 32) :
    cellOf coordinate = coordinate.toNat % 256 := by
  unfold cellOf
  rw [BitVec.toNat_and]
  exact Nat.and_two_pow_sub_one_eq_mod coordinate.toNat 8

theorem cellOf_lt (coordinate : BitVec 32) : cellOf coordinate < 256 := by
  rw [cellOf_eq]
  exact Nat.mod_lt _ (by decide)

theorem cellOf_mod (coordinate : BitVec 32) :
    cellOf coordinate % 256 = coordinate.toNat % 256 := by
  rw [cellOf_eq, Nat.mod_mod]

/-- The next lattice point lies in the next cell, across the end of the table
and across the end of the coordinates. -/
theorem cellOf_succ_mod (coordinate : BitVec 32) :
    (cellOf coordinate + 1) % 256 = (coordinate + 1).toNat % 256 := by
  rw [cellOf_eq, BitVec.toNat_add]
  have hone : (1 : BitVec 32).toNat = 1 := rfl
  rw [hone]
  lia

def latticeHash (table : Vector UInt8 256) (x y z : BitVec 32) : UInt8 :=
  hashAt table x.toNat y.toNat z.toNat

/-- The corners of the cell that starts at a lattice point. -/
def latticeCorners (table : Vector UInt8 256) (x y z : BitVec 32) : Corners :=
  { h000 := latticeHash table x y z
    h100 := latticeHash table (x + 1) y z
    h010 := latticeHash table x (y + 1) z
    h110 := latticeHash table (x + 1) (y + 1) z
    h001 := latticeHash table x y (z + 1)
    h101 := latticeHash table (x + 1) y (z + 1)
    h011 := latticeHash table x (y + 1) (z + 1)
    h111 := latticeHash table (x + 1) (y + 1) (z + 1) }

def latticeNoise (fl : Floats F) (table : Vector UInt8 256) (x y z : F) : F :=
  blend fl
    (latticeCorners table (fl.toI32 (fl.floor x)) (fl.toI32 (fl.floor y))
      (fl.toI32 (fl.floor z)))
    (fl.sub x (fl.floor x)) (fl.sub y (fl.floor y)) (fl.sub z (fl.floor z))

theorem lookUp_cells (table : Vector UInt8 256) (x y z : BitVec 32) :
    lookUp (mirror table) (cellOf x) (cellOf y) (cellOf z) =
      some (latticeCorners table x y z) := by
  rw [lookUp_mirror table (cellOf_lt x) (cellOf_lt y) (cellOf_lt z)]
  have hash : forall {x' y' z' : Nat} {u v w : BitVec 32},
      x' % 256 = u.toNat % 256 -> y' % 256 = v.toNat % 256 ->
      z' % 256 = w.toNat % 256 ->
        hashAt table x' y' z' = latticeHash table u v w :=
    hashAt_congr table
  unfold latticeCorners
  rw [hash (cellOf_mod x) (cellOf_mod y) (cellOf_mod z),
    hash (cellOf_succ_mod x) (cellOf_mod y) (cellOf_mod z),
    hash (cellOf_mod x) (cellOf_succ_mod y) (cellOf_mod z),
    hash (cellOf_succ_mod x) (cellOf_succ_mod y) (cellOf_mod z),
    hash (cellOf_mod x) (cellOf_mod y) (cellOf_succ_mod z),
    hash (cellOf_succ_mod x) (cellOf_mod y) (cellOf_succ_mod z),
    hash (cellOf_mod x) (cellOf_succ_mod y) (cellOf_succ_mod z),
    hash (cellOf_succ_mod x) (cellOf_succ_mod y) (cellOf_succ_mod z)]

theorem noise_mirror (fl : Floats F) (table : Vector UInt8 256) (x y z : F) :
    noise fl (mirror table) x y z = some (latticeNoise fl table x y z) := by
  unfold noise
  rw [lookUp_cells]
  rfl

/-!
## The fractal sum
-/

structure Octave (F : Type) where
  freq : F
  amp : F
  sum : F
  norm : F

def lacunarity (fl : Floats F) : F := fl.ofNat 2
def persistence (fl : Floats F) : F := fl.div fl.one (fl.ofNat 2)

/-- One round of the loop, given the noise at its frequency. -/
def Octave.next (fl : Floats F) (o : Octave F) (sample : F) : Octave F :=
  { freq := fl.mul o.freq (lacunarity fl)
    amp := fl.mul o.amp (persistence fl)
    sum := fl.add o.sum (fl.mul o.amp sample)
    norm := fl.add o.norm o.amp }

structure Fbm (F : Type) where
  perm : Vector UInt8 512
  octaves : Nat
  frequency : F

namespace Fbm

def new (fl : Floats F) (draws : Draws Rng) (seed : Vector UInt8 32)
    (octaves : Nat) (frequency : F) : Fbm F :=
  { perm := shuffledPerm fl draws seed
    octaves := octaves
    frequency := frequency }

def loop (fl : Floats F) (perm : Vector UInt8 512) (point : Vector F 3) :
    Nat -> Octave F -> Option (Octave F)
  | 0, o => some o
  | n + 1, o => do
      let sample <- noise fl perm (fl.mul (xOf point) o.freq)
        (fl.mul (yOf point) o.freq) (fl.mul (zOf point) o.freq)
      loop fl perm point n (o.next fl sample)

/-- The sum over the octaves, divided by the sum of their amplitudes. -/
def normalized (fl : Floats F) (o : Octave F) : F :=
  if fl.positive o.norm then fl.div o.sum o.norm else fl.zero

def start (fl : Floats F) (frequency : F) : Octave F :=
  { freq := frequency
    amp := fl.one
    sum := fl.zero
    norm := fl.zero }

def get (fl : Floats F) (fbm : Fbm F) (point : Vector F 3) : Option F := do
  let o <- loop fl fbm.perm point fbm.octaves (start fl fbm.frequency)
  return normalized fl o

end Fbm

def latticeLoop (fl : Floats F) (table : Vector UInt8 256) (point : Vector F 3) :
    Nat -> Octave F -> Octave F
  | 0, o => o
  | n + 1, o =>
      latticeLoop fl table point n (o.next fl
        (latticeNoise fl table (fl.mul (xOf point) o.freq)
          (fl.mul (yOf point) o.freq) (fl.mul (zOf point) o.freq)))

def latticeRelief (fl : Floats F) (table : Vector UInt8 256) (octaves : Nat)
    (frequency : F) (point : Vector F 3) : F :=
  Fbm.normalized fl
    (latticeLoop fl table point octaves (Fbm.start fl frequency))

theorem loop_mirror (fl : Floats F) (table : Vector UInt8 256)
    (point : Vector F 3) (n : Nat) (o : Octave F) :
    Fbm.loop fl (mirror table) point n o =
      some (latticeLoop fl table point n o) := by
  induction n generalizing o with
  | zero =>
      rfl
  | succ n ih =>
      unfold Fbm.loop latticeLoop
      rw [noise_mirror]
      exact ih _

theorem get_new (fl : Floats F) (draws : Draws Rng) (seed : Vector UInt8 32)
    (octaves : Nat) (frequency : F) (point : Vector F 3) :
    (Fbm.new fl draws seed octaves frequency).get fl point =
      some (latticeRelief fl (shuffledTable fl draws seed) octaves frequency
        point) := by
  unfold Fbm.get Fbm.new shuffledPerm
  rw [loop_mirror]
  rfl

/-- For every seed the relief is fractal noise over the lattice, with a
permutation of the 256 hashes as its table: no lookup leaves the table, and the
gradient of a corner depends on its lattice point only, not on the cell it is
seen from. -/
theorem relief_is_lattice_noise (fl : Floats F) (draws : Draws Rng)
    (seed : Vector UInt8 32) (octaves : Nat) (frequency : F) :
    exists table : Vector UInt8 256, table.Perm identityTable ∧
      forall point, (Fbm.new fl draws seed octaves frequency).get fl point =
        some (latticeRelief fl table octaves frequency point) := by
  exact ⟨shuffledTable fl draws seed, shuffleFrom_perm fl draws 255 _ _ _,
    get_new fl draws seed octaves frequency⟩

end Asteroid
end Numen
