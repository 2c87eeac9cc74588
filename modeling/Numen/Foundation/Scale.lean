import Numen.Foundation.Arithmetic
import Numen.Foundation.Codec

/-!
# SCALE collections

A collection is written as the compact form of its length followed by its
items.  The compact form of a number has one of four widths, told by the two
lowest bits of its first byte, and only the shortest one that fits is accepted.
-/

namespace Numen
namespace Foundation
namespace Codec

/-!
## Little-endian numbers
-/

/-- The last `width` bytes of a number, the least significant first. -/
def leBytes (width n : Nat) : List UInt8 :=
  (BigEndian.digits width n).reverse

def readLe (width : Nat) (input : List UInt8) :
    Option (Nat × List UInt8) :=
  ((littleEndian width (256 ^ width) rfl).decode input).map fun result =>
    (result.1.val, result.2)

theorem readLe_iff (width : Nat) (input : List UInt8) (n : Nat)
    (rest : List UInt8) :
    readLe width input = some (n, rest) <->
      n < 256 ^ width ∧ input = leBytes width n ++ rest := by
  unfold readLe
  rw [Option.map_eq_some_iff]
  constructor
  · rintro ⟨⟨m, tail⟩, hdecode, heq⟩
    cases heq
    exact ⟨m.isLt, (decode_iff _ input m tail).mp hdecode⟩
  · rintro ⟨hlt, hinput⟩
    let m : Fin (256 ^ width) := ⟨n, hlt⟩
    exact ⟨(m, rest), (decode_iff _ input m rest).mpr hinput, rfl⟩

theorem leBytes_succ (width n : Nat) :
    leBytes (width + 1) n = UInt8.ofNat n :: leBytes width (n / 256) := by
  unfold leBytes
  rw [BigEndian.digits, List.reverse_append]
  rfl

/-!
## Compact numbers
-/

def compactMode : List UInt8 -> Option Nat
  | [] => none
  | first :: _ => some (first.toNat % 4)

theorem compactMode_leBytes {width n k : Nat} (hk : k < 4)
    (rest : List UInt8) :
    compactMode (leBytes (width + 1) (4 * n + k) ++ rest) = some k := by
  rw [leBytes_succ]
  change some ((UInt8.ofNat (4 * n + k)).toNat % 4) = some k
  rw [UInt8.toNat_ofNat']
  congr 1
  lia

/-- A compact number in `width` bytes, if it does not fit fewer. -/
def readCompact (width least : Nat) (input : List UInt8) :
    Option (Nat × List UInt8) :=
  (readLe width input).bind fun result =>
    if least ≤ result.1 / 4 then some (result.1 / 4, result.2) else none

theorem readCompact_iff {width least k : Nat} {input : List UInt8}
    (hmode : compactMode input = some k) (n : Nat) (rest : List UInt8) :
    readCompact (width + 1) least input = some (n, rest) <->
      least ≤ n ∧ 4 * n + k < 256 ^ (width + 1) ∧
        input = leBytes (width + 1) (4 * n + k) ++ rest := by
  unfold readCompact
  rw [Option.bind_eq_some_iff]
  constructor
  · rintro ⟨⟨m, tail⟩, hread, hcompact⟩
    rcases (readLe_iff _ input m tail).mp hread with ⟨hlt, hinput⟩
    have hsplit : m = 4 * (m / 4) + m % 4 := (Nat.div_add_mod m 4).symm
    have hbits : m % 4 = k := by
      rw [hinput, hsplit,
        compactMode_leBytes (Nat.mod_lt m (Nat.zero_lt_succ 3))] at hmode
      exact Option.some.inj hmode
    split at hcompact
    · rename_i hleast
      cases hcompact
      rw [← hbits, ← hsplit]
      exact ⟨hleast, hlt, hinput⟩
    · cases hcompact
  · rintro ⟨hleast, hlt, hinput⟩
    have hk : k < 4 := by
      rcases input with _ | ⟨first, tail⟩
      · cases hmode
      · cases hmode
        exact Nat.mod_lt _ (Nat.zero_lt_succ 3)
    have hquarter : (4 * n + k) / 4 = n := by lia
    refine ⟨(4 * n + k, rest), (readLe_iff _ input _ rest).mpr ⟨hlt, hinput⟩,
      ?_⟩
    dsimp only
    rw [hquarter, if_pos hleast]

def encodeCompact (n : Nat) : List UInt8 :=
  if n < 2 ^ 6 then leBytes 1 (4 * n)
  else if n < 2 ^ 14 then leBytes 2 (4 * n + 1)
  else if n < 2 ^ 30 then leBytes 4 (4 * n + 2)
  else 3 :: leBytes 4 n

def decodeCompact (input : List UInt8) : Option (Nat × List UInt8) :=
  match compactMode input with
  | some 0 => readCompact 1 0 input
  | some 1 => readCompact 2 (2 ^ 6) input
  | some 2 => readCompact 4 (2 ^ 14) input
  | some 3 =>
      match input with
      | 3 :: rest =>
          (readLe 4 rest).bind fun result =>
            if 2 ^ 30 ≤ result.1 then some result else none
      | _ => none
  | _ => none

theorem decodeCompact_sound {input : List UInt8} {n : Nat}
    {rest : List UInt8} (h : decodeCompact input = some (n, rest)) :
    n < 2 ^ 32 ∧ input = encodeCompact n ++ rest := by
  unfold decodeCompact at h
  unfold encodeCompact
  split at h
  · rename_i hmode
    rcases (readCompact_iff hmode n rest).mp h with ⟨_, hlt, hinput⟩
    rw [if_pos (by lia)]
    exact ⟨by lia, hinput⟩
  · rename_i hmode
    rcases (readCompact_iff hmode n rest).mp h with ⟨hleast, hlt, hinput⟩
    rw [if_neg (by lia), if_pos (by lia)]
    exact ⟨by lia, hinput⟩
  · rename_i hmode
    rcases (readCompact_iff hmode n rest).mp h with ⟨hleast, hlt, hinput⟩
    rw [if_neg (by lia), if_neg (by lia), if_pos (by lia)]
    exact ⟨by lia, hinput⟩
  · split at h
    · rename_i tail _
      rcases Option.bind_eq_some_iff.mp h with ⟨⟨m, last⟩, hread, hleast⟩
      rcases (readLe_iff 4 tail m last).mp hread with ⟨hlt, htail⟩
      split at hleast
      · rename_i hlarge
        cases hleast
        rw [if_neg (by lia), if_neg (by lia), if_neg (by lia), htail]
        exact ⟨hlt, rfl⟩
      · cases hleast
    · cases h
  · cases h

theorem decodeCompact_encodeCompact {n : Nat} (hn : n < 2 ^ 32)
    (rest : List UInt8) :
    decodeCompact (encodeCompact n ++ rest) = some (n, rest) := by
  unfold encodeCompact
  split
  · have hmode : compactMode (leBytes 1 (4 * n) ++ rest) = some 0 :=
      compactMode_leBytes (Nat.zero_lt_succ 3) rest
    unfold decodeCompact
    rw [hmode]
    exact (readCompact_iff hmode n rest).mpr ⟨by lia, by lia, rfl⟩
  · split
    · have hmode : compactMode (leBytes 2 (4 * n + 1) ++ rest) = some 1 :=
        compactMode_leBytes (by lia) rest
      unfold decodeCompact
      rw [hmode]
      exact (readCompact_iff hmode n rest).mpr ⟨by lia, by lia, rfl⟩
    · split
      · have hmode : compactMode (leBytes 4 (4 * n + 2) ++ rest) = some 2 :=
          compactMode_leBytes (by lia) rest
        unfold decodeCompact
        rw [hmode]
        exact (readCompact_iff hmode n rest).mpr ⟨by lia, by lia, rfl⟩
      · have hread : readLe 4 (leBytes 4 n ++ rest) = some (n, rest) :=
          (readLe_iff 4 _ n rest).mpr ⟨hn, rfl⟩
        change ((readLe 4 (leBytes 4 n ++ rest)).bind fun result =>
          if 2 ^ 30 ≤ result.1 then some result else none) = some (n, rest)
        rw [hread, Option.bind_some, if_pos (by lia)]

/-- `Compact<u32>`. -/
def compact : Codec (Fin (2 ^ 32)) where
  encode := fun n => encodeCompact n.val
  decode := fun input =>
    match h : decodeCompact input with
    | some (n, rest) => some (⟨n, (decodeCompact_sound h).left⟩, rest)
    | none => none
  decode_iff := by
    intro input n rest
    constructor
    · intro h
      split at h
      · rename_i hdecode
        cases h
        exact (decodeCompact_sound hdecode).right
      · cases h
    · intro hinput
      have hdecode : decodeCompact input = some (n.val, rest) := by
        rw [hinput]
        exact decodeCompact_encodeCompact n.isLt rest
      split
      · rename_i m tail hother
        rw [hdecode] at hother
        cases hother
        rfl
      · rename_i hnone
        rw [hdecode] at hnone
        cases hnone

/-!
## Collections
-/

section Items

variable {Item : Type} (codec : Codec Item)

def encodeItems (items : List Item) : List UInt8 :=
  items.flatMap codec.encode

def decodeItems : Nat -> List UInt8 -> Option (List Item × List UInt8)
  | 0, input => some ([], input)
  | count + 1, input =>
      (codec.decode input).bind fun head =>
        (decodeItems count head.2).map fun tail => (head.1 :: tail.1, tail.2)

theorem decodeItems_iff (count : Nat) (input : List UInt8) (items : List Item)
    (rest : List UInt8) :
    codec.decodeItems count input = some (items, rest) <->
      items.length = count ∧ input = codec.encodeItems items ++ rest := by
  induction count generalizing input items with
  | zero =>
      constructor
      · intro h
        cases h
        exact ⟨rfl, rfl⟩
      · rintro ⟨hlength, hinput⟩
        cases List.eq_nil_of_length_eq_zero hlength
        rw [hinput]
        rfl
  | succ count ih =>
      rw [decodeItems, Option.bind_eq_some_iff]
      constructor
      · rintro ⟨⟨item, middle⟩, hfirst, hothers⟩
        rcases Option.map_eq_some_iff.mp hothers with
          ⟨⟨others, tail⟩, hdecode, heq⟩
        cases heq
        rcases (ih middle others).mp hdecode with ⟨hlength, hmiddle⟩
        refine ⟨congrArg Nat.succ hlength, ?_⟩
        rw [(codec.decode_iff input item middle).mp hfirst, hmiddle]
        exact (List.append_assoc _ _ _).symm
      · rintro ⟨hlength, hinput⟩
        cases items with
        | nil => cases hlength
        | cons item others =>
            refine ⟨(item, codec.encodeItems others ++ rest), ?_, ?_⟩
            · refine (codec.decode_iff _ _ _).mpr ?_
              rw [hinput]
              exact List.append_assoc _ _ _
            · rw [(ih _ others).mpr ⟨Nat.succ.inj hlength, rfl⟩]
              rfl

variable {codec} in
theorem encodeItems_inj {items items' : List Item}
    (hlength : items.length = items'.length)
    (h : codec.encodeItems items = codec.encodeItems items') :
    items = items' := by
  have hdecode := (codec.decodeItems_iff items.length
    (codec.encodeItems items ++ []) items []).mpr ⟨rfl, rfl⟩
  have hdecode' := (codec.decodeItems_iff items.length
    (codec.encodeItems items ++ []) items' []).mpr ⟨hlength.symm, by rw [h]⟩
  rw [hdecode] at hdecode'
  cases hdecode'
  rfl

def vec : Codec { items : List Item // items.length < 2 ^ 32 } where
  encode := fun items =>
    encodeCompact items.val.length ++ codec.encodeItems items.val
  decode := fun input =>
    (compact.decode input).bind fun count =>
      match h : codec.decodeItems count.1.val count.2 with
      | some (items, rest) => some (⟨items, by
          rw [((codec.decodeItems_iff _ _ items rest).mp h).left]
          exact count.1.isLt⟩, rest)
      | none => none
  decode_iff := by
    rintro input ⟨items, hlength⟩ rest
    rw [Option.bind_eq_some_iff]
    constructor
    · rintro ⟨⟨count, middle⟩, hcount, hitems⟩
      dsimp only at hitems
      split at hitems
      · rename_i others tail hdecode
        cases hitems
        rcases (codec.decodeItems_iff _ _ _ _).mp hdecode with ⟨hsame, hmiddle⟩
        have hinput : input = encodeCompact count.val ++ middle :=
          (compact.decode_iff input count middle).mp hcount
        dsimp only
        rw [hinput, hmiddle, hsame, List.append_assoc]
      · cases hitems
    · intro hinput
      refine ⟨(⟨items.length, hlength⟩, codec.encodeItems items ++ rest),
        (compact.decode_iff _ _ _).mpr ?_, ?_⟩
      · rw [hinput]
        exact List.append_assoc _ _ _
      · have hdecode := (codec.decodeItems_iff items.length
          (codec.encodeItems items ++ rest) items rest).mpr ⟨rfl, rfl⟩
        dsimp only
        split
        · rename_i others tail hother
          rw [hdecode] at hother
          cases hother
          rfl
        · rename_i hnone
          rw [hdecode] at hnone
          cases hnone

end Items

end Codec
end Foundation
end Numen
