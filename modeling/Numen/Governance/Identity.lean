import Mathlib.Data.BitVec

/-!
# On chain identities

The record an account registers about itself, the flags that say which of its
fields are filled, and the standard every gate on identity shares.
-/

namespace Numen
namespace Governance

/-- Bytes an account writes about itself, bounded at `n`. -/
def Text (n : Nat) : Type :=
  { bytes : List UInt8 // bytes.length ≤ n }

namespace Text

variable {n : Nat}

def empty : Text n :=
  ⟨[], Nat.zero_le n⟩

def isEmpty (text : Text n) : Bool :=
  text.val.isEmpty

end Text

/-- One flag per field of an identity. -/
inductive IdentityField where
  | display
  | avatar
  | bio
  | web
  | email
  | github
  | matrix
  | x
  | telegram
  | discord
  deriving DecidableEq, Repr

/-- The place of a field's flag, in the order the fields are declared. -/
def IdentityField.index : IdentityField -> Nat
  | display => 0
  | avatar => 1
  | bio => 2
  | web => 3
  | email => 4
  | github => 5
  | matrix => 6
  | x => 7
  | telegram => 8
  | discord => 9

theorem IdentityField.index_lt (field : IdentityField) : field.index < 64 := by
  cases field <;> decide

def IdentityField.bit (field : IdentityField) : BitVec 64 :=
  BitVec.twoPow 64 field.index

structure IdentityInfo where
  display : Text 32
  avatar : Text 128
  bio : Text 2048
  web : Text 64
  email : Text 32
  github : Text 32
  matrix : Text 32
  x : Text 32
  telegram : Text 32
  discord : Text 32

namespace IdentityInfo

/-- What `IdentityInfo::default` holds. -/
def blank : IdentityInfo :=
  { display := Text.empty
    avatar := Text.empty
    bio := Text.empty
    web := Text.empty
    email := Text.empty
    github := Text.empty
    matrix := Text.empty
    x := Text.empty
    telegram := Text.empty
    discord := Text.empty }

def entries (info : IdentityInfo) : List (IdentityField × Bool) :=
  [(IdentityField.display, !info.display.isEmpty),
    (IdentityField.avatar, !info.avatar.isEmpty),
    (IdentityField.bio, !info.bio.isEmpty),
    (IdentityField.web, !info.web.isEmpty),
    (IdentityField.email, !info.email.isEmpty),
    (IdentityField.github, !info.github.isEmpty),
    (IdentityField.matrix, !info.matrix.isEmpty),
    (IdentityField.x, !info.x.isEmpty),
    (IdentityField.telegram, !info.telegram.isEmpty),
    (IdentityField.discord, !info.discord.isEmpty)]

def insertField (fields : BitVec 64) (entry : IdentityField × Bool) :
    BitVec 64 :=
  if entry.snd then fields ||| entry.fst.bit else fields

def fields (info : IdentityInfo) : BitVec 64 :=
  info.entries.foldl insertField 0

/-- `has_identity`: every flag of the mask is among the filled fields. -/
def hasIdentity (info : IdentityInfo) (mask : BitVec 64) : Bool :=
  info.fields &&& mask == mask

/-- The bytes of a field, looked up by the name of its flag. -/
def bytesOf (info : IdentityInfo) : IdentityField -> List UInt8
  | IdentityField.display => info.display.val
  | IdentityField.avatar => info.avatar.val
  | IdentityField.bio => info.bio.val
  | IdentityField.web => info.web.val
  | IdentityField.email => info.email.val
  | IdentityField.github => info.github.val
  | IdentityField.matrix => info.matrix.val
  | IdentityField.x => info.x.val
  | IdentityField.telegram => info.telegram.val
  | IdentityField.discord => info.discord.val

def Filled (info : IdentityInfo) (field : IdentityField) : Prop :=
  info.bytesOf field ≠ []

theorem mem_entries_iff (info : IdentityInfo) (field : IdentityField) :
    (field, true) ∈ info.entries <-> info.Filled field := by
  unfold Filled
  cases field <;> simp [entries, bytesOf, Text.isEmpty]

theorem getLsbD_insertField (fields : BitVec 64)
    (entry : IdentityField × Bool) (i : Nat) :
    (insertField fields entry).getLsbD i = true <->
      fields.getLsbD i = true ∨ (entry.snd = true ∧ entry.fst.index = i) := by
  unfold insertField IdentityField.bit
  cases entry.snd with
  | true =>
      have hlt := entry.fst.index_lt
      simp [BitVec.getLsbD_twoPow, hlt]
  | false =>
      simp

theorem getLsbD_foldl_insertField (entries : List (IdentityField × Bool))
    (fields : BitVec 64) (i : Nat) :
    (entries.foldl insertField fields).getLsbD i = true <->
      fields.getLsbD i = true ∨
        exists field, (field, true) ∈ entries ∧ field.index = i := by
  induction entries generalizing fields with
  | nil =>
      simp
  | cons entry rest ih =>
      rw [List.foldl_cons, ih, getLsbD_insertField, or_assoc]
      apply or_congr Iff.rfl
      constructor
      · rintro (⟨hfilled, hindex⟩ | ⟨field, hmem, hindex⟩)
        · exact ⟨entry.fst, List.mem_cons.mpr (Or.inl (by rw [← hfilled])),
            hindex⟩
        · exact ⟨field, List.mem_cons_of_mem _ hmem, hindex⟩
      · rintro ⟨field, hmem, hindex⟩
        rcases List.mem_cons.mp hmem with rfl | hrest
        · exact Or.inl ⟨rfl, hindex⟩
        · exact Or.inr ⟨field, hrest, hindex⟩

theorem getLsbD_fields (info : IdentityInfo) (i : Nat) :
    info.fields.getLsbD i = true <->
      exists field, info.Filled field ∧ field.index = i := by
  unfold fields
  rw [getLsbD_foldl_insertField]
  simp [mem_entries_iff]

end IdentityInfo

/-- A mask is covered exactly by records that fill every field it names; a bit
that names no field is covered by none. -/
theorem hasIdentity_iff_every_flag_is_filled (info : IdentityInfo)
    (mask : BitVec 64) :
    info.hasIdentity mask = true <->
      forall i, mask.getLsbD i = true ->
        exists field, info.Filled field ∧ field.index = i := by
  unfold IdentityInfo.hasIdentity
  rw [beq_iff_eq]
  constructor
  · intro h i hi
    rw [← info.getLsbD_fields]
    rw [← h, BitVec.getLsbD_and, Bool.and_eq_true] at hi
    exact hi.left
  · intro h
    apply BitVec.eq_of_getLsbD_eq
    intro i _
    rw [BitVec.getLsbD_and]
    cases hi : mask.getLsbD i with
    | true =>
        rw [(info.getLsbD_fields i).mpr (h i hi)]
        rfl
    | false =>
        exact Bool.and_false _

/-!
## The qualified identity standard
-/

inductive Judgement where
  | unknown
  | feePaid (fee : Nat)
  | reasonable
  | knownGood
  | outOfDate
  | lowQuality
  | erroneous
  deriving DecidableEq, Repr

/-- What the identity pallet keeps for an account, each judgement with the
registrar that gave it. -/
structure Registration where
  judgements : List (Nat × Judgement)
  info : IdentityInfo

/-- The two maps of the identity pallet the standard reads. -/
structure Registry (AccountId : Type) where
  identityOf : AccountId -> Option Registration
  superOf : AccountId -> Option AccountId

namespace QualifiedIdentity

variable {AccountId : Type}

def judged (registration : Registration) : Bool :=
  registration.judgements.any fun entry =>
    entry.snd == Judgement.reasonable || entry.snd == Judgement.knownGood

def channel (info : IdentityInfo) : Bool :=
  !info.x.isEmpty || !info.telegram.isEmpty || !info.discord.isEmpty

def accountQualifies (registry : Registry AccountId) (who : AccountId) : Bool :=
  (registry.identityOf who).any fun registration =>
    judged registration && channel registration.info

/-- A sub account qualifies through its parent. -/
def contains (registry : Registry AccountId) (who : AccountId) : Bool :=
  accountQualifies registry who ||
    (registry.superOf who).any (accountQualifies registry)

end QualifiedIdentity

end Governance
end Numen
