import Mathlib.Logic.Function.Basic
import Numen.Pow.Finality

/-!
# What `finality_conflicts` decides

On any header tree the two walks together decide whether a candidate lies on one
branch with the finalized block.  On a store with gaps a walk that meets a gap
says so.  The loops are also written out as the source has them, with block
numbers that must not run below zero.
-/

namespace Numen
namespace Pow

open Foundation

variable {Hash : Type} [DecidableEq Hash]

/-!
## The loops
-/

/-- `number -= One::one()`, where zero has no predecessor. -/
def decrement (number : Nat) : Option Nat :=
  if number = 0 then none else some (number - 1)

/-- The loop of either walk.  `none` says that the rounds ran out or a number
ran below zero. -/
def walkLoop (s : Client Hash) (target : Nat) :
    Nat -> Nat -> Hash -> Option (Except (Error Hash) Hash)
  | 0, _, _ => none
  | rounds + 1, curNumber, curHash =>
      if target < curNumber then
        match headerOf s curHash with
        | Except.error error => some (Except.error error)
        | Except.ok header =>
            (decrement curNumber).bind fun number =>
              walkLoop s target rounds number header.parentHash
      else
        some (Except.ok curHash)

def conflictsLoop (s : Client Hash) (rounds : Nat) (newHash : Hash)
    (newNumber : Nat) (parentHash finalizedHash : Hash)
    (finalizedNumber : Nat) : Option (Except (Error Hash) Bool) :=
  if newNumber ≤ finalizedNumber then
    (walkLoop s newNumber rounds finalizedNumber finalizedHash).map
      (Except.map fun curHash => decide (curHash ≠ newHash))
  else
    (decrement newNumber).bind fun number =>
      (walkLoop s finalizedNumber rounds number parentHash).map
        (Except.map fun curHash => decide (curHash ≠ finalizedHash))

theorem walkLoop_eq (s : Client Hash) (target : Nat) {rounds number : Nat}
    (hrounds : number < rounds) (hash : Hash) :
    walkLoop s target rounds number hash =
      some (walkBack s target number hash) := by
  induction rounds generalizing number hash with
  | zero => lia
  | succ rounds ih =>
      unfold walkLoop
      cases number with
      | zero =>
          rw [if_neg (Nat.not_lt_zero target)]
          rfl
      | succ number =>
          unfold walkBack
          by_cases htarget : target < number + 1
          · rw [if_pos htarget, if_pos htarget]
            cases headerOf s hash with
            | error error => rfl
            | ok header => exact ih (by lia) header.parentHash
          · rw [if_neg htarget, if_neg htarget]

theorem conflictsLoop_eq (s : Client Hash) {rounds newNumber : Nat}
    {finalizedNumber : Nat} (hnew : newNumber < rounds)
    (hfinalized : finalizedNumber < rounds)
    (newHash parentHash finalizedHash : Hash) :
    conflictsLoop s rounds newHash newNumber parentHash finalizedHash
        finalizedNumber =
      some (finalityConflicts s newHash newNumber parentHash finalizedHash
        finalizedNumber) := by
  unfold conflictsLoop finalityConflicts
  by_cases hbelow : newNumber ≤ finalizedNumber
  · rw [if_pos hbelow, if_pos hbelow, walkLoop_eq s newNumber hfinalized]
    cases walkBack s newNumber finalizedNumber finalizedHash with
    | error error => rfl
    | ok found => rfl
  · have hpos : newNumber ≠ 0 := by lia
    have hdecrement : decrement newNumber = some (newNumber - 1) := if_neg hpos
    have hrounds : newNumber - 1 < rounds := by lia
    rw [if_neg hbelow, if_neg hbelow, hdecrement, Option.bind_some,
      walkLoop_eq s finalizedNumber hrounds]
    cases walkBack s finalizedNumber (newNumber - 1) parentHash with
    | error error => rfl
    | ok found => rfl

/-!
## Gaps
-/

/-- A walk from `number` down to `target` looks the header of `hash` up. -/
inductive LooksUp (s : Client Hash) (target : Nat) :
    Nat -> Hash -> Hash -> Prop where
  | here {number : Nat} {hash : Hash} :
      target < number -> LooksUp s target number hash hash
  | above {number : Nat} {cur hash : Hash} {header : Header Hash} :
      target < number + 1 -> s.headers.get cur = some header ->
      LooksUp s target number header.parentHash hash ->
      LooksUp s target (number + 1) cur hash

theorem LooksUp.walkBack_error {s : Client Hash} {target number : Nat}
    {cur hash : Hash} (h : LooksUp s target number cur hash)
    (hmissing : ¬ Stored s hash) :
    walkBack s target number cur =
      Except.error (Error.headerNotFound hash) := by
  induction h with
  | @here number hash hlt =>
      have hnone : s.headers.get hash = none := by
        cases hget : s.headers.get hash with
        | none => rfl
        | some header => exact absurd ⟨header, hget⟩ hmissing
      cases number with
      | zero => lia
      | succ number =>
          unfold walkBack headerOf
          rw [if_pos hlt, hnone]
          rfl
  | above hlt hget _ ih =>
      unfold walkBack headerOf
      rw [if_pos hlt, hget]
      exact ih hmissing

def ChecksHeader (s : Client Hash) (newNumber : Nat) (parentHash : Hash)
    (finalizedHash : Hash) (finalizedNumber : Nat) (hash : Hash) : Prop :=
  if newNumber ≤ finalizedNumber then
    LooksUp s newNumber finalizedNumber finalizedHash hash
  else
    LooksUp s finalizedNumber (newNumber - 1) parentHash hash

theorem finalityConflicts_error {s : Client Hash} {newNumber : Nat}
    {parentHash finalizedHash hash : Hash} {finalizedNumber : Nat}
    (h : ChecksHeader s newNumber parentHash finalizedHash finalizedNumber
      hash)
    (hmissing : ¬ Stored s hash) (newHash : Hash) :
    finalityConflicts s newHash newNumber parentHash finalizedHash
        finalizedNumber = Except.error (Error.headerNotFound hash) := by
  unfold ChecksHeader at h
  unfold finalityConflicts
  split at h
  · rename_i hbelow
    rw [if_pos hbelow, h.walkBack_error hmissing]
    rfl
  · rename_i hbelow
    rw [if_neg hbelow, h.walkBack_error hmissing]
    rfl

/-!
## Trees
-/

/-- A block on top of a stored one, stored itself or not yet. -/
structure Candidate (s : Client Hash) (newHash : Hash) (newNumber : Nat)
    (parentHash : Hash) : Prop where
  parent : Stored s parentHash
  number : newNumber = numberOf s parentHash + 1
  header : forall header, s.headers.get newHash = some header ->
    header.number = newNumber ∧ header.parentHash = parentHash

def parentWith (s : Client Hash) (newHash parentHash : Hash) :
    Hash -> Option Hash :=
  Function.update (parentOf s) newHash (some parentHash)

section Tree

variable {s : Client Hash} {newHash parentHash finalized : Hash}
variable {newNumber : Nat}

theorem Candidate.numberOf_eq (h : Candidate s newHash newNumber parentHash)
    (hstored : Stored s newHash) : numberOf s newHash = newNumber := by
  rcases hstored with ⟨header, hget⟩
  rw [Pow.numberOf_eq hget]
  exact (h.header header hget).left

theorem Candidate.parentWith_eq (h : Candidate s newHash newNumber parentHash)
    (node : Hash) (hnode : Stored s node) :
    parentWith s newHash parentHash node = parentOf s node := by
  unfold parentWith
  by_cases heq : node = newHash
  · subst heq
    rcases hnode with ⟨header, hget⟩
    rcases h.header header hget with ⟨hnumber, hparent⟩
    have hne : header.number ≠ 0 := by
      have := h.number
      lia
    rw [Function.update_self]
    exact (parentOf_eq_some.mpr ⟨header, hget, hne, hparent⟩).symm
  · rw [Function.update_of_ne heq]

theorem Candidate.ancestor_iff (hs : WellFormed s)
    (h : Candidate s newHash newNumber parentHash) {a b : Hash}
    (hb : Stored s b) :
    Ancestor (parentWith s newHash parentHash) a b <->
      Ancestor (parentOf s) a b :=
  Ancestor.congr hs.stored_parent h.parentWith_eq hb

theorem Candidate.ancestor_new_iff (hs : WellFormed s)
    (h : Candidate s newHash newNumber parentHash) (a : Hash) :
    Ancestor (parentWith s newHash parentHash) a newHash <->
      a = newHash ∨ Ancestor (parentOf s) a parentHash := by
  have hparent : parentWith s newHash parentHash newHash = some parentHash :=
    Function.update_self _ _ _
  rw [← h.ancestor_iff hs h.parent]
  constructor
  · intro hancestor
    rcases hancestor.eq_or_of_parent with heq | ⟨above, habove, hrest⟩
    · exact Or.inl heq
    · rw [hparent] at habove
      cases habove
      exact Or.inr hrest
  · rintro (rfl | hrest)
    · exact Ancestor.refl a
    · exact hrest.of_parent hparent

/-- The candidate is the finalized block, an ancestor or a descendant of it. -/
def OnFinalizedBranch (s : Client Hash) (newHash parentHash finalized : Hash) :
    Prop :=
  newHash = finalized ∨
    Ancestor (parentWith s newHash parentHash) newHash finalized ∨
    Ancestor (parentWith s newHash parentHash) finalized newHash

theorem Candidate.onFinalizedBranch_of_le (hs : WellFormed s)
    (h : Candidate s newHash newNumber parentHash)
    (hfinalized : Stored s finalized)
    (hbelow : newNumber ≤ numberOf s finalized) :
    OnFinalizedBranch s newHash parentHash finalized <->
      Ancestor (parentOf s) newHash finalized := by
  unfold OnFinalizedBranch
  rw [h.ancestor_iff hs hfinalized, h.ancestor_new_iff hs]
  constructor
  · rintro (rfl | hancestor | rfl | hdescends)
    · exact Ancestor.refl newHash
    · exact hancestor
    · exact Ancestor.refl finalized
    · have hle := hdescends.height_le hs.number_lt
      have := h.number
      lia
  · intro hancestor
    exact Or.inr (Or.inl hancestor)

theorem Candidate.onFinalizedBranch_of_lt (hs : WellFormed s)
    (h : Candidate s newHash newNumber parentHash)
    (hfinalized : Stored s finalized)
    (habove : numberOf s finalized < newNumber) :
    OnFinalizedBranch s newHash parentHash finalized <->
      Ancestor (parentOf s) finalized parentHash := by
  have hnot : ¬ Ancestor (parentOf s) newHash finalized := by
    intro hancestor
    have hstored := hancestor.mem_of_closed hs.stored_parent hfinalized
    have hle := hancestor.height_le hs.number_lt
    rw [h.numberOf_eq hstored] at hle
    lia
  have hne : newHash ≠ finalized := by
    rintro rfl
    exact hnot (Ancestor.refl newHash)
  unfold OnFinalizedBranch
  rw [h.ancestor_iff hs hfinalized, h.ancestor_new_iff hs]
  constructor
  · rintro (heq | hancestor | heq | hdescends)
    · exact absurd heq hne
    · exact absurd hancestor hnot
    · exact absurd heq.symm hne
    · exact hdescends
  · intro hdescends
    exact Or.inr (Or.inr (Or.inr hdescends))

theorem Candidate.finalityConflicts_ok (hs : WellFormed s)
    (h : Candidate s newHash newNumber parentHash)
    (hfinalized : Stored s finalized) :
    exists conflicts,
      finalityConflicts s newHash newNumber parentHash finalized
          (numberOf s finalized) = Except.ok conflicts ∧
        (conflicts = false <->
          OnFinalizedBranch s newHash parentHash finalized) := by
  unfold finalityConflicts
  by_cases hbelow : newNumber ≤ numberOf s finalized
  · rcases hs.walkBack_ok newNumber _ finalized hfinalized rfl with
      ⟨found, hwalk, hancestor, _, hnumber⟩
    have hiff : found = newHash <->
        Ancestor (parentOf s) newHash finalized := by
      constructor
      · rintro rfl
        exact hancestor
      · intro hnew
        have hstored := hnew.mem_of_closed hs.stored_parent hfinalized
        apply hancestor.eq_of_height_eq hs.number_lt hnew
        rw [hnumber, h.numberOf_eq hstored, Nat.min_eq_left hbelow]
    rw [if_pos hbelow, hwalk, h.onFinalizedBranch_of_le hs hfinalized hbelow]
    exact ⟨_, rfl, by simp [hiff]⟩
  · have habove := Nat.lt_of_not_le hbelow
    have hparentNumber : numberOf s parentHash = newNumber - 1 := by
      have := h.number
      lia
    rcases hs.walkBack_ok (numberOf s finalized) (newNumber - 1) parentHash
        h.parent hparentNumber with ⟨found, hwalk, hancestor, _, hnumber⟩
    have hiff : found = finalized <->
        Ancestor (parentOf s) finalized parentHash := by
      constructor
      · rintro rfl
        exact hancestor
      · intro hfinal
        apply hancestor.eq_of_height_eq hs.number_lt hfinal
        lia
    rw [if_neg hbelow, hwalk, h.onFinalizedBranch_of_lt hs hfinalized habove]
    exact ⟨_, rfl, by simp [hiff]⟩

/-- A candidate that is not stored yet passes exactly when its parent is the
finalized block or descends from it. -/
theorem finalityConflicts_of_new (hs : WellFormed s)
    (hnew : ¬ Stored s newHash) (hparent : Stored s parentHash)
    (hnumber : newNumber = numberOf s parentHash + 1)
    (hfinalized : Stored s finalized) :
    exists conflicts,
      finalityConflicts s newHash newNumber parentHash finalized
          (numberOf s finalized) = Except.ok conflicts ∧
        (conflicts = false <->
          Ancestor (parentOf s) finalized parentHash) := by
  have hcandidate : Candidate s newHash newNumber parentHash :=
    ⟨hparent, hnumber, fun header hget => absurd ⟨header, hget⟩ hnew⟩
  rcases hcandidate.finalityConflicts_ok hs hfinalized with
    ⟨conflicts, hconflicts, hiff⟩
  refine ⟨conflicts, hconflicts, hiff.trans ?_⟩
  unfold OnFinalizedBranch
  rw [hcandidate.ancestor_iff hs hfinalized, hcandidate.ancestor_new_iff hs]
  constructor
  · rintro (rfl | hancestor | rfl | hdescends)
    · exact absurd hfinalized hnew
    · exact absurd (hancestor.mem_of_closed hs.stored_parent hfinalized) hnew
    · exact absurd hfinalized hnew
    · exact hdescends
  · intro hdescends
    exact Or.inr (Or.inr (Or.inr hdescends))

end Tree

/-- On a header tree the check ends without error or underflow, and lets exactly
the candidates pass that lie on one branch with the finalized block.  On any
store, a check that has to look a missing header up fails. -/
theorem finality_conflicts_decides_incompatibility (s : Client Hash) :
    (WellFormed s ->
      forall newHash newNumber parentHash finalized,
        Candidate s newHash newNumber parentHash ->
        Stored s finalized ->
        exists conflicts,
          finalityConflicts s newHash newNumber parentHash finalized
              (numberOf s finalized) = Except.ok conflicts ∧
            (conflicts = false <->
              OnFinalizedBranch s newHash parentHash finalized)) ∧
    (forall newHash newNumber parentHash finalized finalizedNumber rounds,
      newNumber < rounds -> finalizedNumber < rounds ->
      conflictsLoop s rounds newHash newNumber parentHash finalized
          finalizedNumber =
        some (finalityConflicts s newHash newNumber parentHash finalized
          finalizedNumber)) ∧
    (forall newHash newNumber parentHash finalized finalizedNumber hash,
      ChecksHeader s newNumber parentHash finalized finalizedNumber hash ->
      ¬ Stored s hash ->
      finalityConflicts s newHash newNumber parentHash finalized
          finalizedNumber = Except.error (Error.headerNotFound hash)) := by
  refine ⟨?_, ?_, ?_⟩
  · intro hs newHash newNumber parentHash finalized hcandidate hfinalized
    exact hcandidate.finalityConflicts_ok hs hfinalized
  · intro newHash newNumber parentHash finalized finalizedNumber rounds hnew
      hfinalized
    exact conflictsLoop_eq s hnew hfinalized newHash parentHash finalized
  · intro newHash newNumber parentHash finalized finalizedNumber hash hchecks
      hmissing
    exact finalityConflicts_error hchecks hmissing newHash

/-- Two children of block zero, the first of them finalized. -/
def forkedClient : Client Nat :=
  { headers := ((StorageMap.empty.insert 0
        { parentHash := 0, number := 0, logs := [] }).insert 1
        { parentHash := 0, number := 1, logs := [] }).insert 2
        { parentHash := 0, number := 1, logs := [] }
    aux := StorageMap.empty
    best := 1
    finalized := 1
    finalizedNumber := 1 }

theorem forkedClient_wellFormed : WellFormed forkedClient := by
  intro b header hget hne
  unfold forkedClient at hget
  rw [StorageMap.get_insert, StorageMap.get_insert,
    StorageMap.get_insert] at hget
  split at hget
  · cases hget
    exact ⟨_, rfl, rfl⟩
  · split at hget
    · cases hget
      exact ⟨_, rfl, rfl⟩
    · split at hget
      · cases hget
        exact absurd rfl hne
      · rw [StorageMap.get_empty] at hget
        cases hget

/-- A child of the other block is off the finalized branch, a child of the
finalized one is on it, and a candidate over a gap cannot be judged. -/
theorem child_of_the_other_fork_conflicts :
    ¬ OnFinalizedBranch forkedClient 3 2 1 ∧
    OnFinalizedBranch forkedClient 3 1 1 ∧
    conflictsLoop forkedClient 6 9 5 7 1 1 =
      some (Except.error (Error.headerNotFound 7)) := by
  rcases finality_conflicts_decides_incompatibility forkedClient with
    ⟨htree, hloop, hgap⟩
  have hnew : forall header, forkedClient.headers.get 3 ≠ some header := by
    intro header hget
    cases hget
  have hfinalized : Stored forkedClient 1 := ⟨_, rfl⟩
  refine ⟨?_, ?_, ?_⟩
  · have hcandidate : Candidate forkedClient 3 2 2 :=
      ⟨⟨_, rfl⟩, rfl, fun header hget => absurd hget (hnew header)⟩
    rcases htree forkedClient_wellFormed 3 2 2 1 hcandidate hfinalized with
      ⟨conflicts, hconflicts, hiff⟩
    have htrue : conflicts = true := (Except.ok.inj hconflicts).symm
    intro hbranch
    rw [hiff.mpr hbranch] at htrue
    cases htrue
  · have hcandidate : Candidate forkedClient 3 2 1 :=
      ⟨⟨_, rfl⟩, rfl, fun header hget => absurd hget (hnew header)⟩
    rcases htree forkedClient_wellFormed 3 2 1 1 hcandidate hfinalized with
      ⟨conflicts, hconflicts, hiff⟩
    exact hiff.mp (Except.ok.inj hconflicts).symm
  · have hmissing : ¬ Stored forkedClient 7 := by
      rintro ⟨header, hget⟩
      cases hget
    have hchecks : ChecksHeader forkedClient 5 7 1 1 7 :=
      LooksUp.here (by decide)
    rw [hloop 9 5 7 1 1 6 (by decide) (by decide),
      hgap 9 5 7 1 1 7 hchecks hmissing]

end Pow
end Numen
