import Numen.Foundation.Runs
import Numen.Pow.Finality

/-!
# Fork choice over whole runs

Blocks are imported in any order that puts parents before children, and
finality advances along the best chain in between.  The best block then always
extends the finalized one, and carries the largest total difficulty among the
blocks finality has not ruled out.
-/

namespace Numen
namespace Pow

open Foundation

variable {Hash : Type} [DecidableEq Hash]

/-!
## The import behind the importer
-/

/-- A block the client has not seen, with a parent it has, one number lower. -/
def Fresh (request : ImportRequest Hash) (s : Client Hash) : Prop :=
  ¬ Stored s request.hash ∧ Stored s request.header.parentHash ∧
    request.header.number = numberOf s request.header.parentHash + 1

/-- Store the block with its auxiliary entry, and make it the best block if the
fork choice says so. -/
def commit (request : ImportRequest Hash) (s : Client Hash) : Client Hash :=
  { s with
    headers := s.headers.insert request.hash request.header
    aux := s.aux.insert request.hash request.aux
    best :=
      if request.forkChoice = ForkChoiceStrategy.custom true then request.hash
      else s.best }

/-- Documented behaviour of the import behind: a request is refused, or leaves
the client as it is (the block is known already), or is committed. -/
def Node.Lawful (node : Node Hash) : Prop :=
  forall request s t, node.inner request s = Except.ok t ->
    t = s ∨ (Fresh request s ∧ t = commit request s)

/-!
## Runs
-/

inductive Label (Hash : Type) where
  | importBlock (answers : InherentAnswers Hash) (block : BlockImportParams Hash)
  | finalize (hash : Hash)

/-- A failing import leaves the client as it is. -/
def step (node : Node Hash) (s : Client Hash) : Label Hash -> Client Hash
  | Label.importBlock answers block =>
      match importBlock node answers block s with
      | Except.ok t => t
      | Except.error _ => s
  | Label.finalize hash =>
      { s with finalized := hash, finalizedNumber := numberOf s hash }

/-- Imports leave the fork choice to the importer, and finality advances along
the best chain. -/
def Allowed (s : Client Hash) : Label Hash -> Prop
  | Label.importBlock _ block => block.forkChoice = none
  | Label.finalize hash =>
      Ancestor (parentOf s) s.finalized hash ∧
        Ancestor (parentOf s) hash s.best

def genesisClient (genesis : Hash) (header : Header Hash) : Client Hash :=
  { headers := StorageMap.empty.insert genesis header
    aux := StorageMap.empty
    best := genesis
    finalized := genesis
    finalizedNumber := 0 }

def ReachedBy (node : Node Hash) (genesis : Hash) (header : Header Hash)
    (labels : List (Label Hash)) (s : Client Hash) : Prop :=
  header.number = 0 ∧
    Run Allowed (step node) (genesisClient genesis header) labels s

/-!
## What an import can do
-/

abbrev totalOf (s : Client Hash) (b : Hash) : Nat :=
  (readAux s b).totalDifficulty

/-- How the importer decides whether `request` becomes the best block. -/
structure Chosen (node : Node Hash) (s : Client Hash)
    (request : ImportRequest Hash) (isBest : Bool) : Prop where
  forkChoice : request.forkChoice = ForkChoiceStrategy.custom isBest
  total : request.aux.totalDifficulty =
    satAdd u256Max (totalOf s request.header.parentHash) request.aux.difficulty
  verdict : exists conflicts,
    finalityConflicts s request.hash request.header.number
        request.header.parentHash s.finalized s.finalizedNumber =
      Except.ok conflicts ∧
    (conflicts = true -> isBest = false) ∧
    (conflicts = false ->
      (request.aux.totalDifficulty < totalOf s s.best -> isBest = false) ∧
      (totalOf s s.best < request.aux.totalDifficulty -> isBest = true) ∧
      (request.aux.totalDifficulty = totalOf s s.best ->
        exists bestSeal newSeal,
          isBest = node.algorithm.breakTie bestSeal newSeal))

theorem chooseFork_ok {node : Node Hash} {s : Client Hash}
    {block : BlockImportParams Hash} {bestHeader : Header Hash}
    {innerSeal : Seal} {total : Nat} {strategy : ForkChoiceStrategy}
    (hunset : block.forkChoice = none)
    (h : chooseFork node s block bestHeader innerSeal total =
      Except.ok strategy) :
    exists isBest conflicts, strategy = ForkChoiceStrategy.custom isBest ∧
      finalityConflicts s (postHash node block) block.header.number
        block.header.parentHash s.finalized s.finalizedNumber =
          Except.ok conflicts ∧
      (conflicts = true -> isBest = false) ∧
      (conflicts = false ->
        (total < totalOf s s.best -> isBest = false) ∧
        (totalOf s s.best < total -> isBest = true) ∧
        (total = totalOf s s.best -> exists bestSeal newSeal,
          isBest = node.algorithm.breakTie bestSeal newSeal)) := by
  unfold chooseFork at h
  rw [hunset] at h
  dsimp only at h
  rcases except_bind_eq_ok h with ⟨conflicts, hconflicts, hrest⟩
  cases conflicts with
  | true =>
      cases hrest
      exact ⟨false, true, rfl, hconflicts, by simp, by simp⟩
  | false =>
      rw [if_neg Bool.false_ne_true] at hrest
      cases hcompare : compare total (readAux s s.best).totalDifficulty with
      | lt =>
          rw [hcompare] at hrest
          cases hrest
          have hlt := Nat.compare_eq_lt.mp hcompare
          exact ⟨false, false, rfl, hconflicts, by simp, fun _ =>
            ⟨fun _ => rfl, fun hgt => absurd hlt (Nat.lt_asymm hgt),
              fun heq => absurd heq (Nat.ne_of_lt hlt)⟩⟩
      | gt =>
          rw [hcompare] at hrest
          cases hrest
          have hgt := Nat.compare_eq_gt.mp hcompare
          exact ⟨true, false, rfl, hconflicts, by simp, fun _ =>
            ⟨fun hlt => absurd hgt (Nat.lt_asymm hlt), fun _ => rfl,
              fun heq => absurd heq (Nat.ne_of_gt hgt)⟩⟩
      | eq =>
          rw [hcompare] at hrest
          rcases except_bind_eq_ok hrest with ⟨bestSeal, _, hseal⟩
          cases hseal
          have heq := Nat.compare_eq_eq.mp hcompare
          exact ⟨_, false, rfl, hconflicts, by simp, fun _ =>
            ⟨fun hlt => absurd heq (Nat.ne_of_lt hlt),
              fun hgt => absurd heq (Nat.ne_of_gt hgt),
              fun _ => ⟨bestSeal, innerSeal, rfl⟩⟩⟩

theorem importBlock_cases {node : Node Hash} (hlawful : node.Lawful)
    {answers : InherentAnswers Hash} {block : BlockImportParams Hash}
    {s t : Client Hash} (hunset : block.forkChoice = none)
    (h : importBlock node answers block s = Except.ok t) :
    t = s ∨ exists request isBest, Fresh request s ∧
      Chosen node s request isBest ∧ t = commit request s := by
  unfold importBlock at h
  rcases except_bind_eq_ok h with ⟨bestHeader, _, h⟩
  dsimp only at h
  rcases except_bind_eq_ok h with ⟨_, _, h⟩
  rcases except_bind_eq_ok h with ⟨innerSeal, _, h⟩
  rcases except_bind_eq_ok h with ⟨difficulty, _, h⟩
  rcases except_bind_eq_ok h with ⟨strategy, hstrategy, hinner⟩
  rcases chooseFork_ok hunset hstrategy with
    ⟨isBest, conflicts, rfl, hconflicts, hverdict⟩
  rcases hlawful _ s t hinner with hsame | ⟨hfresh, hcommit⟩
  · exact Or.inl hsame
  · exact Or.inr ⟨_, isBest, hfresh,
      ⟨rfl, rfl, conflicts, hconflicts, hverdict⟩, hcommit⟩

inductive StepCase (node : Node Hash) (s : Client Hash) :
    Client Hash -> Prop where
  | idle : StepCase node s s
  | imported (request : ImportRequest Hash) (isBest : Bool) :
      Fresh request s -> Chosen node s request isBest ->
      StepCase node s (commit request s)
  | finalized (hash : Hash) :
      Ancestor (parentOf s) s.finalized hash ->
      Ancestor (parentOf s) hash s.best ->
      StepCase node s
        { s with finalized := hash, finalizedNumber := numberOf s hash }

theorem step_cases {node : Node Hash} (hlawful : node.Lawful)
    {s : Client Hash} {label : Label Hash} (hallowed : Allowed s label) :
    StepCase node s (step node s label) := by
  cases label with
  | importBlock answers block =>
      cases himport : importBlock node answers block s with
      | error error =>
          simp only [step, himport]
          exact StepCase.idle
      | ok t =>
          simp only [step, himport]
          rcases importBlock_cases hlawful hallowed himport with
            rfl | ⟨request, isBest, hfresh, hchosen, rfl⟩
          · exact StepCase.idle
          · exact StepCase.imported request isBest hfresh hchosen
  | finalize hash =>
      exact StepCase.finalized hash hallowed.left hallowed.right

/-!
## A new leaf
-/

section Commit

variable {s : Client Hash} {request : ImportRequest Hash}

theorem get_headers_commit (b : Hash) :
    (commit request s).headers.get b =
      if b = request.hash then some request.header else s.headers.get b :=
  StorageMap.get_insert _ _ _ _

theorem readAux_commit (b : Hash) :
    readAux (commit request s) b =
      if b = request.hash then request.aux else readAux s b := by
  show ((s.aux.insert request.hash request.aux).get b).getD {} = _
  rw [StorageMap.get_insert]
  split
  · rfl
  · rfl

theorem Fresh.ne_of_stored (hfresh : Fresh request s) {b : Hash}
    (hb : Stored s b) : b ≠ request.hash := by
  rintro rfl
  exact hfresh.left hb

theorem Fresh.stored_commit (hfresh : Fresh request s) {b : Hash}
    (hb : Stored s b) : Stored (commit request s) b := by
  unfold Stored
  rw [get_headers_commit, if_neg (hfresh.ne_of_stored hb)]
  exact hb

theorem stored_commit_hash : Stored (commit request s) request.hash := by
  unfold Stored
  rw [get_headers_commit, if_pos rfl]
  exact ⟨_, rfl⟩

theorem stored_of_commit {b : Hash} (hb : Stored (commit request s) b) :
    b = request.hash ∨ Stored s b := by
  unfold Stored at hb
  rw [get_headers_commit] at hb
  split at hb
  · exact Or.inl ‹_›
  · exact Or.inr hb

theorem Fresh.numberOf_commit (hfresh : Fresh request s) {b : Hash}
    (hb : Stored s b) : numberOf (commit request s) b = numberOf s b := by
  unfold numberOf
  rw [get_headers_commit, if_neg (hfresh.ne_of_stored hb)]

theorem Fresh.parentOf_commit (hfresh : Fresh request s) (b : Hash)
    (hb : Stored s b) : parentOf (commit request s) b = parentOf s b := by
  unfold parentOf
  rw [get_headers_commit, if_neg (hfresh.ne_of_stored hb)]

theorem Fresh.parentOf_hash (hfresh : Fresh request s) :
    parentOf (commit request s) request.hash =
      some request.header.parentHash := by
  have hne : request.header.number ≠ 0 := by
    rw [hfresh.right.right]
    exact Nat.succ_ne_zero _
  apply parentOf_eq_some.mpr
  refine ⟨request.header, ?_, hne, rfl⟩
  rw [get_headers_commit, if_pos rfl]

theorem Fresh.wellFormed (hfresh : Fresh request s) (hs : WellFormed s) :
    WellFormed (commit request s) := by
  intro b header hget hne
  rw [get_headers_commit] at hget
  split at hget
  · cases hget
    rcases hfresh.right.left with ⟨above, habove⟩
    refine ⟨above, ?_, ?_⟩
    · rw [get_headers_commit,
        if_neg (hfresh.ne_of_stored hfresh.right.left)]
      exact habove
    · rw [hfresh.right.right, numberOf_eq habove]
  · rcases hs b header hget hne with ⟨above, habove, hnumber⟩
    refine ⟨above, ?_, hnumber⟩
    rw [get_headers_commit, if_neg (hfresh.ne_of_stored ⟨above, habove⟩)]
    exact habove

theorem Fresh.ancestor_commit (hfresh : Fresh request s) (hs : WellFormed s)
    {a b : Hash} (hb : Stored s b) :
    Ancestor (parentOf (commit request s)) a b <->
      Ancestor (parentOf s) a b :=
  Ancestor.congr hs.stored_parent hfresh.parentOf_commit hb

theorem Fresh.comparable_hash (hfresh : Fresh request s) (hs : WellFormed s)
    {b : Hash} (hb : Stored s b) :
    Comparable (parentOf (commit request s)) request.hash b <->
      Ancestor (parentOf s) b request.header.parentHash := by
  constructor
  · rintro (habove | hbelow)
    · have hancestor := (hfresh.ancestor_commit hs hb).mp habove
      exact absurd (hancestor.mem_of_closed hs.stored_parent hb) hfresh.left
    · rcases hbelow.eq_or_of_parent with heq | ⟨above, hparent, hrest⟩
      · exact absurd heq (hfresh.ne_of_stored hb)
      · rw [hfresh.parentOf_hash] at hparent
        cases hparent
        exact (hfresh.ancestor_commit hs hfresh.right.left).mp hrest
  · intro hancestor
    exact Or.inr (((hfresh.ancestor_commit hs
      hfresh.right.left).mpr hancestor).of_parent hfresh.parentOf_hash)

theorem totalOf_commit_of_stored (hfresh : Fresh request s) {b : Hash}
    (hb : Stored s b) : totalOf (commit request s) b = totalOf s b := by
  unfold totalOf
  rw [readAux_commit, if_neg (hfresh.ne_of_stored hb)]

theorem totalOf_commit_hash :
    totalOf (commit request s) request.hash =
      request.aux.totalDifficulty := by
  unfold totalOf
  rw [readAux_commit, if_pos rfl]

end Commit

end Pow
end Numen
