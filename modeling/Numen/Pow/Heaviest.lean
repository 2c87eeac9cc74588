import Numen.Pow.Conflicts
import Numen.Pow.ForkChoice

/-!
# The best block is the heaviest one finality allows

Total difficulties add up along every chain, the best block extends the
finalized one, and no block compatible with finality outweighs it.
-/

namespace Numen
namespace Pow

open Foundation

variable {Hash : Type} [DecidableEq Hash]

/-!
## Total difficulty
-/

/-- The blocks after block zero on the way to a block, the block first. -/
inductive Lineage (s : Client Hash) : Hash -> List Hash -> Prop where
  | zero {b : Hash} {header : Header Hash} :
      s.headers.get b = some header -> header.number = 0 -> Lineage s b []
  | child {b above : Hash} {rest : List Hash} :
      parentOf s b = some above -> Lineage s above rest ->
      Lineage s b (b :: rest)

/-- Block zero has no entry; every other block has one, which adds its own
difficulty to the total of its parent. -/
structure Totals (s : Client Hash) : Prop where
  zero : forall b header, s.headers.get b = some header ->
    header.number = 0 -> s.aux.get b = none
  child : forall b above, parentOf s b = some above ->
    exists aux, s.aux.get b = some aux ∧
      aux.totalDifficulty = satAdd u256Max (totalOf s above) aux.difficulty

theorem WellFormed.exists_lineage {s : Client Hash} (hs : WellFormed s)
    (number : Nat) (b : Hash) (hb : Stored s b)
    (hnumber : numberOf s b = number) : exists blocks, Lineage s b blocks := by
  induction number generalizing b with
  | zero =>
      rcases hb with ⟨header, hget⟩
      rw [numberOf_eq hget] at hnumber
      exact ⟨[], Lineage.zero hget hnumber⟩
  | succ number ih =>
      rcases hb with ⟨header, hget⟩
      rw [numberOf_eq hget] at hnumber
      have hne : header.number ≠ 0 := by lia
      rcases hs b header hget hne with ⟨above, habove, hstep⟩
      have hparent : parentOf s b = some header.parentHash :=
        parentOf_eq_some.mpr ⟨header, hget, hne, rfl⟩
      have hnumber' : numberOf s header.parentHash = number := by
        rw [numberOf_eq habove]
        lia
      rcases ih header.parentHash ⟨above, habove⟩ hnumber' with
        ⟨rest, hrest⟩
      exact ⟨b :: rest, Lineage.child hparent hrest⟩

theorem Totals.totalOf_eq_sum {s : Client Hash} (hs : Totals s) {b : Hash}
    {blocks : List Hash} (h : Lineage s b blocks) :
    totalOf s b =
      min (blocks.map fun x => (readAux s x).difficulty).sum u256Max := by
  induction h with
  | zero hget hnumber =>
      unfold totalOf readAux
      rw [hs.zero _ _ hget hnumber]
      simp
  | @child b above rest hparent _ ih =>
      rcases hs.child b above hparent with ⟨aux, haux, htotal⟩
      have hread : readAux s b = aux := by
        unfold readAux
        rw [haux]
        rfl
      rw [List.map_cons, List.sum_cons, Nat.add_comm]
      show (readAux s b).totalDifficulty = _
      rw [hread, htotal, ih, satAdd_min_left]

theorem commit_totals {node : Node Hash} {s : Client Hash}
    {request : ImportRequest Hash} {isBest : Bool} (hfresh : Fresh request s)
    (hchosen : Chosen node s request isBest) (hwf : WellFormed s)
    (hs : Totals s) : Totals (commit request s) := by
  have hget : forall b, (commit request s).aux.get b =
      if b = request.hash then some request.aux else s.aux.get b := by
    intro b
    exact StorageMap.get_insert _ _ _ _
  constructor
  · intro b header hheader hzero
    rw [get_headers_commit] at hheader
    split at hheader
    · cases hheader
      rw [hfresh.right.right] at hzero
      cases hzero
    · rename_i hne
      rw [hget, if_neg hne]
      exact hs.zero b header hheader hzero
  · intro b above hparent
    rw [hget]
    by_cases hnew : b = request.hash
    · subst hnew
      rw [hfresh.parentOf_hash] at hparent
      cases hparent
      refine ⟨request.aux, if_pos rfl, ?_⟩
      rw [totalOf_commit_of_stored hfresh hfresh.right.left]
      exact hchosen.total
    · rw [if_neg hnew]
      have hb : Stored s b := by
        rcases parentOf_eq_some.mp hparent with ⟨header, hheader, _, _⟩
        exact (stored_of_commit ⟨header, hheader⟩).resolve_left hnew
      rw [hfresh.parentOf_commit b hb] at hparent
      rcases hs.child b above hparent with ⟨aux, haux, htotal⟩
      refine ⟨aux, haux, ?_⟩
      rw [totalOf_commit_of_stored hfresh
        (hwf.stored_parent b above hb hparent)]
      exact htotal

/-!
## The best block
-/

structure Heaviest (s : Client Hash) : Prop where
  wellFormed : WellFormed s
  totals : Totals s
  best_stored : Stored s s.best
  finalized_stored : Stored s s.finalized
  finalizedNumber : numberOf s s.finalized = s.finalizedNumber
  descends : Ancestor (parentOf s) s.finalized s.best
  heaviest : forall b, Stored s b -> Comparable (parentOf s) b s.finalized ->
    totalOf s b ≤ totalOf s s.best

theorem genesis_heaviest (genesis : Hash) {header : Header Hash}
    (hzero : header.number = 0) : Heaviest (genesisClient genesis header) := by
  have hget : forall b header',
      (genesisClient genesis header).headers.get b = some header' ->
        b = genesis ∧ header' = header := by
    intro b header' hheader
    have hinsert : (genesisClient genesis header).headers.get b =
        if b = genesis then some header else StorageMap.empty.get b :=
      StorageMap.get_insert StorageMap.empty genesis b header
    rw [hheader, StorageMap.get_empty] at hinsert
    split at hinsert
    · exact ⟨‹_›, Option.some.inj hinsert⟩
    · cases hinsert
  have hself : (genesisClient genesis header).headers.get genesis =
      some header := StorageMap.get_insert_self StorageMap.empty genesis header
  have hstored : Stored (genesisClient genesis header) genesis :=
    ⟨header, hself⟩
  refine ⟨?_, ⟨?_, ?_⟩, hstored, hstored, ?_, Ancestor.refl genesis, ?_⟩
  · intro b header' hheader hne
    rw [(hget b header' hheader).right] at hne
    exact absurd hzero hne
  · intro b _ _ _
    exact StorageMap.get_empty b
  · intro b above hparent
    rcases parentOf_eq_some.mp hparent with ⟨header', hheader, hne, _⟩
    rw [(hget b header' hheader).right] at hne
    exact absurd hzero hne
  · exact (numberOf_eq hself).trans hzero
  · rintro b ⟨header', hheader⟩ _
    rw [(hget b header' hheader).left]
    exact Nat.le_refl _

/-- A new block is made best only if it extends the finalized block and is not
lighter than the best one, and it has to be made best if it is heavier. -/
theorem Chosen.isBest_spec {node : Node Hash} {s : Client Hash}
    {request : ImportRequest Hash} {isBest : Bool}
    (hchosen : Chosen node s request isBest) (hfresh : Fresh request s)
    (hs : Heaviest s) :
    (isBest = true ->
      Ancestor (parentOf s) s.finalized request.header.parentHash ∧
        totalOf s s.best ≤ request.aux.totalDifficulty) ∧
    (isBest = false ->
      Ancestor (parentOf s) s.finalized request.header.parentHash ->
        request.aux.totalDifficulty ≤ totalOf s s.best) := by
  rcases hchosen.verdict with ⟨conflicts, hconflicts, hrejected, hcompared⟩
  rcases finalityConflicts_of_new hs.wellFormed hfresh.left hfresh.right.left
      hfresh.right.right hs.finalized_stored with
    ⟨conflicts', hconflicts', hiff⟩
  rw [hs.finalizedNumber, hconflicts] at hconflicts'
  cases hconflicts'
  constructor
  · intro hbest
    have hpasses : conflicts = false := by
      cases conflicts with
      | true =>
          rw [hrejected rfl] at hbest
          cases hbest
      | false => rfl
    refine ⟨hiff.mp hpasses, ?_⟩
    by_contra hlt
    have hnot := (hcompared hpasses).left (Nat.not_le.mp hlt)
    rw [hbest] at hnot
    cases hnot
  · intro hnotBest hancestor
    have hpasses := hiff.mpr hancestor
    by_contra hgt
    have hbest := (hcompared hpasses).right.left (Nat.not_le.mp hgt)
    rw [hnotBest] at hbest
    cases hbest

theorem commit_best {request : ImportRequest Hash} {s : Client Hash}
    {isBest : Bool}
    (hchoice : request.forkChoice = ForkChoiceStrategy.custom isBest) :
    (commit request s).best = if isBest = true then request.hash
      else s.best := by
  unfold commit
  rw [hchoice]
  cases isBest with
  | true => rfl
  | false => rfl

theorem commit_heaviest {node : Node Hash} {s : Client Hash}
    {request : ImportRequest Hash} {isBest : Bool} (hfresh : Fresh request s)
    (hchosen : Chosen node s request isBest) (hs : Heaviest s) :
    Heaviest (commit request s) := by
  have hspec := hchosen.isBest_spec hfresh hs
  have hbest := commit_best (s := s) hchosen.forkChoice
  have hcomparable : forall b, Stored s b ->
      (Comparable (parentOf (commit request s)) b s.finalized <->
        Comparable (parentOf s) b s.finalized) := by
    intro b hb
    unfold Comparable
    rw [hfresh.ancestor_commit hs.wellFormed hb,
      hfresh.ancestor_commit hs.wellFormed hs.finalized_stored]
  have hleaf := hfresh.comparable_hash hs.wellFormed hs.finalized_stored
  have hfinalized : (commit request s).finalized = s.finalized := rfl
  refine ⟨hfresh.wellFormed hs.wellFormed,
    commit_totals hfresh hchosen hs.wellFormed hs.totals, ?_,
    hfresh.stored_commit hs.finalized_stored,
    (hfresh.numberOf_commit hs.finalized_stored).trans hs.finalizedNumber,
    ?_, ?_⟩
  · rw [hbest]
    split
    · exact stored_commit_hash
    · exact hfresh.stored_commit hs.best_stored
  · rw [hbest, hfinalized]
    split
    · rename_i htrue
      exact ((hfresh.ancestor_commit hs.wellFormed hfresh.right.left).mpr
        (hspec.left htrue).left).of_parent hfresh.parentOf_hash
    · exact (hfresh.ancestor_commit hs.wellFormed hs.best_stored).mpr
        hs.descends
  · intro b hb hcompat
    rw [hfinalized] at hcompat
    rw [hbest]
    rcases stored_of_commit hb with rfl | hold
    · have hancestor := hleaf.mp hcompat
      rw [totalOf_commit_hash]
      split
      · rw [totalOf_commit_hash]
      · rename_i hfalse
        rw [totalOf_commit_of_stored hfresh hs.best_stored]
        exact hspec.right (Bool.eq_false_iff.mpr hfalse) hancestor
    · have hle := hs.heaviest b hold ((hcomparable b hold).mp hcompat)
      rw [totalOf_commit_of_stored hfresh hold]
      split
      · rename_i htrue
        rw [totalOf_commit_hash]
        exact Nat.le_trans hle (hspec.left htrue).right
      · rw [totalOf_commit_of_stored hfresh hs.best_stored]
        exact hle

theorem finalize_heaviest {s : Client Hash} {hash : Hash}
    (habove : Ancestor (parentOf s) s.finalized hash)
    (hbelow : Ancestor (parentOf s) hash s.best) (hs : Heaviest s) :
    Heaviest { s with finalized := hash, finalizedNumber := numberOf s hash } where
  wellFormed := hs.wellFormed
  totals := ⟨hs.totals.zero, hs.totals.child⟩
  best_stored := hs.best_stored
  finalized_stored :=
    hbelow.mem_of_closed hs.wellFormed.stored_parent hs.best_stored
  finalizedNumber := rfl
  descends := hbelow
  heaviest := by
    intro b hb hcompat
    refine hs.heaviest b hb ?_
    rcases hcompat with hancestor | hdescendant
    · exact Ancestor.comparable hancestor habove
    · exact Or.inr (habove.trans hdescendant)

theorem step_heaviest {node : Node Hash} (hlawful : node.Lawful)
    {s : Client Hash} {label : Label Hash} (hallowed : Allowed s label)
    (hs : Heaviest s) : Heaviest (step node s label) := by
  have hcase := step_cases hlawful hallowed
  generalize step node s label = t at hcase ⊢
  cases hcase with
  | idle => exact hs
  | imported request isBest hfresh hchosen =>
      exact commit_heaviest hfresh hchosen hs
  | finalized hash habove hbelow => exact finalize_heaviest habove hbelow hs

def RootedAt (genesis : Hash) (s : Client Hash) : Prop :=
  forall b, Stored s b -> b ≠ genesis ->
    exists above, parentOf s b = some above

theorem genesis_rootedAt (genesis : Hash) (header : Header Hash) :
    RootedAt genesis (genesisClient genesis header) := by
  rintro b ⟨header', hget⟩ hne
  have hinsert := StorageMap.get_insert_of_ne StorageMap.empty header hne
  rw [StorageMap.get_empty] at hinsert
  cases hinsert.symm.trans hget

theorem step_rootedAt {node : Node Hash} (hlawful : node.Lawful)
    {genesis : Hash} {s : Client Hash} {label : Label Hash}
    (hallowed : Allowed s label) (hs : RootedAt genesis s) :
    RootedAt genesis (step node s label) := by
  have hcase := step_cases hlawful hallowed
  generalize step node s label = t at hcase ⊢
  cases hcase with
  | idle => exact hs
  | imported request isBest hfresh hchosen =>
      intro b hb hne
      rcases stored_of_commit hb with rfl | hold
      · exact ⟨_, hfresh.parentOf_hash⟩
      · rw [hfresh.parentOf_commit b hold]
        exact hs b hold hne
  | finalized hash habove hbelow => exact hs

/-- With the default tie break a step that moves the best block moves it to a
strictly heavier one. -/
theorem step_best_heavier {node : Node Hash} (hlawful : node.Lawful)
    (hdefault : node.algorithm.breakTie = defaultBreakTie) {s : Client Hash}
    {label : Label Hash} (hallowed : Allowed s label) (hs : Heaviest s)
    (hmoved : (step node s label).best ≠ s.best) :
    totalOf s s.best < totalOf (step node s label) (step node s label).best := by
  have hcase := step_cases hlawful hallowed
  generalize step node s label = t at hcase hmoved ⊢
  cases hcase with
  | idle => exact absurd rfl hmoved
  | imported request isBest hfresh hchosen =>
      rw [commit_best hchosen.forkChoice] at hmoved ⊢
      cases isBest with
      | false => exact absurd rfl hmoved
      | true =>
          have hle := ((hchosen.isBest_spec hfresh hs).left rfl).right
          rw [if_pos rfl, totalOf_commit_hash]
          rcases hchosen.verdict with ⟨conflicts, _, hrejected, hcompared⟩
          cases conflicts with
          | true => cases hrejected rfl
          | false =>
              rcases Nat.lt_or_eq_of_le hle with hlt | heq
              · exact hlt
              · rcases (hcompared rfl).right.right heq.symm with
                  ⟨bestSeal, newSeal, hbroken⟩
                rw [hdefault] at hbroken
                cases hbroken
  | finalized hash habove hbelow => exact absurd rfl hmoved

/-- In every state a run reaches, each imported block stores the saturated sum
of the difficulties on its chain, the best block is the finalized one or
descends from it, and no imported block compatible with finality is heavier
than the best one.  With the default tie break the best block only ever moves
to a strictly heavier one. -/
theorem best_block_is_heaviest_unfinalized {node : Node Hash}
    (hlawful : node.Lawful) {genesis : Hash} {header : Header Hash}
    {labels : List (Label Hash)} {s : Client Hash}
    (hs : ReachedBy node genesis header labels s) :
    (forall b, Stored s b -> b ≠ genesis ->
      exists blocks aux, Lineage s b blocks ∧ s.aux.get b = some aux ∧
        aux.totalDifficulty =
          min (blocks.map fun x => (readAux s x).difficulty).sum u256Max) ∧
    Ancestor (parentOf s) s.finalized s.best ∧
    (forall b, Stored s b -> Comparable (parentOf s) b s.finalized ->
      totalOf s b ≤ totalOf s s.best) ∧
    (node.algorithm.breakTie = defaultBreakTie ->
      forall label, Allowed s label ->
        (step node s label).best ≠ s.best ->
        totalOf s s.best <
          totalOf (step node s label) (step node s label).best) := by
  rcases hs with ⟨hzero, hrun⟩
  have hheaviest : Heaviest s :=
    hrun.preserves Heaviest (fun _ _ => step_heaviest hlawful)
      (genesis_heaviest genesis hzero)
  have hrooted : RootedAt genesis s :=
    hrun.preserves (RootedAt genesis) (fun _ _ => step_rootedAt hlawful)
      (genesis_rootedAt genesis header)
  refine ⟨?_, hheaviest.descends, hheaviest.heaviest, ?_⟩
  · intro b hb hne
    rcases hrooted b hb hne with ⟨above, hparent⟩
    rcases hheaviest.wellFormed.exists_lineage _ b hb rfl with
      ⟨blocks, hblocks⟩
    rcases hheaviest.totals.child b above hparent with ⟨aux, haux, _⟩
    refine ⟨blocks, aux, hblocks, haux, ?_⟩
    rw [← hheaviest.totals.totalOf_eq_sum hblocks]
    unfold totalOf readAux
    rw [haux]
    rfl
  · intro hdefault label hallowed hmoved
    exact step_best_heavier hlawful hdefault hallowed hheaviest hmoved

/-!
## A small instance
-/

/-- A client behind the importer that commits fresh blocks and refuses all
others. -/
def commitFresh (request : ImportRequest Hash) (s : Client Hash) :
    Except (Error Hash) (Client Hash) :=
  if s.headers.containsKey request.hash = false ∧
      s.headers.containsKey request.header.parentHash = true ∧
      request.header.number = numberOf s request.header.parentHash + 1 then
    Except.ok (commit request s)
  else
    Except.error Error.inner

theorem lawful_of_commitFresh {node : Node Hash} (h : node.inner = commitFresh) :
    node.Lawful := by
  intro request s t hinner
  rw [h] at hinner
  unfold commitFresh at hinner
  split at hinner
  · rename_i hfresh
    refine Or.inr ⟨⟨?_, ?_, hfresh.right.right⟩, (Except.ok.inj hinner).symm⟩
    · intro hstored
      rw [StorageMap.containsKey_eq_true.mpr hstored] at hfresh
      cases hfresh.left
    · exact StorageMap.containsKey_eq_true.mp hfresh.right.left
  · cases hinner

/-- Any header hash will do; a block's difficulty is the length of its
timestamp inherent and every seal is valid. -/
def toyNode : Node Nat :=
  { hash := fun header => 10 * header.parentHash + header.logs.length
    powEngineId := Vector.mk (List.toArray [112, 111, 119, 95]) rfl
    algorithm :=
      { difficulty := fun _ inherent => Except.ok inherent.length
        breakTie := defaultBreakTie
        verify := fun _ _ _ _ _ => Except.ok true }
    checkInherentsAfter := 0
    inner := commitFresh }

theorem toyNode_lawful : toyNode.Lawful :=
  lawful_of_commitFresh rfl

/-- A child of block zero with `pre` leading logs and the given inherent. -/
def toyBlock (pre : List DigestItem) (inherent : List UInt8) :
    Label Nat :=
  Label.importBlock ⟨Except.ok (), Except.ok ()⟩
    { header := { parentHash := 0, number := 1, logs := pre }
      postDigests := [DigestItem.seal toyNode.powEngineId []]
      body := some [inherent]
      skipExecutionChecks := false
      forkChoice := none }

/-- Two children of block zero, the heavier one second: it becomes the best
block, above the finalized block zero. -/
theorem heavier_sibling_takes_over :
    let zero : Header Nat := { parentHash := 0, number := 0, logs := [] }
    let light := toyBlock [] [1, 2]
    let heavy := toyBlock [DigestItem.other []] [1, 2, 3]
    let s := step toyNode (step toyNode (genesisClient 0 zero) light) heavy
    s.best = 2 ∧ totalOf s 1 ≤ totalOf s s.best ∧
      Ancestor (parentOf s) s.finalized s.best := by
  intro zero light heavy s
  have hreached : ReachedBy toyNode 0 zero [light, heavy] s :=
    ⟨rfl, Run.cons rfl (Run.single rfl)⟩
  have hmain := best_block_is_heaviest_unfinalized toyNode_lawful hreached
  have hstored : Stored s 1 :=
    StorageMap.containsKey_eq_true.mp (by decide +kernel)
  have hparent : parentOf s 1 = some s.finalized := by
    decide +kernel
  have hcomparable : Comparable (parentOf s) 1 s.finalized :=
    Or.inr ((Ancestor.refl s.finalized).of_parent hparent)
  exact ⟨rfl, hmain.right.right.left 1 hstored hcomparable, hmain.right.left⟩

end Pow
end Numen
