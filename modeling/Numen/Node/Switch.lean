import Numen.Foundation.Arithmetic
import Numen.Foundation.Bisection
import Numen.Foundation.Runs

/-!
# The search for the switch

`Switch::block` finds the first block pallet-revive built and keeps it.  Calls
come in while the chain grows and while other calls are still searching; what a
search found goes into the cell only if no other call was faster.
-/

namespace Numen
namespace Node

open Foundation

/-- What the forwarder reads off the chain. -/
structure Chain where
  bestNumber : Nat
  builtByFrontier : Nat -> Bool

/-!
## The node's client
-/

/-- An item of a header's digest, with the engine of a consensus item. -/
inductive LogItem where
  | consensus (engine : List UInt8)
  | other
deriving DecidableEq

/-- The client's answers.  The outer `Option` is a failed lookup. -/
structure HeaderBackend (Hash : Type) where
  bestNumber : Nat
  hash : Nat -> Option (Option Hash)
  header : Hash -> Option (Option (List LogItem))

/-- The client seen as a chain. -/
def clientChain {Hash : Type} (frontierEngineId : List UInt8)
    (client : HeaderBackend Hash) : Chain where
  bestNumber := client.bestNumber
  builtByFrontier := fun number =>
    if number < 2 ^ 32 then
      match client.hash number with
      | some (some hash) =>
          match client.header hash with
          | some (some logs) =>
              logs.contains (LogItem.consensus frontierEngineId)
          | _ => false
      | _ => false
    else false

/-!
## One call
-/

inductive Search where
  | answered (block : Option Nat)
  | found (revive : Nat)
deriving DecidableEq

/-- `Switch::block` up to `get_or_init`.  `none` means that the loop did not
end. -/
def search (chain : Chain) (cell : Option Nat) : Option Search :=
  match cell with
  | some block => some (Search.answered (some block))
  | none =>
      if chain.bestNumber = 0 ∨
          chain.builtByFrontier chain.bestNumber = true then
        some (Search.answered none)
      else
        (bisect chain.builtByFrontier chain.bestNumber 0
          chain.bestNumber).map Search.found

/-- `get_or_init`: the value in the cell, which is `revive` if it was empty. -/
def getOrInit (cell : Option Nat) (revive : Nat) : Nat :=
  cell.getD revive

/-- `Switch::block` with nothing in between: the answer and the new cell. -/
def switchBlock (chain : Chain) (cell : Option Nat) :
    Option (Option Nat × Option Nat) :=
  (search chain cell).map fun result =>
    match result with
    | Search.answered block => (block, cell)
    | Search.found revive =>
        (some (getOrInit cell revive), some (getOrInit cell revive))

/-!
## Chains that switch once
-/

/-- Frontier built all blocks up to some block, and none after it. -/
def Chain.DownwardClosed (chain : Chain) : Prop :=
  forall m n, 1 ≤ m -> m ≤ n -> n ≤ chain.bestNumber ->
    chain.builtByFrontier n = true -> chain.builtByFrontier m = true

structure Chain.Grows (old new : Chain) : Prop where
  best : old.bestNumber ≤ new.bestNumber
  same : forall n, 1 ≤ n -> n ≤ old.bestNumber ->
    new.builtByFrontier n = old.builtByFrontier n

theorem clientChain_grows {Hash : Type} (frontierEngineId : List UInt8)
    {old new : HeaderBackend Hash} (hbest : old.bestNumber ≤ new.bestNumber)
    (hhash : forall n, n ≤ old.bestNumber -> new.hash n = old.hash n)
    (hheader : forall n hash, n ≤ old.bestNumber ->
      old.hash n = some (some hash) -> new.header hash = old.header hash) :
    (clientChain frontierEngineId old).Grows
      (clientChain frontierEngineId new) where
  best := hbest
  same := by
    intro n _ hn
    unfold clientChain
    dsimp only
    rw [hhash n hn]
    cases hold : old.hash n with
    | none => rfl
    | some answer =>
        cases answer with
        | none => rfl
        | some hash =>
            dsimp only
            rw [hheader n hash hn hold]

/-- `n` is the first block of the chain that Frontier did not build. -/
structure Chain.IsFirst (chain : Chain) (n : Nat) : Prop where
  pos : 1 ≤ n
  le : n ≤ chain.bestNumber
  notBuilt : chain.builtByFrontier n = false
  least : forall m, 1 ≤ m -> m < n -> chain.builtByFrontier m = true

theorem Chain.IsFirst.unique {chain : Chain} {m n : Nat}
    (hm : chain.IsFirst m) (hn : chain.IsFirst n) : m = n := by
  rcases Nat.lt_trichotomy m n with hlt | heq | hgt
  · have hbuilt := hn.least m hm.pos hlt
    rw [hm.notBuilt] at hbuilt
    cases hbuilt
  · exact heq
  · have hbuilt := hm.least n hn.pos hgt
    rw [hn.notBuilt] at hbuilt
    cases hbuilt

theorem Chain.IsFirst.grows {old new : Chain} {n : Nat}
    (hn : old.IsFirst n) (h : old.Grows new) : new.IsFirst n where
  pos := hn.pos
  le := Nat.le_trans hn.le h.best
  notBuilt := (h.same n hn.pos hn.le).trans hn.notBuilt
  least := by
    intro m hm hlt
    rw [h.same m hm (Nat.le_trans (Nat.le_of_lt hlt) hn.le)]
    exact hn.least m hm hlt

theorem Chain.IsFirst.head {chain : Chain} {n : Nat}
    (hclosed : chain.DownwardClosed) (hn : chain.IsFirst n) :
    ¬ (chain.bestNumber = 0 ∨
      chain.builtByFrontier chain.bestNumber = true) := by
  rintro (hzero | hbuilt)
  · have hpos := hn.pos
    have hle := hn.le
    lia
  · have hfirst := hclosed n chain.bestNumber hn.pos hn.le
      (Nat.le_refl chain.bestNumber) hbuilt
    rw [hn.notBuilt] at hfirst
    cases hfirst

theorem bisect_isFirst {chain : Chain} (hclosed : chain.DownwardClosed)
    (hhead : ¬ (chain.bestNumber = 0 ∨
      chain.builtByFrontier chain.bestNumber = true)) :
    exists n, bisect chain.builtByFrontier chain.bestNumber 0
        chain.bestNumber = some n ∧ chain.IsFirst n := by
  have hbest : 0 < chain.bestNumber := by lia
  have hnotBuilt : chain.builtByFrontier chain.bestNumber = false :=
    Bool.eq_false_iff.mpr fun hbuilt => hhead (Or.inr hbuilt)
  rcases bisect_turns chain.builtByFrontier hbest
    (Nat.le_succ chain.bestNumber) with ⟨n, hfound, hturns⟩
  refine ⟨n, hfound, hturns.above, hturns.upTo, ?_, ?_⟩
  · rcases hturns.here with hlast | hhere
    · rw [hlast]
      exact hnotBuilt
    · exact hhere
  · intro m hm hlt
    rcases hturns.before with hone | hbefore
    · lia
    · have hupTo := hturns.upTo
      exact hclosed m (n - 1) hm (by lia) (by lia) hbefore

/-!
## Calls and growth in any order
-/

/-- The chain, the cell, what searches found but did not store yet, and the
answers given. -/
structure Watch where
  chain : Chain
  cell : Option Nat
  found : List Nat
  answers : List (Option Nat)

/-- A fresh `Switch`. -/
def Watch.new (chain : Chain) : Watch where
  chain := chain
  cell := none
  found := []
  answers := []

inductive WatchLabel where
  | grow (chain : Chain)
  | call
  | store (search : Nat)

namespace Watch

def answer (w : Watch) (block : Option Nat) : Watch :=
  { w with answers := w.answers ++ [block] }

def step (w : Watch) : WatchLabel -> Watch
  | WatchLabel.grow chain => { w with chain := chain }
  | WatchLabel.call =>
      match search w.chain w.cell with
      | some (Search.answered block) => w.answer block
      | some (Search.found revive) => { w with found := w.found ++ [revive] }
      | none => w
  | WatchLabel.store search =>
      match w.found[search]? with
      | some revive =>
          { w with
            cell := some (getOrInit w.cell revive)
            found := w.found.eraseIdx search }.answer
              (some (getOrInit w.cell revive))
      | none => w

def Allowed (w : Watch) : WatchLabel -> Prop
  | WatchLabel.grow chain => w.chain.Grows chain ∧ chain.DownwardClosed
  | _ => True

structure Settled (w : Watch) : Prop where
  closed : w.chain.DownwardClosed
  cell : forall n, w.cell = some n -> w.chain.IsFirst n
  found : ∀ n ∈ w.found, w.chain.IsFirst n
  answers : forall n, some n ∈ w.answers -> w.chain.IsFirst n

theorem new_settled {chain : Chain} (hclosed : chain.DownwardClosed) :
    Settled (new chain) where
  closed := hclosed
  cell := by
    intro n hcell
    cases hcell
  found := by
    intro n hfound
    cases hfound
  answers := by
    intro n hanswer
    cases hanswer

theorem Settled.grow {w : Watch} (hw : Settled w) {chain : Chain}
    (hgrows : w.chain.Grows chain) (hclosed : chain.DownwardClosed) :
    Settled { w with chain := chain } where
  closed := hclosed
  cell := fun n hcell => (hw.cell n hcell).grows hgrows
  found := fun n hfound => (hw.found n hfound).grows hgrows
  answers := fun n hanswer => (hw.answers n hanswer).grows hgrows

theorem Settled.answer {w : Watch} (hw : Settled w) {block : Option Nat}
    (hblock : forall n, block = some n -> w.chain.IsFirst n) :
    Settled (w.answer block) where
  closed := hw.closed
  cell := hw.cell
  found := hw.found
  answers := by
    intro n hanswer
    rcases List.mem_append.mp hanswer with hold | hnew
    · exact hw.answers n hold
    · exact hblock n (List.mem_singleton.mp hnew).symm

theorem Settled.search_cases {w : Watch} (hw : Settled w) :
    (exists n, w.cell = some n ∧ w.chain.IsFirst n ∧
        search w.chain w.cell = some (Search.answered (some n))) ∨
      (w.cell = none ∧
        (w.chain.bestNumber = 0 ∨
          w.chain.builtByFrontier w.chain.bestNumber = true) ∧
        search w.chain w.cell = some (Search.answered none)) ∨
      (w.cell = none ∧ exists n, w.chain.IsFirst n ∧
        search w.chain w.cell = some (Search.found n)) := by
  cases hcell : w.cell with
  | some n => exact Or.inl ⟨n, rfl, hw.cell n hcell, rfl⟩
  | none =>
      by_cases hhead : w.chain.bestNumber = 0 ∨
          w.chain.builtByFrontier w.chain.bestNumber = true
      · exact Or.inr (Or.inl ⟨rfl, hhead, if_pos hhead⟩)
      · rcases bisect_isFirst hw.closed hhead with ⟨n, hfound, hfirst⟩
        refine Or.inr (Or.inr ⟨rfl, n, hfirst, ?_⟩)
        unfold search
        dsimp only
        rw [if_neg hhead, hfound]
        rfl

theorem Settled.getOrInit {w : Watch} (hw : Settled w) {n : Nat}
    (hn : w.chain.IsFirst n) : getOrInit w.cell n = n := by
  unfold Node.getOrInit
  cases hcell : w.cell with
  | none => rfl
  | some m => exact (hw.cell m hcell).unique hn

theorem step_settled {w : Watch} {label : WatchLabel}
    (hallowed : Allowed w label) (hw : Settled w) : Settled (w.step label) := by
  cases label with
  | grow chain => exact hw.grow hallowed.left hallowed.right
  | call =>
      unfold step
      dsimp only
      rcases hw.search_cases with
        ⟨n, _, hfirst, hsearch⟩ | ⟨_, _, hsearch⟩ | ⟨_, n, hfirst, hsearch⟩
      · rw [hsearch]
        refine hw.answer ?_
        intro m hm
        cases hm
        exact hfirst
      · rw [hsearch]
        refine hw.answer ?_
        intro m hm
        cases hm
      · rw [hsearch]
        refine ⟨hw.closed, hw.cell, ?_, hw.answers⟩
        intro m hm
        rcases List.mem_append.mp hm with hold | hnew
        · exact hw.found m hold
        · rw [List.mem_singleton.mp hnew]
          exact hfirst
  | store search =>
      unfold step
      dsimp only
      cases hget : w.found[search]? with
      | none => exact hw
      | some revive =>
          have hfirst := hw.found revive (List.mem_of_getElem? hget)
          have hstored := hw.getOrInit hfirst
          have hsome : forall n, some (Node.getOrInit w.cell revive) =
              some n -> w.chain.IsFirst n := by
            intro n hn
            rw [hstored] at hn
            cases hn
            exact hfirst
          have hkept : Settled { w with
              cell := some (Node.getOrInit w.cell revive)
              found := w.found.eraseIdx search } :=
            ⟨hw.closed, hsome,
              fun n hn => hw.found n (List.mem_of_mem_eraseIdx hn),
              hw.answers⟩
          exact hkept.answer hsome

/-- `labels` leads from a fresh `Switch` on some chain to `w`. -/
def ReachedBy (labels : List WatchLabel) (w : Watch) : Prop :=
  exists chain : Chain, chain.DownwardClosed ∧
    Run Allowed step (new chain) labels w

theorem ReachedBy.settled {labels : List WatchLabel} {w : Watch}
    (h : ReachedBy labels w) : Settled w := by
  rcases h with ⟨chain, hclosed, hrun⟩
  exact hrun.preserves Settled (fun _ _ => step_settled) (new_settled hclosed)

end Watch

/-- However calls and growth interleaved so far, the next call ends; it answers
`None` exactly as long as there is no head that Frontier did not build, and else
with the first block Frontier did not build.  Every answer that named a block
named this one. -/
theorem switch_is_found_and_kept {labels : List WatchLabel} {w : Watch}
    (hw : Watch.ReachedBy labels w) :
    (exists block cell, switchBlock w.chain w.cell = some (block, cell) ∧
      (block = none <-> w.chain.bestNumber = 0 ∨
        w.chain.builtByFrontier w.chain.bestNumber = true) ∧
      forall n, block = some n -> w.chain.IsFirst n ∧ cell = some n) ∧
    (forall n, some n ∈ w.answers -> w.chain.IsFirst n) ∧
    forall m n, some m ∈ w.answers -> some n ∈ w.answers -> m = n := by
  have hsettled := hw.settled
  refine ⟨?_, hsettled.answers, ?_⟩
  · unfold switchBlock
    rcases hsettled.search_cases with
      ⟨n, hcell, hfirst, hsearch⟩ | ⟨hcell, hhead, hsearch⟩ |
        ⟨hcell, n, hfirst, hsearch⟩
    · refine ⟨some n, w.cell, by rw [hsearch]; rfl, ?_, ?_⟩
      · exact iff_of_false (Option.some_ne_none n)
          (hfirst.head hsettled.closed)
      · intro m hm
        cases hm
        exact ⟨hfirst, hcell⟩
    · refine ⟨none, w.cell, by rw [hsearch]; rfl, iff_of_true rfl hhead, ?_⟩
      intro m hm
      cases hm
    · have hstored := hsettled.getOrInit hfirst
      refine ⟨some n, some n, ?_, ?_, ?_⟩
      · rw [hsearch, Option.map_some]
        dsimp only
        rw [hstored]
      · exact iff_of_false (Option.some_ne_none n)
          (hfirst.head hsettled.closed)
      · intro m hm
        cases hm
        exact ⟨hfirst, rfl⟩
  · intro m n hm hn
    exact (hsettled.answers m hm).unique (hsettled.answers n hn)

/-- Frontier builds the first `last` blocks of a chain of height `best`. -/
def switchesAfter (last best : Nat) : Chain where
  bestNumber := best
  builtByFrontier := fun number => decide (number ≤ last)

theorem switchesAfter_closed (last best : Nat) :
    (switchesAfter last best).DownwardClosed := by
  intro m n _ hle _ hbuilt
  exact decide_eq_true (Nat.le_trans hle (of_decide_eq_true hbuilt))

/-- A call before the upgrade, two that search at once after it, and one that
finds the cell filled. -/
theorem two_searches_agree :
    let w := [WatchLabel.call, WatchLabel.grow (switchesAfter 6 9),
      WatchLabel.call, WatchLabel.call, WatchLabel.store 1,
      WatchLabel.store 0, WatchLabel.grow (switchesAfter 6 15),
      WatchLabel.call].foldl Watch.step (Watch.new (switchesAfter 6 5))
    w.answers = [none, some 7, some 7, some 7] ∧
      (switchesAfter 6 15).IsFirst 7 := by
  intro w
  have hreached : Watch.ReachedBy [WatchLabel.call,
      WatchLabel.grow (switchesAfter 6 9), WatchLabel.call, WatchLabel.call,
      WatchLabel.store 1, WatchLabel.store 0,
      WatchLabel.grow (switchesAfter 6 15), WatchLabel.call] w := by
    refine ⟨switchesAfter 6 5, switchesAfter_closed 6 5, ?_⟩
    refine Run.cons True.intro (Run.cons ?_ (Run.cons True.intro (Run.cons
      True.intro (Run.cons True.intro (Run.cons True.intro (Run.cons ?_
        (Run.single True.intro)))))))
    · exact ⟨⟨by decide, fun _ _ _ => rfl⟩, switchesAfter_closed 6 9⟩
    · exact ⟨⟨by decide, fun _ _ _ => rfl⟩, switchesAfter_closed 6 15⟩
  have hanswers : w.answers = [none, some 7, some 7, some 7] := by
    decide
  refine ⟨hanswers, (switch_is_found_and_kept hreached).right.left 7 ?_⟩
  rw [hanswers]
  simp

end Node
end Numen
