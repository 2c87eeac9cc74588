import Mathlib.Logic.Basic

/-!
# Finite runs of a labelled system

A system is a total step function together with a predicate saying which labels
are allowed in which state.  Safety properties are proved for one step and
carried to runs by the rules below.
-/

namespace Numen
namespace Foundation

variable {State Label : Type}

/-- `Run allowed step s labels t`: performing `labels` one after another leads
from `s` to `t`, each label being allowed in the state it is performed in. -/
inductive Run (allowed : State -> Label -> Prop)
    (step : State -> Label -> State) : State -> List Label -> State -> Prop where
  | nil (s : State) : Run allowed step s [] s
  | cons {s t : State} {label : Label} {labels : List Label} :
      allowed s label ->
      Run allowed step (step s label) labels t ->
      Run allowed step s (label :: labels) t

namespace Run

variable {allowed : State -> Label -> Prop} {step : State -> Label -> State}

/-- What one step preserves, a run preserves. -/
theorem preserves (Inv : State -> Prop)
    (hstep : forall s label, allowed s label -> Inv s -> Inv (step s label))
    {s t : State} {labels : List Label}
    (hrun : Run allowed step s labels t) (hs : Inv s) : Inv t := by
  induction hrun with
  | nil s =>
      exact hs
  | cons hallowed _ ih =>
      exact ih (hstep _ _ hallowed hs)

theorem append {s t u : State} {first second : List Label}
    (hfirst : Run allowed step s first t)
    (hsecond : Run allowed step t second u) :
    Run allowed step s (first ++ second) u := by
  induction hfirst with
  | nil _ =>
      exact hsecond
  | cons hallowed _ ih =>
      exact Run.cons hallowed (ih hsecond)

theorem single {s : State} {label : Label} (h : allowed s label) :
    Run allowed step s [label] (step s label) :=
  Run.cons h (Run.nil _)

theorem mono {allowed' : State -> Label -> Prop}
    (himp : forall s label, allowed s label -> allowed' s label)
    {s t : State} {labels : List Label}
    (hrun : Run allowed step s labels t) : Run allowed' step s labels t := by
  induction hrun with
  | nil s =>
      exact Run.nil s
  | cons hallowed _ ih =>
      exact Run.cons (himp _ _ hallowed) ih

theorem length_le (rank : State -> Nat)
    (hstep : forall s label, allowed s label -> rank (step s label) < rank s)
    {s t : State} {labels : List Label}
    (hrun : Run allowed step s labels t) : labels.length ≤ rank s := by
  induction hrun with
  | nil s =>
      exact Nat.zero_le _
  | cons hallowed _ ih =>
      exact Nat.lt_of_le_of_lt ih (hstep _ _ hallowed)

/-- Every step of a run performs one of its labels. -/
theorem labelled {s t : State} {labels : List Label}
    (hrun : Run allowed step s labels t) :
    Run (fun s label => allowed s label ∧ label ∈ labels) step s labels t := by
  induction hrun with
  | nil s =>
      exact Run.nil s
  | cons hallowed _ ih =>
      refine Run.cons ⟨hallowed, List.mem_cons_self⟩ (ih.mono ?_)
      intro _ _ h
      exact ⟨h.left, List.mem_cons_of_mem _ h.right⟩

/-- What holds after a run and did not hold before it came about at one of its
steps. -/
theorem exists_turn (Fact : State -> Prop) {s t : State} {labels : List Label}
    (hrun : Run allowed step s labels t) (hs : ¬ Fact s) (ht : Fact t) :
    exists first label second m, labels = first ++ label :: second ∧
      Run allowed step s first m ∧ allowed m label ∧ ¬ Fact m ∧
      Fact (step m label) ∧ Run allowed step (step m label) second t := by
  induction hrun with
  | nil _ =>
      exact absurd ht hs
  | cons hallowed hrest ih =>
      rename_i s t label labels
      by_cases hnow : Fact (step s label)
      · exact ⟨[], label, labels, s, rfl, Run.nil s, hallowed, hs, hnow, hrest⟩
      · rcases ih hnow ht with
          ⟨first, turn, second, m, rfl, hfirst, hturn⟩
        exact ⟨label :: first, turn, second, m, rfl,
          Run.cons hallowed hfirst, hturn⟩

/-- A projection that commutes with the step function carries runs of one
system to runs of another. -/
theorem project {State' : Type} {allowed' : State' -> Label -> Prop}
    {step' : State' -> Label -> State'} (view : State -> State')
    (hallowed : forall s label, allowed s label -> allowed' (view s) label)
    (hstep : forall s label, view (step s label) = step' (view s) label)
    {s t : State} {labels : List Label}
    (hrun : Run allowed step s labels t) :
    Run allowed' step' (view s) labels (view t) := by
  induction hrun with
  | nil s =>
      exact Run.nil _
  | cons h _ ih =>
      rw [hstep] at ih
      exact Run.cons (hallowed _ _ h) ih

end Run

end Foundation
end Numen
