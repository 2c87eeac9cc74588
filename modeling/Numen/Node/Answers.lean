import Numen.Node.LogRanges

/-!
# What a server owes its callers

Neither server behind the forwarder knows the whole chain.  What a server that
holds some of the blocks has to answer is said here once, about any server and
any chain, together with a server that does.

A call that names a tag, or no block at all, is about recent blocks: it goes to
the server that has the head, also when the finalized block, or the range whose
fees are asked for, lies elsewhere.
-/

namespace Numen
namespace Node

open Foundation

/-!
## The block a parameter names
-/

/-- The block that a bound without a number stands for. -/
abbrev Tags : Type :=
  Option Value -> Nat

inductive ByHash : Option Value -> Prop where
  | text {text : String} :
      text.utf8ByteSize = 66 -> ByHash (some (Value.string text))
  | object {fields : Fields} :
      Fields.containsKey fields "blockHash" = true ->
      ByHash (some (Value.object fields))
  | nested {fields : Fields} :
      Fields.containsKey fields "blockHash" = false ->
      ByHash (Fields.get fields "blockNumber") ->
      ByHash (some (Value.object fields))

/-- What a bound of a log filter stands for.  A tag has to stand for a recent
block. -/
inductive Bounds (tags : Tags) (recent : Nat -> Prop) :
    Option Value -> Nat -> Prop where
  | earliest : Bounds tags recent (some (Value.string "earliest")) 0
  | quantity {text : String} {n : Nat} :
      IsQuantity text n -> Bounds tags recent (some (Value.string text)) n
  | tag {bound : Option Value} :
      IsTag bound -> recent (tags bound) ->
      Bounds tags recent bound (tags bound)

theorem Bounds.of_quantity {tags : Tags} {recent : Nat -> Prop} {n : Nat}
    (h : n ≤ u64Max) : Bounds tags recent (some (Node.quantity n)) n :=
  Bounds.quantity (isQuantity_quantityText h)

/-- All there is to tell about a chain.  The answer to a call that names no
block depends on the blocks it `reads`: on the head, or on a range of blocks if
it is `eth_feeHistory`.  What is looked up by hash comes with its block; it is
`none` if there is no such thing, or nothing but an error to tell about it. -/
structure History where
  current : Tags -> String -> List Value -> Except ErrorObject Value
  reads : Tags -> String -> List Value -> Nat -> Prop
  atBlock : Nat -> String -> List Value -> Except ErrorObject Value
  find : String -> List Value -> Option (Nat × Value)
  logsAt : Fields -> Nat -> List Value
  logsOf : Fields -> Option (Nat × Value)
  find_ne_null : forall method params n value,
    find method params = some (n, value) -> value ≠ Value.null
  logsAt_congr : forall filter filter', SameButRange filter filter' ->
    logsAt filter' = logsAt filter
  logsOf_ne_nil : forall filter n value,
    logsOf filter = some (n, value) -> value ≠ Value.array []

/-- The logs of the blocks from `low` to `high`. -/
def History.logs (history : History) (filter : Fields) (low high : Nat) :
    Value :=
  Value.array ((List.range' low (high + 1 - low)).flatMap
    (history.logsAt filter))

section Servers

variable {ε : Type}

/-- The answer for something looked up: what was found if its block is held,
and else nothing (`blank`) or an error. -/
structure Told (wrap : ErrorObject -> ε) (blank : Value) (held : Nat -> Prop)
    (found : Option (Nat × Value)) (answer : Except ε Value) : Prop where
  there : forall n value, found = some (n, value) -> held n ->
    answer = Except.ok value
  missing : (forall n value, found = some (n, value) -> ¬ held n) ->
    answer = Except.ok blank ∨ exists error, answer = Except.error (wrap error)

/-- The call looks its block or transaction up by hash. -/
def LooksUp (method : String) (params : List Value) : Prop :=
  methods.lookup method = some Route.hash ∨
    exists position, methods.lookup method = some (Route.block position) ∧
      ByHash (params[position]?)

theorem Told.map {ε' : Type} {wrap : ErrorObject -> ε} {blank : Value}
    {held : Nat -> Prop} {found : Option (Nat × Value)}
    {answer : Except ε Value} (h : Told wrap blank held found answer)
    (f : ε -> ε') :
    Told (f ∘ wrap) blank held found (answer.mapError f) where
  there := by
    intro n value hfound hheld
    rw [h.there n value hfound hheld]
    rfl
  missing := by
    intro hunheld
    rcases h.missing hunheld with hblank | ⟨error, herror⟩
    · rw [hblank]
      exact Or.inl rfl
    · rw [herror]
      exact Or.inr ⟨error, rfl⟩

end Servers

/-!
## A server for every history
-/

def boundOf (tags : Tags) (bound : Option Value) : Nat :=
  match bound with
  | some (Value.string text) =>
      if text = "earliest" then 0 else (parseQuantity text).getD (tags bound)
  | _ => tags bound

mutual

def blockOfValue (tags : Tags) : Value -> Option Nat
  | Value.string text =>
      if text.utf8ByteSize = 66 then none
      else some (boundOf tags (some (Value.string text)))
  | Value.object fields =>
      if Fields.containsKey fields "blockHash" then none
      else blockOfField tags fields
  | value => some (tags (some value))

def blockOfField (tags : Tags) : List (String × Value) -> Option Nat
  | [] => some (tags none)
  | (key, value) :: rest =>
      if key = "blockNumber" then blockOfValue tags value
      else blockOfField tags rest

end

/-- The block a parameter names, unless it does so by hash. -/
def blockOf (tags : Tags) (block : Option Value) : Option Nat :=
  match block with
  | some value => blockOfValue tags value
  | none => some (tags none)

end Node
end Numen
