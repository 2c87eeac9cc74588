import Numen.Foundation.Arithmetic
import Numen.Pow.Import

/-!
# The reward pallet

`on_finalize` of `pallet-reward` and the author finder of the runtime.  The
currency belongs to another crate and enters as a parameter; `Lawful` states the
documented behaviour of `deposit_creating` that is relied on.
-/

namespace Numen
namespace Reward

open Foundation
open Numen.Pow (ConsensusEngineId DigestItem)

variable {AccountId Ledger : Type}

/-!
## The currency
-/

/-- The part of a currency the pallet uses.  `Ledger` is whatever the currency
stores, in a state that it can reach: nobody holds more than is issued. -/
structure Currency (AccountId Ledger : Type) where
  minimumBalance : Nat
  /-- The largest value of the balance type. -/
  maxBalance : Nat
  totalIssuance : Ledger -> Nat
  /-- `deposit_creating`, with the returned imbalance dropped at once. -/
  depositCreating : AccountId -> Nat -> Ledger -> Ledger

/-- A deposit issues what it credits.  It credits the value or nothing, and the
value if that can open an account and the issuance does not overflow. -/
structure Currency.Lawful (currency : Currency AccountId Ledger) : Prop where
  issuance_le : forall who ledger value,
    currency.totalIssuance ledger ≤
      currency.totalIssuance (currency.depositCreating who value ledger)
  issued_le : forall who ledger value,
    currency.totalIssuance (currency.depositCreating who value ledger) ≤
      currency.totalIssuance ledger + value
  issued_eq : forall who ledger value, currency.minimumBalance ≤ value ->
    currency.totalIssuance ledger + value ≤ currency.maxBalance ->
    currency.totalIssuance (currency.depositCreating who value ledger) =
      currency.totalIssuance ledger + value

/-!
## Finding the author
-/

/-- The constants and types of the pallet's `Config`. -/
structure Config (AccountId Ledger : Type) where
  currency : Currency AccountId Ledger
  findAuthor : List (ConsensusEngineId × List UInt8) -> Option AccountId
  initialReward : Nat
  halvingInterval : Nat

/-- `DigestItem::as_pre_runtime`. -/
def asPreRuntime : DigestItem -> Option (ConsensusEngineId × List UInt8)
  | DigestItem.preRuntime engine data => some (engine, data)
  | DigestItem.seal _ _ => none
  | DigestItem.other _ => none

/-- `find_author` of the pallet, on the digest of the block being built. -/
def findAuthor (cfg : Config AccountId Ledger) (logs : List DigestItem) :
    Option AccountId :=
  cfg.findAuthor (logs.filterMap asPreRuntime)

/-- `PowFindAuthor::find_author`.  The first digest of the engine decides, also
when it does not decode. -/
def powFindAuthor (powEngineId : ConsensusEngineId)
    (decode : List UInt8 -> Option AccountId) :
    List (ConsensusEngineId × List UInt8) -> Option AccountId
  | [] => none
  | (engine, data) :: rest =>
      if engine = powEngineId then decode data
      else powFindAuthor powEngineId decode rest

/-!
## The reward
-/

/-- The loop of `block_reward`: halve until no halvings or no reward are
left. -/
def halve : Nat -> Nat -> Nat
  | 0, reward => reward
  | halvings + 1, reward =>
      if reward = 0 then reward else halve halvings (reward / 2)

def blockReward (cfg : Config AccountId Ledger) (n : Nat) :
    Except Panic Nat := do
  let halvings <- divide n cfg.halvingInterval
  return halve halvings cfg.initialReward

def onFinalize (cfg : Config AccountId Ledger) (n : Nat)
    (logs : List DigestItem) (ledger : Ledger) : Except Panic Ledger :=
  match findAuthor cfg logs with
  | none => Except.ok ledger
  | some author => do
      let reward <- blockReward cfg n
      return if reward = 0 then ledger
        else cfg.currency.depositCreating author reward ledger

/-!
## Chains of blocks
-/

/-- A block: its digest, and whatever else it does to the ledger before the
hook runs. -/
structure Block (Ledger : Type) where
  logs : List DigestItem
  body : Ledger -> Ledger

/-- Execute `blocks` on top of height `n`.  The number is the total the hook has
issued. -/
def mine (cfg : Config AccountId Ledger) :
    Nat -> Ledger -> List (Block Ledger) -> Except Panic (Nat × Ledger)
  | _, ledger, [] => Except.ok (0, ledger)
  | n, ledger, block :: rest => do
      let before := block.body ledger
      let after <- onFinalize cfg (n + 1) block.logs before
      let issued := cfg.currency.totalIssuance after -
        cfg.currency.totalIssuance before
      let (total, ledger) <- mine cfg (n + 1) after rest
      return (issued + total, ledger)

end Reward
end Numen
