import Numen.Foundation.Arithmetic
import Numen.Foundation.Storage

/-!
# Storage of the validator pallet

The configuration constants, the lock records and the storage items of
`pallet-validator`, together with the two neighbours it writes to: the currency
that holds the stake and the event log.

Everything the pallet only reads from other pallets (session keys, identity
verdicts, free balances) is an argument of the call that reads it, so it may
differ from one call to the next in any way at all.
-/

namespace Numen
namespace Validator

open Foundation

/-- Lifecycle state of a validator's stake. -/
inductive ValidatorStatus where
  | active
  | exitRequested
  | kicked
deriving DecidableEq, Repr

/-- Lock record for a validator's stake. -/
structure LockInfo where
  amount : Nat
  lockBlock : Nat
  expiryBlock : Nat
  status : ValidatorStatus
deriving DecidableEq, Repr

inductive KickReason where
  | offline
  | equivocation
deriving DecidableEq, Repr

inductive Event (AccountId : Type) where
  | validatorLocked (who : AccountId) (amount expiryBlock : Nat)
  | validatorExitRequested (who : AccountId)
  | validatorKicked (who : AccountId) (reason : KickReason)
  | lockReleased (who : AccountId) (amount : Nat)
  | equivocationReported (who : AccountId)
  | pendingValidatorDropped (who : AccountId)
  | stakeExemptSet (who : AccountId) (exempt : Bool)
deriving DecidableEq, Repr

/-- The errors of the pallet, and the one `ensure_signed` and `ensure_origin`
raise before any of them. -/
inductive Error where
  | badOrigin
  | alreadyValidator
  | notValidator
  | invalidStatus
  | lockNotExpired
  | inCooldown
  | insufficientBalance
  | tooManyValidators
  | sessionKeysNotRegistered
  | identityNotQualified
deriving DecidableEq, Repr

inductive Origin (AccountId : Type) where
  | root
  | signed (who : AccountId)
  | none
deriving DecidableEq, Repr

def ensureSigned {AccountId : Type} : Origin AccountId -> Except Error AccountId
  | Origin.signed who => Except.ok who
  | Origin.root => Except.error Error.badOrigin
  | Origin.none => Except.error Error.badOrigin

abbrev LockIdentifier : Type :=
  Vector UInt8 8

/-!
## The currency

The pallet places and lifts balance locks through `LockableCurrency`, which
lives in another crate.  It enters as a parameter: `Locks` is whatever the
currency stores, and the pallet relies on nothing beyond `Lawful`.
-/

structure LockableCurrency (AccountId Locks : Type) where
  genesis : Locks
  setLock : LockIdentifier -> AccountId -> Nat -> Locks -> Locks
  removeLock : LockIdentifier -> AccountId -> Locks -> Locks
  /-- The balance lock an account holds under an identifier. -/
  lockOf : LockIdentifier -> AccountId -> Locks -> Option Nat

/-- Documented behaviour of a lockable currency.  Placing a lock replaces the
one under the same identifier, and placing a lock of zero lifts it. -/
structure LockableCurrency.Lawful {AccountId Locks : Type}
    (currency : LockableCurrency AccountId Locks) : Prop where
  lockOf_genesis : forall id who,
    currency.lockOf id who currency.genesis = none
  lockOf_setLock : forall id who amount locks,
    currency.lockOf id who (currency.setLock id who amount locks) =
      if amount = 0 then none else some amount
  lockOf_setLock_of_ne : forall id who who' amount locks, who' ≠ who ->
    currency.lockOf id who' (currency.setLock id who amount locks) =
      currency.lockOf id who' locks
  lockOf_removeLock : forall id who locks,
    currency.lockOf id who (currency.removeLock id who locks) = none
  lockOf_removeLock_of_ne : forall id who who' locks, who' ≠ who ->
    currency.lockOf id who' (currency.removeLock id who locks) =
      currency.lockOf id who' locks

/-!
## Configuration and state
-/

/-- The constants of the pallet's `Config`.  `maxBlock` is the largest value of
the block number type, where block arithmetic saturates. -/
structure Config (AccountId Locks : Type) where
  currency : LockableCurrency AccountId Locks
  lockAmount : Nat
  exemptOrigin : Origin AccountId -> Bool
  lockDuration : Nat
  lockId : LockIdentifier
  maxValidators : Nat
  renewInterval : Nat
  offlineThreshold : Nat
  rejoinCooldownPeriod : Nat
  maxBlock : Nat
  maxValidators_le : maxValidators ≤ u32Max
  offlineThreshold_le : offlineThreshold ≤ u32Max
  lockDuration_le : lockDuration ≤ maxBlock
  rejoinCooldownPeriod_le : rejoinCooldownPeriod ≤ maxBlock

/-- What the session registry, the identity gate and the currency answer while
one call runs. -/
structure Environment (AccountId : Type) where
  hasKeys : AccountId -> Bool
  identityGate : AccountId -> Bool
  freeBalance : AccountId -> Nat

/-- The storage of the pallet at block `block`, with the currency's locks and
the events deposited so far. -/
structure State {AccountId Locks : Type} (cfg : Config AccountId Locks) where
  block : Nat
  validatorLocks : StorageMap AccountId LockInfo
  pendingValidators : BoundedVec AccountId cfg.maxValidators
  desiredValidators : BoundedVec AccountId cfg.maxValidators
  stakeExemptAccounts : StorageMap AccountId Unit
  rejoinCooldown : StorageMap AccountId Nat
  offlineSessionCount : StorageMap AccountId Nat
  offlineThisSession : StorageMap AccountId Unit
  equivocationThisSession : StorageMap AccountId Unit
  currency : Locks
  events : List (Event AccountId)

namespace State

variable {AccountId Locks : Type} {cfg : Config AccountId Locks}

def depositEvent (s : State cfg) (event : Event AccountId) : State cfg :=
  { s with events := s.events ++ [event] }

def IsMember (s : State cfg) (who : AccountId) : Prop :=
  who ∈ s.desiredValidators.toList ∨ who ∈ s.pendingValidators.toList

variable [DecidableEq AccountId]

/-- Whether `who` has a lock record in status `Active`. -/
def isActive (s : State cfg) (who : AccountId) : Bool :=
  match s.validatorLocks.get who with
  | some info => decide (info.status = ValidatorStatus.active)
  | none => false

theorem isActive_eq_true {s : State cfg} {who : AccountId} :
    s.isActive who = true <->
      exists info, s.validatorLocks.get who = some info ∧
        info.status = ValidatorStatus.active := by
  unfold isActive
  cases h : s.validatorLocks.get who with
  | none =>
      simp
  | some info =>
      simp

theorem isActive_congr {s t : State cfg} {who : AccountId}
    (h : t.validatorLocks.get who = s.validatorLocks.get who) :
    t.isActive who = s.isActive who := by
  unfold isActive
  rw [h]

end State

end Validator
end Numen
