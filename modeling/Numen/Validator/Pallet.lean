import Numen.Validator.Storage

/-!
# The validator pallet

Genesis, the block hook, the extrinsics, the offence reports and the session
boundary of `pallet-validator`, function by function.  Extrinsics return an
error or the state they commit; the hooks and reports cannot fail and return
the state directly.
-/

namespace Numen
namespace Validator

open Foundation

variable {AccountId Locks : Type} [DecidableEq AccountId]
variable {cfg : Config AccountId Locks}

/-!
## Genesis
-/

def seededLock (cfg : Config AccountId Locks) : LockInfo :=
  { amount := 0
    lockBlock := 0
    expiryBlock := satAdd cfg.maxBlock 0 cfg.lockDuration
    status := ValidatorStatus.active }

/-- One round of the genesis loop over `initial_validators`.  A repeated account
is skipped, and `none` is the panic of a set that exceeds `MaxValidators`. -/
def seedValidator (s : State cfg) (who : AccountId) : Option (State cfg) :=
  if s.validatorLocks.containsKey who then
    some s
  else
    (s.desiredValidators.tryPush who).map fun active =>
      { s with
        validatorLocks := s.validatorLocks.insert who (seededLock cfg)
        stakeExemptAccounts := s.stakeExemptAccounts.insert who ()
        desiredValidators := active }

def seedValidators (s : State cfg) : List AccountId -> Option (State cfg)
  | [] => some s
  | who :: rest => (seedValidator s who).bind fun s' => seedValidators s' rest

/-- Storage before the chain spec has written anything. -/
def blank (cfg : Config AccountId Locks) : State cfg :=
  { block := 0
    validatorLocks := StorageMap.empty
    pendingValidators := BoundedVec.empty
    desiredValidators := BoundedVec.empty
    stakeExemptAccounts := StorageMap.empty
    rejoinCooldown := StorageMap.empty
    offlineSessionCount := StorageMap.empty
    offlineThisSession := StorageMap.empty
    equivocationThisSession := StorageMap.empty
    currency := cfg.currency.genesis
    events := [] }

/-- `GenesisConfig::build`. -/
def build (cfg : Config AccountId Locks) (initialValidators : List AccountId) :
    Option (State cfg) :=
  seedValidators (blank cfg) initialValidators

/-!
## The block hook

`on_initialize` first scans every lock record and sorts it into the release
list, the renewal list or neither, and only then writes.
-/

structure Sweep (AccountId : Type) where
  scanned : Nat
  toRelease : List (AccountId × Nat)
  toRenew : List AccountId

def scanLock (cfg : Config AccountId Locks) (now : Nat)
    (sweep : Sweep AccountId) (entry : AccountId × LockInfo) :
    Sweep AccountId :=
  let sweep := { sweep with scanned := satAdd u32Max sweep.scanned 1 }
  if entry.2.expiryBlock ≤ now then
    { sweep with toRelease := sweep.toRelease ++ [(entry.1, entry.2.amount)] }
  else if cfg.renewInterval = 0 ∨
      entry.2.status ≠ ValidatorStatus.active then
    sweep
  else
    let remaining := entry.2.expiryBlock - now
    let elapsedWindow := cfg.lockDuration - remaining
    if cfg.renewInterval ≤ elapsedWindow then
      { sweep with toRenew := sweep.toRenew ++ [entry.1] }
    else
      sweep

def scanLocks (now : Nat) (s : State cfg) : Sweep AccountId :=
  s.validatorLocks.iter.foldl (scanLock cfg now)
    { scanned := 0, toRelease := [], toRenew := [] }

def releaseLock (s : State cfg) (entry : AccountId × Nat) : State cfg :=
  { s with
    currency := cfg.currency.removeLock cfg.lockId entry.1 s.currency
    validatorLocks := s.validatorLocks.remove entry.1 }.depositEvent
      (Event.lockReleased entry.1 entry.2)

def renewLock (now : Nat) (s : State cfg) (who : AccountId) : State cfg :=
  match s.validatorLocks.get who with
  | none => s
  | some info =>
      let expiryBlock := satAdd cfg.maxBlock now cfg.lockDuration
      { s with
        validatorLocks := s.validatorLocks.insert who
          { info with expiryBlock := expiryBlock } }.depositEvent
            (Event.validatorLocked who info.amount expiryBlock)

/-- `on_initialize`, with the number of locks its weight is billed on. -/
def onInitialize (now : Nat) (s : State cfg) : Nat × State cfg :=
  let sweep := scanLocks now s
  let released := sweep.toRelease.foldl releaseLock s
  (sweep.scanned, sweep.toRenew.foldl (renewLock now) released)

/-!
## Extrinsics
-/

/-- Fresh stake `who` must put up to join the validator set. -/
def requiredLock (s : State cfg) (who : AccountId) : Nat :=
  if s.stakeExemptAccounts.containsKey who then 0 else cfg.lockAmount

/-- Amount and expiry `lock` settles on.  A refresh keeps whichever value binds
harder. -/
def lockTerms (s : State cfg) (who : AccountId) : Nat × Nat :=
  let required := requiredLock s who
  let freshExpiry := satAdd cfg.maxBlock s.block cfg.lockDuration
  match s.validatorLocks.get who with
  | some previous =>
      (max previous.amount required, max previous.expiryBlock freshExpiry)
  | none => (required, freshExpiry)

/-- Whether a recorded rejoin deadline has not passed yet. -/
def inCooldown (s : State cfg) (who : AccountId) : Bool :=
  match s.rejoinCooldown.get who with
  | some deadline => decide (s.block ≤ deadline)
  | none => false

def commitLock (s : State cfg) (who : AccountId) : State cfg :=
  let terms := lockTerms s who
  { s with
    rejoinCooldown := s.rejoinCooldown.remove who
    pendingValidators := s.pendingValidators.pushOrDrop who
    currency := cfg.currency.setLock cfg.lockId who terms.1 s.currency
    validatorLocks := s.validatorLocks.insert who
      { amount := terms.1
        lockBlock := s.block
        expiryBlock := terms.2
        status := ValidatorStatus.active } }.depositEvent
          (Event.validatorLocked who terms.1 terms.2)

def lock (env : Environment AccountId) (origin : Origin AccountId)
    (s : State cfg) : Except Error (State cfg) :=
  match ensureSigned origin with
  | Except.error error => Except.error error
  | Except.ok who =>
      if who ∈ s.desiredValidators.toList ∨
          who ∈ s.pendingValidators.toList then
        Except.error Error.alreadyValidator
      else if ¬ satAdd u32Max s.desiredValidators.toList.length
          s.pendingValidators.toList.length < cfg.maxValidators then
        Except.error Error.tooManyValidators
      else if env.hasKeys who = false then
        Except.error Error.sessionKeysNotRegistered
      else if env.identityGate who = false then
        Except.error Error.identityNotQualified
      else if inCooldown s who then
        Except.error Error.inCooldown
      else if ¬ (lockTerms s who).1 ≤ env.freeBalance who then
        Except.error Error.insufficientBalance
      else
        Except.ok (commitLock s who)

/-- The writes of a `request_exit` that found the record `info` in status
`Active`. -/
def commitExit (s : State cfg) (who : AccountId) (info : LockInfo) :
    State cfg :=
  { s with
    validatorLocks := s.validatorLocks.insert who
      { info with status := ValidatorStatus.exitRequested }
    pendingValidators := s.pendingValidators.removeFirst who }.depositEvent
      (Event.validatorExitRequested who)

def requestExit (origin : Origin AccountId) (s : State cfg) :
    Except Error (State cfg) :=
  match ensureSigned origin with
  | Except.error error => Except.error error
  | Except.ok who =>
      match s.validatorLocks.get who with
      | none => Except.error Error.notValidator
      | some info =>
          if info.status ≠ ValidatorStatus.active then
            Except.error Error.invalidStatus
          else
            Except.ok (commitExit s who info)

def setStakeExempt (origin : Origin AccountId) (who : AccountId)
    (exempt : Bool) (s : State cfg) : Except Error (State cfg) :=
  if cfg.exemptOrigin origin = false then
    Except.error Error.badOrigin
  else
    Except.ok
      ({ s with
        stakeExemptAccounts :=
          if exempt then s.stakeExemptAccounts.insert who ()
          else s.stakeExemptAccounts.remove who }.depositEvent
            (Event.stakeExemptSet who exempt))

/-!
## Offence reports
-/

def noteOffline (who : AccountId) (s : State cfg) : State cfg :=
  if s.validatorLocks.containsKey who then
    { s with offlineThisSession := s.offlineThisSession.insert who () }
  else
    s

def noteEquivocation (who : AccountId) (s : State cfg) : State cfg :=
  if s.isActive who = false then
    s
  else if s.equivocationThisSession.containsKey who then
    s
  else
    { s with
      equivocationThisSession :=
        s.equivocationThisSession.insert who () }.depositEvent
          (Event.equivocationReported who)

/-!
## Session boundary
-/

/-- Flip an `Active` lock to `Kicked` and start the rejoin cooldown.  The flag
says whether a kick happened. -/
def kickValidator (reason : KickReason) (who : AccountId) (s : State cfg) :
    Bool × State cfg :=
  match s.validatorLocks.get who with
  | none => (false, s)
  | some info =>
      if info.status = ValidatorStatus.active then
        (true,
          { s with
            validatorLocks := s.validatorLocks.insert who
              { info with status := ValidatorStatus.kicked }
            rejoinCooldown := s.rejoinCooldown.insert who
              (satAdd cfg.maxBlock s.block cfg.rejoinCooldownPeriod)
            offlineSessionCount := s.offlineSessionCount.remove who
            offlineThisSession := s.offlineThisSession.remove who }.depositEvent
              (Event.validatorKicked who reason))
      else
        (false, s)

/-- Drain the equivocation flags and kick every flagged account. -/
def processEquivocations (s : State cfg) : State cfg :=
  s.equivocationThisSession.keys.foldl
    (fun s who => (kickValidator KickReason.equivocation who s).2)
    { s with equivocationThisSession := StorageMap.empty }

def countOffline (s : State cfg) (who : AccountId) : State cfg :=
  if s.isActive who = false then
    { s with offlineSessionCount := s.offlineSessionCount.remove who }
  else if s.offlineThisSession.containsKey who = false then
    { s with offlineSessionCount := s.offlineSessionCount.remove who }
  else
    let s := { s with
      offlineThisSession := s.offlineThisSession.remove who }
    let count := satAdd u32Max ((s.offlineSessionCount.get who).getD 0) 1
    if count < cfg.offlineThreshold then
      { s with offlineSessionCount := s.offlineSessionCount.insert who count }
    else
      (kickValidator KickReason.offline who s).2

def processOfflineCounters (s : State cfg) : State cfg :=
  { s.desiredValidators.toList.foldl countOffline s with
    offlineThisSession := StorageMap.empty }

/-- A dropped candidate keeps its stake; only the status leaves `Active`. -/
def dropPendingCandidate (s : State cfg) (who : AccountId) : State cfg :=
  { s with
    validatorLocks := s.validatorLocks.mutate who
      (Option.map fun info =>
        { info with status := ValidatorStatus.exitRequested })
    offlineSessionCount := s.offlineSessionCount.remove who
    offlineThisSession := s.offlineThisSession.remove who }.depositEvent
      (Event.pendingValidatorDropped who)

def keepMember (s : State cfg)
    (next : BoundedVec AccountId cfg.maxValidators) (who : AccountId) :
    BoundedVec AccountId cfg.maxValidators :=
  if s.isActive who then next.pushOrDrop who else next

def keepMembers (s : State cfg) : BoundedVec AccountId cfg.maxValidators :=
  s.desiredValidators.toList.foldl (keepMember s) BoundedVec.empty

/-- One round of the loop over the drained queue, on the set built so far and
the state it may still drop candidates in. -/
def promoteCandidate (env : Environment AccountId)
    (acc : BoundedVec AccountId cfg.maxValidators × State cfg)
    (who : AccountId) :
    BoundedVec AccountId cfg.maxValidators × State cfg :=
  if acc.2.isActive who = false ∨ who ∈ acc.1.toList then
    acc
  else if env.hasKeys who = false ∨ acc.1.isFull = true then
    (acc.1, dropPendingCandidate acc.2 who)
  else
    (acc.1.pushOrDrop who, acc.2)

def promoteCandidates (env : Environment AccountId) (s : State cfg) :
    BoundedVec AccountId cfg.maxValidators × State cfg :=
  s.pendingValidators.toList.foldl (promoteCandidate env)
    (keepMembers s, { s with pendingValidators := BoundedVec.empty })

/-- The state in which the set is recomputed: every kick of the boundary has
been applied. -/
def afterKicks (s : State cfg) : State cfg :=
  processOfflineCounters (processEquivocations s)

/-- `new_session`: the set handed to the session pallet, and the new state. -/
def newSession (env : Environment AccountId) (s : State cfg) :
    Option (List AccountId) × State cfg :=
  let s := afterKicks s
  let previous := s.desiredValidators
  let promoted := promoteCandidates env s
  let next := promoted.1
  let s := { promoted.2 with desiredValidators := next }
  if next = previous then
    (none, s)
  else if next.toList = [] ∧ previous.toList ≠ [] then
    (none, s)
  else
    (some next.toList, s)

def newSessionGenesis (s : State cfg) : Option (List AccountId) :=
  some s.desiredValidators.toList

end Validator
end Numen
