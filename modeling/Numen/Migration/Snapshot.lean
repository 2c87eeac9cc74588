import Numen.Migration.Frontier

/-!
# The check of the upgrade

`checks` of `migrations/frontier.rs`.  `pre_upgrade` takes a snapshot of what
the upgrade has to carry over, and of the existential deposits it should mint.
`post_upgrade` compares the chain with it.  The snapshot's way through bytes
between the two is left out.
-/

namespace Numen
namespace Migration

open Foundation
open Accounts

inductive FrontierPallet where
  | ethereum
  | baseFee
  | evm
deriving DecidableEq

/-- What the check reads through pallet-revive, its address mapper and raw
storage. -/
structure Inspector where
  evmBalance : H160 -> Chain -> Nat
  code : H160 -> Chain -> List UInt8
  /-- A slot of a contract; an error reads as no value. -/
  getStorage : H160 -> H256 -> Chain -> Option (List UInt8)
  totalDeposit : ContractInfo -> Nat
  toAccountId : H160 -> Chain -> AccountId
  containsPrefixedKey : FrontierPallet -> Chain -> Bool
  evmChainId : Chain -> Nat

/-- An account without balance has none for contracts either. -/
structure Inspector.Lawful (inspector : Inspector) : Prop where
  evmBalance_zero : forall address s,
    s.ledger.totalBalance (reviveAccount address) = 0 ->
      inspector.evmBalance address s = 0

/-- A contract with the EVM balance it is due afterwards and the nonce its
Frontier account reached. -/
structure Contract where
  address : H160
  code : List UInt8
  storage : List (H256 × H256)
  balance : Nat
  nonce : Nat

structure Snapshot where
  totalIssuance : Nat
  activeIssuance : Nat
  contracts : List Contract
  /-- Addresses that carried an EIP-7702 delegation and move as accounts. -/
  delegations : List H160
  /-- Address with the EVM balance it is due afterwards and the nonce its
  Frontier account reached. -/
  accounts : List (H160 × Nat × Nat)
  blockHashes : List (Nat × H256)
  /-- Signers that stay where they are, with their providers. -/
  signers : List (AccountId × Nat)
  /-- Existential deposits the migration mints. -/
  minted : Nat
  chainId : Nat

section Take

variable (pallets : Pallets) (revive : Revive) (inspector : Inspector)

/-- The EVM balance `address` is due once its Frontier account moved, and the
nonce that account reached. -/
def due (address : H160) (s : Chain) : Nat × Nat :=
  let legacy := legacyAccount pallets address
  (inspector.evmBalance address s + s.ledger.free legacy,
    s.ledger.nonce legacy)

def dueContract (s : Chain) (listed : H160 × List UInt8) : Contract where
  address := listed.1
  code := listed.2
  storage := liveSlots listed.1 s
  balance := (due pallets inspector listed.1 s).1
  nonce := (due pallets inspector listed.1 s).2

/-- Whether the new account of `address` has no balance. -/
def fresh (address : H160) (s : State) : Bool :=
  decide (s.totalBalance (reviveAccount address) = 0)

def mints (contracts : List Contract) (accounts : List (H160 × Nat × Nat))
    (s : Chain) : Nat :=
  (contracts.countP fun contract => fresh contract.address s.ledger) +
    (accounts.countP fun account =>
      decide (account.2.1 ≠ 0) && fresh account.1 s.ledger) +
    (fresh Erc20.address s.ledger).toNat +
    (!accountExists s.ledger revive.accountId).toNat

def Snapshot.take (s : Chain) : Snapshot :=
  let (delegations, contracts) := s.frontier.accountCodes.iter.partition
    fun listed => isDelegation listed.2
  let delegations := delegations.map Prod.fst
  let contracts := contracts.map (dueContract pallets inspector s)
  let accounts := ((knownAddresses.filter fun address =>
      claimable pallets address s.ledger &&
        !decide (address ∈ delegations)) ++ delegations).map
    fun address => (address, due pallets inspector address s)
  let moved :=
    (contracts.map fun contract => legacyAccount pallets contract.address) ++
      accounts.map fun account => legacyAccount pallets account.1
  { totalIssuance := s.ledger.totalIssuance
    activeIssuance := s.ledger.activeIssuance
    contracts := contracts
    delegations := delegations
    accounts := accounts
    blockHashes := (recentBlocks s.ledger.block).filterMap fun number =>
      (s.frontier.blockHash.get number).map fun hash => (number, hash)
    signers := ((revive.accountKeys s.ledger).filter fun who =>
        decide (s.ledger.nonce who ≠ 0) && !decide (who ∈ moved)).map
      fun who => (who, (s.ledger.account who).providers)
    minted := pallets.minimumBalance * mints revive contracts accounts s
    chainId := inspector.evmChainId s }

end Take

/-!
## Verification
-/

def ensure (condition : Bool) (message : String) : Except String Unit :=
  if condition then Except.ok () else Except.error message

def okOr {α : Type} (value : Option α) (message : String) :
    Except String α :=
  match value with
  | some a => Except.ok a
  | none => Except.error message

section Verify

variable (pallets : Pallets) (revive : Revive) (inspector : Inspector)

/-- What the check asks of one contract. -/
def Contract.verify (contracts : List Contract) (t : Chain)
    (contract : Contract) : Except String Unit := do
  ensure (decide (inspector.code contract.address t = contract.code))
    "contract code changed"
  let info <- okOr (t.revive.contracts.get contract.address)
    "contract missing"
  ensure (decide (info.storageItems = contract.storage.length))
    "storage item count"
  ensure (decide (info.storageBytes = 64 * contract.storage.length))
    "storage byte count"
  ensure (decide (inspector.totalDeposit info = 0))
    "deposits on a moved contract"
  contract.storage.forM fun slot =>
    ensure (decide (inspector.getStorage contract.address slot.1 t =
      some slot.2.toList)) "storage slot changed"
  let account := reviveAccount contract.address
  ensure (decide (inspector.evmBalance contract.address t = contract.balance))
    "contract balance"
  ensure (decide (t.ledger.nonce account = max contract.nonce 1))
    "contract nonce"
  ensure (decide (1 ≤ (t.ledger.account account).consumers)) "no consumer"
  let codeInfo <- okOr (t.revive.codeInfoOf.get info.codeHash) "code info"
  let users := contracts.countP fun other =>
    decide (other.code = contract.code)
  ensure (decide (codeInfo.refcount = users)) "code refcount"
  ensure (decide (codeInfo.deposit = 0)) "code deposit"

def verifyAccount (t : Chain) (account : H160 × Nat × Nat) :
    Except String Unit := do
  ensure (decide (inspector.evmBalance account.1 t = account.2.1))
    "account balance"
  ensure (decide (account.2.2 ≤
    t.ledger.nonce (inspector.toAccountId account.1 t))) "account nonce"

/-- The issuance grew by the deposits taken down, none of it active. -/
def Snapshot.verifyIssuance (snapshot : Snapshot) (t : Chain) :
    Except String Unit := do
  ensure (decide (t.ledger.totalIssuance =
      snapshot.totalIssuance + snapshot.minted))
    "issuance moved beyond the minted existential deposits"
  ensure (decide (t.ledger.activeIssuance = snapshot.activeIssuance))
    "active issuance moved"

def Snapshot.verify (snapshot : Snapshot) (t : Chain) :
    Except String Unit := do
  snapshot.contracts.forM (Contract.verify inspector snapshot.contracts t)
  snapshot.delegations.forM fun address =>
    ensure (!t.revive.contracts.containsKey address)
      "delegation installed as a contract"
  snapshot.accounts.forM (verifyAccount inspector t)
  ((snapshot.contracts.map Contract.address) ++
      snapshot.accounts.map Prod.fst).forM fun address =>
    ensure (!accountExists t.ledger (legacyAccount pallets address))
      "Frontier account left behind"
  ensure (decide (inspector.code Erc20.address t = proxyCode revive))
    "token proxy"
  snapshot.blockHashes.forM fun block =>
    ensure (decide ((t.revive.blockHash.get block.1).getD zeroWord = block.2))
      "block hash"
  snapshot.signers.forM fun signer =>
    ensure (decide ((t.ledger.account signer.1).providers = signer.2 + 1))
      "signer not pinned once"
  (revive.accountKeys t.ledger).forM fun who =>
    ensure (isEthDerived who || revive.isMapped who t) "account left unmapped"
  snapshot.verifyIssuance t
  ensure (decide (inspector.evmChainId t = snapshot.chainId)) "chain id moved"
  [FrontierPallet.ethereum, FrontierPallet.baseFee, FrontierPallet.evm].forM
    fun pallet => ensure (!inspector.containsPrefixedKey pallet t)
      "Frontier storage left"
  ensure (!t.frontier.ethereumSchema) "schema marker left"

end Verify

theorem ensure_eq_ok {condition : Bool} {message : String} :
    ensure condition message = Except.ok () <-> condition = true := by
  unfold ensure
  cases condition with
  | true => exact ⟨fun _ => rfl, fun _ => rfl⟩
  | false =>
      constructor
      · intro h
        cases h
      · intro h
        cases h

theorem Snapshot.verifyIssuance_eq_ok {snapshot : Snapshot} {t : Chain} :
    snapshot.verifyIssuance t = Except.ok () <->
      t.ledger.totalIssuance = snapshot.totalIssuance + snapshot.minted ∧
        t.ledger.activeIssuance = snapshot.activeIssuance := by
  unfold Snapshot.verifyIssuance
  constructor
  · intro h
    rcases except_bind_eq_ok h with ⟨_, htotal, hactive⟩
    exact ⟨of_decide_eq_true (ensure_eq_ok.mp htotal),
      of_decide_eq_true (ensure_eq_ok.mp hactive)⟩
  · rintro ⟨htotal, hactive⟩
    rw [ensure_eq_ok.mpr (decide_eq_true htotal)]
    exact ensure_eq_ok.mpr (decide_eq_true hactive)

/-!
## What the check fails with
-/

/-- A check that fails does so with one of the messages. -/
def FailsWith {α : Type} (messages : List String) (check : Except String α) :
    Prop :=
  forall message, check = Except.error message -> message ∈ messages

theorem ensure_failsWith (condition : Bool) (message : String) :
    FailsWith [message] (ensure condition message) := by
  intro other h
  unfold ensure at h
  split at h
  · cases h
  · cases h
    exact List.mem_singleton_self message

theorem okOr_failsWith {α : Type} (value : Option α) (message : String) :
    FailsWith [message] (okOr value message) := by
  intro other h
  unfold okOr at h
  split at h
  · cases h
  · cases h
    exact List.mem_singleton_self message

theorem ok_failsWith {α : Type} (a : α) : FailsWith [] (Except.ok a) := by
  intro message h
  cases h

theorem FailsWith.bind {α β : Type} {first second : List String}
    {check : Except String α} {next : α -> Except String β}
    (hfirst : FailsWith first check)
    (hsecond : forall a, FailsWith second (next a)) :
    FailsWith (first ++ second) (check >>= next) := by
  intro message h
  cases check with
  | error failed =>
      cases h
      exact List.mem_append_left _ (hfirst _ rfl)
  | ok a => exact List.mem_append_right _ (hsecond a message h)

theorem forM_failsWith {α : Type} {messages : List String}
    {check : α -> Except String Unit} (items : List α)
    (h : forall item, FailsWith messages (check item)) :
    FailsWith messages (items.forM check) := by
  induction items with
  | nil =>
      intro message hnil
      cases hnil
  | cons item rest ih =>
      intro message hcons
      change (check item >>= fun _ => rest.forM check) = _ at hcons
      rcases List.mem_append.mp ((h item).bind (fun _ => ih) message hcons)
        with hhead | htail
      · exact hhead
      · exact htail

def contractMessages : List String :=
  ["contract code changed", "contract missing", "storage item count",
    "storage byte count", "deposits on a moved contract",
    "storage slot changed", "contract balance", "contract nonce",
    "no consumer", "code info", "code refcount", "code deposit"]

def issuanceMessages : List String :=
  ["issuance moved beyond the minted existential deposits",
    "active issuance moved"]

def otherMessages : List String :=
  contractMessages ++ ["delegation installed as a contract",
    "account balance", "account nonce", "Frontier account left behind",
    "token proxy", "block hash", "signer not pinned once",
    "account left unmapped", "chain id moved", "Frontier storage left",
    "schema marker left"]

theorem issuanceMessages_apart :
    ∀ message ∈ issuanceMessages, message ∉ otherMessages := by
  decide +kernel

section Messages

variable {pallets : Pallets} {revive : Revive} {inspector : Inspector}

theorem Contract.verify_failsWith (contracts : List Contract) (t : Chain)
    (contract : Contract) :
    FailsWith contractMessages (contract.verify inspector contracts t) := by
  unfold Contract.verify
  exact (ensure_failsWith _ _).bind fun _ =>
    (okOr_failsWith _ _).bind fun _ =>
    (ensure_failsWith _ _).bind fun _ =>
    (ensure_failsWith _ _).bind fun _ =>
    (ensure_failsWith _ _).bind fun _ =>
    (forM_failsWith _ fun _ => ensure_failsWith _ _).bind fun _ =>
    (ensure_failsWith _ _).bind fun _ =>
    (ensure_failsWith _ _).bind fun _ =>
    (ensure_failsWith _ _).bind fun _ =>
    (okOr_failsWith _ _).bind fun _ =>
    (ensure_failsWith _ _).bind fun _ => ensure_failsWith _ _

theorem verifyAccount_failsWith (t : Chain) (account : H160 × Nat × Nat) :
    FailsWith ["account balance", "account nonce"]
      (verifyAccount inspector t account) := by
  unfold verifyAccount
  exact (ensure_failsWith _ _).bind fun _ => ensure_failsWith _ _

theorem Snapshot.verify_failsWith {snapshot : Snapshot} {t : Chain}
    (h : snapshot.verifyIssuance t = Except.ok ()) :
    FailsWith otherMessages
      (snapshot.verify pallets revive inspector t) := by
  unfold Snapshot.verify
  rw [h]
  exact (forM_failsWith _ (Contract.verify_failsWith _ t)).bind fun _ =>
    (forM_failsWith _ fun _ => ensure_failsWith _ _).bind fun _ =>
    (forM_failsWith _ (verifyAccount_failsWith t)).bind fun _ =>
    (forM_failsWith _ fun _ => ensure_failsWith _ _).bind fun _ =>
    (ensure_failsWith _ _).bind fun _ =>
    (forM_failsWith _ fun _ => ensure_failsWith _ _).bind fun _ =>
    (forM_failsWith _ fun _ => ensure_failsWith _ _).bind fun _ =>
    (forM_failsWith _ fun _ => ensure_failsWith _ _).bind fun _ =>
    (ok_failsWith ()).bind fun _ =>
    (ensure_failsWith _ _).bind fun _ =>
    (forM_failsWith _ fun _ => ensure_failsWith _ _).bind fun _ =>
    ensure_failsWith _ _

theorem Snapshot.verify_ne_issuance {snapshot : Snapshot} {t : Chain}
    (h : snapshot.verifyIssuance t = Except.ok ()) :
    ∀ message ∈ issuanceMessages,
      snapshot.verify pallets revive inspector t ≠ Except.error message := by
  intro message hissuance hfails
  exact issuanceMessages_apart message hissuance
    (Snapshot.verify_failsWith h message hfails)

theorem Snapshot.verifyIssuance_of_verify {snapshot : Snapshot} {t : Chain}
    (h : snapshot.verify pallets revive inspector t = Except.ok ()) :
    snapshot.verifyIssuance t = Except.ok () := by
  unfold Snapshot.verify at h
  rcases except_bind_eq_ok h with ⟨_, _, h⟩
  rcases except_bind_eq_ok h with ⟨_, _, h⟩
  rcases except_bind_eq_ok h with ⟨_, _, h⟩
  rcases except_bind_eq_ok h with ⟨_, _, h⟩
  rcases except_bind_eq_ok h with ⟨_, _, h⟩
  rcases except_bind_eq_ok h with ⟨_, _, h⟩
  rcases except_bind_eq_ok h with ⟨_, _, h⟩
  rcases except_bind_eq_ok h with ⟨_, _, h⟩
  rcases except_bind_eq_ok h with ⟨_, hissuance, _⟩
  exact hissuance

end Messages

end Migration
end Numen
