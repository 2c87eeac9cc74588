import Numen.Accounts.Replay
import Numen.Erc20.Proxy
import Numen.Foundation.Attempts
import Numen.Migration.Chain

/-!
# From Frontier to pallet-revive

`migrations/frontier.rs`.  The upgrade moves every contract in a storage layer
of its own: if anything about a contract fails, all that was done for it is
rolled back, an error is logged, and the next one is tried.  Its count of
storage accesses, which only weighs the block, is left out.
-/

namespace Numen
namespace Migration

open Foundation
open Accounts

def h160 (n : Nat) : H160 where
  toList := BigEndian.digits 20 n
  length_eq := BigEndian.length_digits 20 n

/-- `KNOWN_ADDRESSES`. -/
def knownAddresses : List H160 :=
  [0x0000000000000000000000000000000000000001,
    0x0000000000000000000000000000000000000802,
    0x009cbad5058e4dec314ab374379e96d8ac3faafc,
    0x0db8300836bd652c361c4158a8e69167cf33571f,
    0x11d88cf4a500cd9e5184ca39a7ea5031d935a359,
    0x1484c2834d1aa025d207f56fd299613684b49ec6,
    0x1c0d1202d6b7983fdc6efad78298eff2b22a4e31,
    0x24378e467264744246c12e1a8b003af97c1393cb,
    0x2e4c21d1da532da62015c697f86b2f3ca297464a,
    0x478c47d215bbfc43f25fab48b4100bb1bbe1a6dc,
    0x5fdfd4d4f6e81424e3ab50d0848d4f0a2a83d86e,
    0x6b1f4f97dca2909cac79564f7a9625c6427676db,
    0x85979a3a0ae53eb4a439aa5013d215e4f6dfada8,
    0x883fe0af53146b30d0166d7077025a4963deaefb,
    0x946ad5a59b3bd16c3d443535a5b7fc07b56f5423,
    0xa8f6efc25896c24ac6c9441f9f693c14517aa818,
    0xb9cb2b8501933243a4ba5ad0f5fb3a256c8669fb,
    0xbce52032cf2d4d11abffae6a1ba94c5d3e8cf9dc,
    0xc6a7d1f198b9133468933247502c6d9025d32abd,
    0xdee7fca01ef17dbf22d9a5dc02c877354decaa46,
    0xf5ff20b442ea73f762361246fa782d0c8c9eb21b].map h160

section Upgrade

variable (pallets : Pallets) (revive : Revive)

/-- The block numbers whose Ethereum hash `BLOCKHASH` still answers for. -/
def recentBlocks (now : Nat) : List Nat :=
  List.range' (now - 256) (now - (now - 256) + 1)

def copyBlockHash (s : Chain) (number : Nat) : Chain :=
  match s.frontier.blockHash.get number with
  | some hash =>
      { s with revive := { s.revive with
          blockHash := s.revive.blockHash.insert number hash } }
  | none => s

def copyBlockHashes (s : Chain) : Chain :=
  (recentBlocks s.ledger.block).foldl copyBlockHash s

/-- Every account that signed gets the provider a first signature gives. -/
def pinSigners (s : Chain) : Chain :=
  s.setLedger
    (Accounts.pinSigners pallets (revive.accountKeys s.ledger) s.ledger)

def accountExists (s : State) (who : AccountId) : Bool :=
  decide (s.account who ≠ {})

def openPalletAccount (s : Chain) : Chain :=
  if accountExists s.ledger revive.accountId then
    s
  else
    match pallets.mintInto revive.accountId pallets.minimumBalance
        s.ledger with
    | Except.ok minted =>
        s.setLedger (pallets.deactivate pallets.minimumBalance minted)
    | Except.error _ => s

/-- Whether `code` is an EIP-7702 delegation. -/
def isDelegation (code : List UInt8) : Bool :=
  decide (code.length = 23) && [0xef, 0x01, 0x00].isPrefixOf code

def countReference (codeHash : H256) (s : Chain) :
    Except DispatchError Chain :=
  match s.revive.codeInfoOf.get codeHash with
  | some info =>
      Except.ok (s.setCodeInfo codeHash
        { info with refcount := satAdd u64Max info.refcount 1 })
  | none =>
      Except.error (DispatchError.pallet "stored code has no code info")

def writeSlots (info : ContractInfo) :
    List (H256 × H256) -> Chain -> Except DispatchError Chain
  | [], s => Except.ok s
  | slot :: rest, s => do
      let s <- revive.write info slot.1 (some slot.2.toList) s
      writeSlots info rest s

def incAccountNonce (who : AccountId) (s : State) : State :=
  s.setAccount who { s.account who with nonce := s.nonce who + 1 }

def initMissing (account : AccountId) (s : State) :
    Except DispatchError State :=
  if accountExists s account then Except.ok s
  else revive.initContract account s

def openContractAccount (account : AccountId) (s : State) :
    Except DispatchError State := do
  let opened <- initMissing revive account s
  let counted <- revive.incConsumers account opened
  return if counted.nonce account = 0 then incAccountNonce account counted
    else counted

/-- Put `code` and `storage` at `address` the way pallet-revive holds a contract
Root deployed. -/
def install (address : H160) (code : List UInt8)
    (storage : List (H256 × H256)) (s : Chain) :
    Except DispatchError Chain := do
  let blob <- revive.fromEvmRuntimeCodeWithDeposit code revive.accountId 0 s
  revive.transactionMeter s
  let stored <- revive.storeCode blob s
  let counted <- countReference blob.codeHash stored
  let info <- revive.contractInfo address 0 blob.codeHash counted
  let written <- writeSlots revive info storage counted
  let items := storage.length % 2 ^ 32
  let placed := written.insertContract address
    { info with storageItems := items, storageBytes := 64 * items % 2 ^ 32 }
  let ledger <- openContractAccount revive (reviveAccount address) placed.ledger
  return placed.setLedger ledger

/-- The slots of `address` that hold something. -/
def liveSlots (address : H160) (s : Chain) : List (H256 × H256) :=
  (s.slots address).iter.filter fun slot => decide (slot.2 ≠ zeroWord)

def forget (address : H160) (frontier : Frontier) : Frontier :=
  { frontier with
    accountCodes := frontier.accountCodes.remove address
    accountCodesMetadata := frontier.accountCodesMetadata.remove address
    accountStorages := Function.update frontier.accountStorages address
      ((frontier.accountStorages address).clear u32Max) }

def installContract (address : H160) (code : List UInt8) (s : Chain) :
    Except DispatchError Chain :=
  if isDelegation code then Except.ok s
  else install revive address code (liveSlots address s) s

def moveContract (contract : H160 × List UInt8) (s : Chain) :
    Except DispatchError Chain := do
  let installed <- installContract revive contract.1 contract.2 s
  let ledger <- moveLegacy pallets contract.1 installed.ledger
  return { installed with
    ledger := ledger
    frontier := forget contract.1 installed.frontier }

def proxyCode : List UInt8 :=
  Erc20.proxyCode revive.depositSelector revive.selectors

def deployTokenProxy (s : Chain) : Except DispatchError Chain :=
  if s.revive.contracts.containsKey Erc20.address then Except.ok s
  else install revive Erc20.address (proxyCode revive) [] s

def moveAccount (address : H160) (s : Chain) : Except DispatchError Chain :=
  if !claimable pallets address s.ledger then
    Except.ok s
  else do
    let ledger <- moveLegacy pallets address s.ledger
    return s.setLedger ledger

def isEthDerived (who : AccountId) : Bool :=
  decide (Bytes.rest (n := 12) 20 who = reviveSuffix)

/-- Every substrate account gets the H160 pallet-revive derives for it. -/
def mapAccounts (s : Chain) : Chain :=
  sweep revive.mapNoDepositUnchecked
    ((revive.accountKeys s.ledger).filter fun who =>
      !isEthDerived who && !revive.isMapped who s) s

/-- Drop Frontier's pallets.  `EVM` keeps any contract that failed to move. -/
def clearFrontier (s : Chain) : Chain :=
  let frontier := { s.frontier with
    ethereumSchema := false
    blockHash := StorageMap.empty }
  if s.frontier.accountCodes.iter.isEmpty then
    { s with frontier := { frontier with
        accountCodes := StorageMap.empty
        accountCodesMetadata := StorageMap.empty
        accountStorages := fun _ => StorageMap.empty } }
  else
    { s with frontier := frontier }

/-- `on_runtime_upgrade`. -/
def onRuntimeUpgrade (s : Chain) : Chain :=
  if !s.frontier.ethereumSchema then
    s
  else
    let s := copyBlockHashes s
    let s := pinSigners pallets revive s
    let s := openPalletAccount pallets revive s
    let s := sweep (moveContract pallets revive)
      s.frontier.accountCodes.iter s
    let s := attempt (deployTokenProxy revive) s
    let s := sweep (moveAccount pallets) knownAddresses s
    let s := mapAccounts revive s
    clearFrontier s

theorem clearFrontier_schema (s : Chain) :
    (clearFrontier s).frontier.ethereumSchema = false := by
  unfold clearFrontier
  dsimp only
  split <;> rfl

theorem onRuntimeUpgrade_twice (s : Chain) :
    onRuntimeUpgrade pallets revive (onRuntimeUpgrade pallets revive s) =
      onRuntimeUpgrade pallets revive s := by
  have hdone : (onRuntimeUpgrade pallets revive s).frontier.ethereumSchema =
      false := by
    unfold onRuntimeUpgrade
    split
    · rename_i hnone
      exact Bool.not_eq_true' _ |>.mp hnone
    · exact clearFrontier_schema _
  have hstop : (!(onRuntimeUpgrade pallets revive s).frontier.ethereumSchema) =
      true := by
    rw [hdone]
    rfl
  exact if_pos hstop

end Upgrade

end Migration
end Numen
