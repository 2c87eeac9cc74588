import Numen.Accounts.State
import Numen.Foundation.Storage

/-!
# The chain Frontier left

The storage that the upgrade from Frontier to pallet-revive reads and writes:
Frontier's maps, pallet-revive's contracts and codes, and the accounts.  The
functions of pallet-revive it calls enter as the parameter `Revive`, and
`Lawful` states what a call that succeeds does.  Any of them may fail.
-/

namespace Numen
namespace Migration

open Foundation
open Accounts

abbrev H256 : Type :=
  Bytes 32

def zeroWord : H256 :=
  Bytes.replicate 32 0

/-- Frontier's storage, and the marker its pallets put next to it. -/
structure Frontier where
  ethereumSchema : Bool
  accountCodes : StorageMap H160 (List UInt8)
  accountCodesMetadata : StorageMap H160 (Nat × H256)
  accountStorages : H160 -> StorageMap H256 H256
  blockHash : StorageMap Nat H256

inductive BytecodeType where
  | pvm
  | evm
deriving DecidableEq

structure CodeInfo where
  owner : AccountId
  deposit : Nat
  refcount : Nat
  codeLen : Nat
  codeType : BytecodeType
  behaviourVersion : Nat
deriving DecidableEq

structure ContractBlob where
  code : List UInt8
  codeHash : H256
  codeInfo : CodeInfo
deriving DecidableEq

structure ContractInfo where
  trieId : H256
  codeHash : H256
  storageBytes : Nat
  storageItems : Nat
deriving DecidableEq

/-- pallet-revive's storage.  A contract keeps its slots in a trie of its own,
under hashed keys. -/
structure ReviveStorage where
  codeInfoOf : StorageMap H256 CodeInfo
  pristineCode : StorageMap H256 (List UInt8)
  contracts : StorageMap H160 ContractInfo
  tries : H256 -> StorageMap H256 (List UInt8)
  blockHash : StorageMap Nat H256
  originalAccount : StorageMap H160 AccountId

structure Chain where
  ledger : State
  frontier : Frontier
  revive : ReviveStorage

namespace Chain

def slots (s : Chain) (address : H160) : StorageMap H256 H256 :=
  s.frontier.accountStorages address

def refcount (s : Chain) (codeHash : H256) : Nat :=
  ((s.revive.codeInfoOf.get codeHash).map CodeInfo.refcount).getD 0

def store (s : Chain) (blob : ContractBlob) : Chain :=
  if s.revive.codeInfoOf.containsKey blob.codeHash then
    s
  else
    { s with revive := { s.revive with
        codeInfoOf := s.revive.codeInfoOf.insert blob.codeHash blob.codeInfo
        pristineCode := s.revive.pristineCode.insert blob.codeHash blob.code } }

def setCodeInfo (s : Chain) (codeHash : H256) (info : CodeInfo) : Chain :=
  { s with revive := { s.revive with
      codeInfoOf := s.revive.codeInfoOf.insert codeHash info } }

def setTrie (s : Chain) (trieId key : H256) (value : List UInt8) : Chain :=
  { s with revive := { s.revive with
      tries := Function.update s.revive.tries trieId
        ((s.revive.tries trieId).insert key value) } }

def insertContract (s : Chain) (address : H160) (info : ContractInfo) :
    Chain :=
  { s with revive := { s.revive with
      contracts := s.revive.contracts.insert address info } }

def setLedger (s : Chain) (ledger : State) : Chain :=
  { s with ledger := ledger }

end Chain

/-!
## Functions of pallet-revive
-/

/-- What the upgrade calls of pallet-revive and of the system pallet. -/
structure Revive where
  /-- The account pallet-revive holds code deposits on. -/
  accountId : AccountId
  keccak : List UInt8 -> H256
  trieId : H160 -> Nat -> H256
  hashKey : H256 -> H256
  toAddress : AccountId -> H160
  /-- The selectors of the token's interface, and that of its deposit
  function. -/
  selectors : List (Bytes 4)
  depositSelector : Bytes 4
  fromEvmRuntimeCodeWithDeposit : List UInt8 -> AccountId -> Nat -> Chain ->
    Except DispatchError ContractBlob
  transactionMeter : Chain -> Except DispatchError Unit
  storeCode : ContractBlob -> Chain -> Except DispatchError Chain
  contractInfo : H160 -> Nat -> H256 -> Chain ->
    Except DispatchError ContractInfo
  write : ContractInfo -> H256 -> Option (List UInt8) -> Chain ->
    Except DispatchError Chain
  initContract : AccountId -> State -> Except DispatchError State
  incConsumers : AccountId -> State -> Except DispatchError State
  isMapped : AccountId -> Chain -> Bool
  mapNoDepositUnchecked : AccountId -> Chain -> Except DispatchError Chain
  /-- The accounts the system pallet has a record of, in iteration order. -/
  accountKeys : State -> List AccountId

structure Revive.Lawful (revive : Revive) (pallets : Pallets) : Prop where
  fromEvmRuntimeCodeWithDeposit_ok : forall code owner deposit s blob,
    revive.fromEvmRuntimeCodeWithDeposit code owner deposit s =
        Except.ok blob ->
      blob = ⟨code, revive.keccak code,
        ⟨owner, deposit, 0, code.length, BytecodeType.evm, 0⟩⟩
  storeCode_ok : forall blob s t,
    revive.storeCode blob s = Except.ok t -> t = s.store blob
  /-- Two contracts cannot have one address. -/
  contractInfo_ok : forall address nonce codeHash s info,
    revive.contractInfo address nonce codeHash s = Except.ok info ->
      s.revive.contracts.get address = none ∧
      info = ⟨revive.trieId address nonce, codeHash, 0, 0⟩
  write_ok : forall info key value s t,
    revive.write info key (some value) s = Except.ok t ->
      t = s.setTrie info.trieId (revive.hashKey key) value
  /-- A new contract's account gets an inactive existential deposit. -/
  initContract_ok : forall who s t,
    revive.initContract who s = Except.ok t ->
      exists minted,
        pallets.mintInto who pallets.minimumBalance s = Except.ok minted ∧
        t = pallets.deactivate pallets.minimumBalance minted
  incConsumers_ok : forall who s t,
    revive.incConsumers who s = Except.ok t ->
      t = s.setAccount who
        { s.account who with consumers := (s.account who).consumers + 1 }
  mapNoDepositUnchecked_ok : forall who s t,
    revive.mapNoDepositUnchecked who s = Except.ok t ->
      t = { s with revive := { s.revive with
        originalAccount :=
          s.revive.originalAccount.insert (revive.toAddress who) who } }

/-- The hashes confuse no two codes among those `Known`, no two addresses and no
two slots. -/
structure Revive.CollisionFree (revive : Revive)
    (Known : List UInt8 -> Prop) : Prop where
  keccak_injective : forall a b, Known a -> Known b ->
    revive.keccak a = revive.keccak b -> a = b
  trieId_injective : forall a b, revive.trieId a 0 = revive.trieId b 0 -> a = b
  hashKey_injective : forall a b, revive.hashKey a = revive.hashKey b -> a = b

end Migration
end Numen
