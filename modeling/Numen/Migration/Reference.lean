import Numen.Migration.Kept

/-!
# A reference pallet-revive

A pallet-revive that satisfies the laws, for runs on concrete chains.  Its hash
keeps the first bytes of a code and its length, its tries are keyed by the slots
themselves, and it takes codes of a hundred bytes at most.
-/

namespace Numen
namespace Migration

open Foundation
open Accounts

/-- The last byte is the length, before it stand the first bytes of the code. -/
def shortHash (code : List UInt8) : H256 where
  toList := (code ++ List.replicate 31 0).take 31 ++ [UInt8.ofNat code.length]
  length_eq := by
    rw [List.length_append, List.length_take, List.length_append,
      List.length_replicate, List.length_singleton]
    lia

def initReference (deposit claimFee : Nat) (who : AccountId) (s : State) :
    Except DispatchError State := do
  let minted <- (reference deposit claimFee).mintInto who deposit s
  return (reference deposit claimFee).deactivate deposit minted

def referenceRevive (deposit claimFee : Nat) (accounts : List AccountId) :
    Revive where
  accountId := Bytes.replicate 32 7
  keccak := shortHash
  trieId := fun address _ => address.append (Bytes.replicate 12 0)
  hashKey := id
  toAddress := fun who => Bytes.first (n := 12) 20 who
  selectors := []
  depositSelector := { toList := [0xd0, 0xe3, 0x0d, 0xb0], length_eq := rfl }
  fromEvmRuntimeCodeWithDeposit := fun code owner held _ =>
    if code.length ≤ 100 then
      Except.ok ⟨code, shortHash code,
        ⟨owner, held, 0, code.length, BytecodeType.evm, 0⟩⟩
    else
      Except.error (DispatchError.pallet "BlobTooLarge")
  transactionMeter := fun _ => Except.ok ()
  storeCode := fun blob s => Except.ok (s.store blob)
  contractInfo := fun address _ codeHash s =>
    if s.revive.contracts.containsKey address then
      Except.error (DispatchError.pallet "DuplicateContract")
    else
      Except.ok ⟨address.append (Bytes.replicate 12 0), codeHash, 0, 0⟩
  write := fun info key value s =>
    match value with
    | some word => Except.ok (s.setTrie info.trieId key word)
    | none =>
        Except.ok { s with revive := { s.revive with
          tries := Function.update s.revive.tries info.trieId
            ((s.revive.tries info.trieId).remove key) } }
  initContract := initReference deposit claimFee
  incConsumers := fun who s =>
    if (s.account who).providers = 0 then
      Except.error (DispatchError.pallet "NoProviders")
    else
      Except.ok (s.setAccount who
        { s.account who with consumers := (s.account who).consumers + 1 })
  isMapped := fun who s =>
    s.revive.originalAccount.containsKey (Bytes.first (n := 12) 20 who)
  mapNoDepositUnchecked := fun who s =>
    Except.ok { s with revive := { s.revive with
      originalAccount := s.revive.originalAccount.insert
        (Bytes.first (n := 12) 20 who) who } }
  accountKeys := fun _ => accounts

section Laws

variable (deposit claimFee : Nat) (accounts : List AccountId)

theorem referenceRevive_lawful :
    (referenceRevive deposit claimFee accounts).Lawful
      (reference deposit claimFee) where
  fromEvmRuntimeCodeWithDeposit_ok := by
    intro code owner held s blob h
    change (if code.length ≤ 100 then _ else _) = _ at h
    split at h
    · exact (Except.ok.inj h).symm
    · cases h
  storeCode_ok := by
    intro blob s t h
    exact (Except.ok.inj h).symm
  contractInfo_ok := by
    intro address nonce codeHash s info h
    change (if s.revive.contracts.containsKey address then _ else _) = _ at h
    split at h
    · cases h
    · rename_i hvacant
      exact ⟨Option.not_isSome_iff_eq_none.mp hvacant,
        (Except.ok.inj h).symm⟩
  write_ok := by
    intro info key value s t h
    exact (Except.ok.inj h).symm
  initContract_ok := by
    intro who s t h
    rcases except_bind_eq_ok h with ⟨minted, hminted, h⟩
    exact ⟨minted, hminted, (Except.ok.inj h).symm⟩
  incConsumers_ok := by
    intro who s t h
    change (if (s.account who).providers = 0 then _ else _) = _ at h
    split at h
    · cases h
    · exact (Except.ok.inj h).symm
  mapNoDepositUnchecked_ok := by
    intro who s t h
    exact (Except.ok.inj h).symm

theorem referenceRevive_distinct :
    Distinct (reference deposit claimFee)
      (referenceRevive deposit claimFee accounts) := by
  have hfrontier := reference_frontierAccounts deposit claimFee
  refine ⟨hfrontier.legacy_injective, hfrontier.legacy_ne_revive, ?_, ?_⟩
  · intro address heq
    have hlast := congrArg (fun account => account.toList.getLast?) heq
    simp [referenceRevive, legacyAccount, reference, Bytes.append,
      Bytes.replicate] at hlast
  · intro address heq
    have hlast := congrArg (fun account => account.toList.getLast?) heq
    simp [referenceRevive, reviveAccount, Bytes.append, Bytes.replicate,
      reviveSuffix] at hlast

theorem referenceRevive_collisionFree {Known : List UInt8 -> Prop}
    (codes : List (List UInt8)) (hcodes : forall code, Known code ->
      code ∈ codes)
    (hapart : ∀ a ∈ codes, ∀ b ∈ codes, shortHash a = shortHash b -> a = b) :
    (referenceRevive deposit claimFee accounts).CollisionFree Known where
  keccak_injective := by
    intro a b ha hb
    exact hapart a (hcodes a ha) b (hcodes b hb)
  trieId_injective := fun _ _ h => Bytes.append_left_injective _ h
  hashKey_injective := fun _ _ h => h

end Laws

/-!
## Two contracts
-/

def readerCode : List UInt8 :=
  [0x60, 0x00, 0x54, 0x60, 0x00, 0x52, 0x60, 0x20, 0x60, 0x00, 0xf3]

def oversizedCode : List UInt8 :=
  List.replicate 101 0x5b

def secondAddress : H160 :=
  Bytes.replicate 20 2

/-- The slots of `firstAddress`: one with content, one that was cleared. -/
def firstSlots : StorageMap H256 H256 :=
  (StorageMap.empty.insert (Bytes.replicate 32 0) (Bytes.replicate 32 42)).insert
    (Bytes.replicate 32 1) zeroWord

/-- A small contract at `firstAddress`, whose account is that of `firstState`,
and one at `secondAddress` that pallet-revive cannot take. -/
def firstChain : Chain where
  ledger := firstState
  frontier := {
    ethereumSchema := true
    accountCodes := (StorageMap.empty.insert firstAddress readerCode).insert
      secondAddress oversizedCode
    accountCodesMetadata := StorageMap.empty.insert firstAddress
      (11, zeroWord)
    accountStorages := Function.update (fun _ => StorageMap.empty)
      firstAddress firstSlots
    blockHash := StorageMap.empty }
  revive := {
    codeInfoOf := StorageMap.empty
    pristineCode := StorageMap.empty
    contracts := StorageMap.empty
    tries := fun _ => StorageMap.empty
    blockHash := StorageMap.empty
    originalAccount := StorageMap.empty }

def firstRevive : Revive :=
  referenceRevive 10 5 [legacyAccount (reference 10 5) firstAddress]

theorem firstRevive_lawful : firstRevive.Lawful (reference 10 5) :=
  referenceRevive_lawful 10 5 _

theorem firstRevive_distinct : Distinct (reference 10 5) firstRevive :=
  referenceRevive_distinct 10 5 _

end Migration
end Numen
