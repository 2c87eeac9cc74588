import Numen.Accounts.Reference
import Numen.Erc20.Token

/-!
# A host that obeys the laws

The reference ledger of the claims pallet as the ledger of the token, with the
addresses of accounts that have no mapping.  Hashing is a checksum, and a
signature names its signer and repeats the digest, so that permits can be
written down and run.
-/

namespace Numen
namespace Erc20

open Foundation
open Accounts

/-- Value is handed over by a transfer that preserves the sender. -/
def sendValue (deposit : Nat) (sender : Option AccountId)
    (target : AccountId) (value : U256) (s : State) :
    Except DispatchError State :=
  if value = 0 then
    Except.ok s
  else
    match sender with
    | none => Except.error (DispatchError.pallet "RootNotAllowed")
    | some account =>
        transferFree deposit account target value.toNat Preservation.preserve s

def checksum (bytes : List UInt8) : Bytes 32 where
  toList := BigEndian.digits 32
    (bytes.foldl (fun sum byte => (sum * 257 + byte.toNat + 1) % 2 ^ 256) 0)
  length_eq := BigEndian.length_digits 32 _

def signedDigest (signature : Bytes 65) : Bytes 32 :=
  let signature : Bytes (32 + (32 + 1)) := signature
  (signature.rest 32).first 32

def recoverKey (signature : Bytes 65) (digest : Bytes 32) :
    Option (Bytes 33) :=
  let r : Bytes 32 := Bytes.first 32 (n := 33) signature
  if signedDigest signature = digest then
    some ((Bytes.replicate 1 2).append r)
  else
    none

def keyAddress (key : Bytes 33) : H160 :=
  let key : Bytes (1 + (20 + 12)) := key
  (key.rest 1).first 20

def addressOf (account : AccountId) : H160 :=
  let account : Bytes (20 + 12) := account
  account.first 20

def referenceHost (deposit : Nat) : Host where
  pallets := reference deposit 0
  accountExists := fun who s => decide (s.account who ≠ {})
  toAddress := addressOf
  toAccountId := fun address => address.append (Bytes.replicate 12 0xEE)
  transferValue := sendValue deposit
  charge := fun _ meter => if 0 < meter then some (meter - 1) else none
  keccak256 := checksum
  ecdsaRecover := recoverKey
  ecdsaToEthAddress := fun key => some (keyAddress key)
  chainId := 1

/-!
## The laws
-/

variable {deposit : Nat}

theorem data_withFree (info : AccountInfo) {free : Nat}
    (hkept : deposit ≤ info.data.free -> deposit ≤ free) :
    (info.withFree deposit free).data = { info.data with free := free } := by
  unfold AccountInfo.withFree
  dsimp only
  split
  · rename_i hgone
    have hbefore := hgone.left
    have hafter := hgone.right.left
    unfold ownProvider at hbefore hafter
    dsimp only at hafter
    split at hbefore
    · rename_i hle
      rw [if_pos (hkept hle)] at hafter
      cases hafter
    · cases hbefore
  · rfl

theorem changeFree_data {who : AccountId} {free : Nat} {s t : State}
    (h : changeFree deposit who free s = Except.ok t)
    (hkept : deposit ≤ s.free who -> deposit ≤ free) :
    (t.account who).data = { (s.account who).data with free := free } ∧
      (forall other, other ≠ who -> t.account other = s.account other) ∧
      t.totalIssuance = s.totalIssuance ∧
      t.inactiveIssuance = s.inactiveIssuance := by
  unfold changeFree at h
  split at h
  · cases h
    refine ⟨?_, ?_, rfl, rfl⟩
    · rw [State.account_setAccount_self]
      exact data_withFree _ hkept
    · intro other hne
      exact State.account_setAccount_of_ne _ _ hne
  · cases h

theorem mint_minted {who : AccountId} {amount : Nat} {s t : State}
    (h : mint deposit who amount s = Except.ok t) : Minted who amount s t := by
  rcases except_bind_eq_ok h with ⟨minted, hminted, h⟩
  cases h
  have hkept : deposit ≤ s.free who -> deposit ≤ s.free who + amount := by
    lia
  rcases changeFree_data hminted hkept with
    ⟨hdata, hothers, htotal, hinactive⟩
  exact ⟨hdata, hothers, congrArg (fun total => total + amount) htotal,
    hinactive⟩

theorem reducible_preserve (deposit : Nat) (who : AccountId) (s : State) :
    reducible deposit who Preservation.preserve Fortitude.polite s =
      s.free who - max ((s.account who).data.frozen -
        (s.account who).data.reserved) deposit :=
  rfl

theorem transferFree_moved {source target : AccountId} {amount : Nat}
    {s t : State} (hne : source ≠ target)
    (h : transferFree deposit source target amount Preservation.preserve s =
      Except.ok t) :
    Moved source target amount s t ∧
      amount ≤ reducible deposit source Preservation.preserve
        Fortitude.polite s := by
  unfold transferFree at h
  rw [if_neg hne] at h
  split at h
  · cases h
  · rename_i hcovered
    have hle := Nat.le_of_not_lt hcovered
    have hreducible := reducible_preserve deposit source s
    rcases except_bind_eq_ok h with ⟨debited, hdebited, hcredited⟩
    have hkept : deposit ≤ s.free source ->
        deposit ≤ s.free source - amount := by
      lia
    rcases changeFree_data hdebited hkept with
      ⟨hsource, hothers, htotal, hinactive⟩
    have htarget := hothers target (Ne.symm hne)
    have hgrown : deposit ≤ debited.free target ->
        deposit ≤ s.free target + amount := by
      rw [State.free_congr htarget]
      lia
    rcases changeFree_data hcredited hgrown with
      ⟨hdata, hothers', htotal', hinactive'⟩
    refine ⟨?_, hle⟩
    constructor
    case covered => lia
    case debited =>
      rw [hothers' source hne]
      exact hsource
    case credited =>
      rw [hdata, htarget]
    case others =>
      intro who hsource' htarget'
      rw [hothers' who htarget', hothers who hsource']
    case totalIssuance => exact htotal'.trans htotal
    case inactiveIssuance => exact hinactive'.trans hinactive

theorem transferFree_self {who : AccountId} {amount : Nat}
    {preservation : Preservation} {s t : State}
    (h : transferFree deposit who who amount preservation s = Except.ok t) :
    SameBalances s t := by
  unfold transferFree at h
  rw [if_pos rfl] at h
  cases h
  exact ⟨rfl, rfl, rfl⟩

theorem referenceHost_lawful (hdeposit : 0 < deposit) :
    (referenceHost deposit).Lawful where
  toAddress_toAccountId := fun address =>
    Bytes.first_append address (Bytes.replicate 12 0xEE)
  minimumBalance_pos := hdeposit
  account_of_not_exists := by
    intro who s h
    exact Classical.not_not.mp (of_decide_eq_false h)
  reducibleBalance_preserve := reducible_preserve deposit
  mintInto_ok := fun _ _ _ _ h => mint_minted h
  deactivate_eq := fun _ _ => rfl
  transfer_self := fun _ _ _ _ h => transferFree_self h
  transfer_ok := fun _ _ _ _ _ hne h => transferFree_moved hne h
  transferValue_zero := by
    intro sender target s t h
    cases h
    rfl
  transferValue_root := by
    intro target value s t h
    change sendValue deposit none target value s = Except.ok t at h
    unfold sendValue at h
    split at h
    · assumption
    · cases h
  transferValue_self := by
    intro who value s t h
    change sendValue deposit (some who) who value s = Except.ok t at h
    unfold sendValue at h
    split at h
    · cases h
      exact ⟨rfl, rfl, rfl⟩
    · exact transferFree_self h
  transferValue_ok := by
    intro sender target value s t hne _ h
    change sendValue deposit (some sender) target value s = Except.ok t at h
    unfold sendValue at h
    split at h
    · rename_i hzero
      cases h
      rw [hzero]
      exact ⟨Nat.zero_le _, rfl, rfl, fun _ _ _ => rfl, rfl, rfl⟩
    · exact (transferFree_moved hne h).left

/-!
## Two accounts
-/

def aliceAddress : H160 :=
  Bytes.replicate 20 0xA1

def bobAddress : H160 :=
  Bytes.replicate 20 0xB0

/-- The account of an address, on the chain's existential deposit. -/
def accountAt (address : H160) : AccountId :=
  (referenceHost 1).toAccountId address

/-- Alice owns 100, the proxy exists, and Bob has the record `bob`. -/
def tokenWorld (bob : AccountInfo) : World where
  ledger :=
    { block := 1
      account := Function.update (Function.update (Function.update
        (fun _ => {}) (accountAt address)
          { providers := 1, data := { free := 1 } })
        (accountAt bobAddress) bob) (accountAt aliceAddress)
          { nonce := 1, providers := 2, data := { free := 100 } }
      locks := fun _ => []
      freezes := fun _ => []
      vesting := fun _ => none
      totalIssuance := 101 + bob.data.free
      inactiveIssuance := 0
      events := [] }
  allowances := StorageMap.empty
  nonces := StorageMap.empty
  logs := []

def callBy (sender : H160) (input : Call) : Transaction where
  sender := some (accountAt sender)
  value := 0
  readOnly := false
  now := 0
  gas := 20
  input := input

end Erc20
end Numen
