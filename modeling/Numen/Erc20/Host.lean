import Numen.Accounts.State
import Numen.Foundation.Arithmetic
import Numen.Foundation.BigEndian
import Numen.Foundation.Storage

/-!
# The host of the ERC20 precompile

What the precompile of the native token reads and writes, and what it calls of
pallet-revive, of the balances and system pallets and of the runtime's hashing
and signature primitives.  All of that belongs to other crates: it enters as the
parameter `Host`, and `Host.Lawful` states the documented behaviour relied on.
-/

namespace Numen
namespace Erc20

open Foundation
open Accounts

abbrev U256 : Type :=
  BitVec 256

/-- The events of the token's interface. -/
inductive Event where
  | transfer (source target : H160) (value : U256)
  | approval (owner spender : H160) (value : U256)
  | deposit (dst : H160) (wad : U256)
  | withdrawal (src : H160) (dest : Bytes 32) (value : U256)
deriving DecidableEq

def Event.topics : Event -> Nat
  | transfer _ _ _ => 3
  | approval _ _ _ => 3
  | deposit _ _ => 2
  | withdrawal _ _ _ => 3

def Event.dataLen : Event -> Nat :=
  fun _ => 32

/-- The storage a call of the token works on. -/
structure World where
  ledger : State
  allowances : StorageMap (H160 × H160) U256
  nonces : StorageMap H160 U256
  logs : List Event

namespace World

/-- `Allowances::get`; a missing entry reads as zero. -/
def allowance (w : World) (owner spender : H160) : U256 :=
  (w.allowances.get (owner, spender)).getD 0

/-- `Nonces::get`; a missing entry reads as zero. -/
def nonce (w : World) (owner : H160) : U256 :=
  (w.nonces.get owner).getD 0

def setAllowance (w : World) (owner spender : H160) (value : U256) : World :=
  { w with allowances := w.allowances.insert (owner, spender) value }

def setNonce (w : World) (owner : H160) (nonce : U256) : World :=
  { w with nonces := w.nonces.insert owner nonce }

theorem allowance_setAllowance (w : World) (owner spender : H160)
    (value : U256) (o s : H160) :
    (w.setAllowance owner spender value).allowance o s =
      if o = owner ∧ s = spender then value else w.allowance o s := by
  unfold setAllowance allowance
  dsimp only
  rw [StorageMap.get_insert]
  by_cases h : o = owner ∧ s = spender
  · rw [if_pos h, if_pos (Prod.ext h.left h.right)]
    rfl
  · rw [if_neg h, if_neg (fun heq => h (Prod.mk.inj heq))]

theorem nonce_setNonce (w : World) (owner : H160) (nonce : U256) (o : H160) :
    (w.setNonce owner nonce).nonce o =
      if o = owner then nonce else w.nonce o := by
  unfold setNonce World.nonce
  dsimp only
  rw [StorageMap.get_insert]
  split
  · rfl
  · rfl

end World

/-!
## Weights
-/

/-- Database reads and writes, and benchmarked transfers. -/
structure Weight where
  reads : Nat := 0
  writes : Nat := 0
  transfers : Nat := 0
deriving DecidableEq

def Weight.add (a b : Weight) : Weight where
  reads := a.reads + b.reads
  writes := a.writes + b.writes
  transfers := a.transfers + b.transfers

inductive Cost where
  | weight (weight : Weight)
  | balanceOf
  | caller
  | toAccountId
  | hashKeccak256 (len : Nat)
  | ecdsaRecovery
  | ecdsaToEthAddress
  | depositEvent (numTopic len : Nat)
deriving DecidableEq

/-!
## The parameter
-/

structure Host where
  pallets : Pallets
  /-- `System::account_exists`. -/
  accountExists : AccountId -> State -> Bool
  /-- `AddressMapper::to_address`. -/
  toAddress : AccountId -> H160
  /-- `AddressMapper::to_account_id`. -/
  toAccountId : H160 -> AccountId
  /-- How a frame hands the value of a call to the callee. -/
  transferValue : Option AccountId -> AccountId -> U256 -> State ->
    Except DispatchError State
  /-- What a charge leaves on the meter, if the meter covers it. -/
  charge : Cost -> Nat -> Option Nat
  keccak256 : List UInt8 -> Bytes 32
  ecdsaRecover : Bytes 65 -> Bytes 32 -> Option (Bytes 33)
  ecdsaToEthAddress : Bytes 33 -> Option H160
  chainId : UInt64

structure Moved (source target : AccountId) (amount : Nat) (s t : State) :
    Prop where
  covered : amount ≤ s.free source
  debited : (t.account source).data =
    { (s.account source).data with free := s.free source - amount }
  credited : (t.account target).data =
    { (s.account target).data with free := s.free target + amount }
  others : forall who, who ≠ source -> who ≠ target ->
    t.account who = s.account who
  totalIssuance : t.totalIssuance = s.totalIssuance
  inactiveIssuance : t.inactiveIssuance = s.inactiveIssuance

structure SameBalances (s t : State) : Prop where
  account : t.account = s.account
  totalIssuance : t.totalIssuance = s.totalIssuance
  inactiveIssuance : t.inactiveIssuance = s.inactiveIssuance

structure Minted (who : AccountId) (amount : Nat) (s t : State) : Prop where
  credited : (t.account who).data =
    { (s.account who).data with free := s.free who + amount }
  others : forall other, other ≠ who -> t.account other = s.account other
  totalIssuance : t.totalIssuance = s.totalIssuance + amount
  inactiveIssuance : t.inactiveIssuance = s.inactiveIssuance

/-- Documented behaviour of pallet-revive and of the balances and system
pallets. -/
structure Host.Lawful (host : Host) : Prop where
  /-- An address is the address of the account it resolves to. -/
  toAddress_toAccountId : forall address,
    host.toAddress (host.toAccountId address) = address
  minimumBalance_pos : 0 < host.pallets.minimumBalance
  /-- An account without a record reads as the default. -/
  account_of_not_exists : forall who s, host.accountExists who s = false ->
    s.account who = {}
  /-- What can be taken from an account that is to stay alive. -/
  reducibleBalance_preserve : forall who s,
    host.pallets.reducibleBalance who Preservation.preserve Fortitude.polite
        s =
      s.free who - max ((s.account who).data.frozen -
        (s.account who).data.reserved) host.pallets.minimumBalance
  mintInto_ok : forall who amount s t,
    host.pallets.mintInto who amount s = Except.ok t -> Minted who amount s t
  /-- Inactive issuance cannot exceed total issuance. -/
  deactivate_eq : forall amount s, host.pallets.deactivate amount s =
    s.setInactive (min (s.inactiveIssuance + amount) s.totalIssuance)
  transfer_self : forall who amount s t,
    host.pallets.transfer who who amount Preservation.preserve s =
      Except.ok t -> SameBalances s t
  /-- A transfer that preserves its source takes no more than is reducible. -/
  transfer_ok : forall source target amount s t, source ≠ target ->
    host.pallets.transfer source target amount Preservation.preserve s =
        Except.ok t ->
      Moved source target amount s t ∧
      amount ≤ host.pallets.reducibleBalance source Preservation.preserve
        Fortitude.polite s
  transferValue_zero : forall sender target s t,
    host.transferValue sender target 0 s = Except.ok t -> t = s
  /-- Only an account has value to send. -/
  transferValue_root : forall target value s t,
    host.transferValue none target value s = Except.ok t -> value = 0
  transferValue_self : forall who value s t,
    host.transferValue (some who) who value s = Except.ok t ->
      SameBalances s t
  /-- Value sent to an account that exists opens none. -/
  transferValue_ok : forall sender target value s t, sender ≠ target ->
    host.accountExists target s = true ->
    host.transferValue (some sender) target value s = Except.ok t ->
      Moved sender target value.toNat s t

theorem Moved.free_source {source target : AccountId} {amount : Nat}
    {s t : State} (h : Moved source target amount s t) :
    t.free source + amount = s.free source := by
  have hcovered := h.covered
  have hsource := congrArg AccountData.free h.debited
  change t.free source = s.free source - amount at hsource
  lia

theorem Moved.free_target {source target : AccountId} {amount : Nat}
    {s t : State} (h : Moved source target amount s t) :
    t.free target = s.free target + amount :=
  congrArg AccountData.free h.credited

theorem Moved.frozen_source {source target : AccountId} {amount : Nat}
    {s t : State} (h : Moved source target amount s t) :
    (t.account source).data.frozen = (s.account source).data.frozen := by
  rw [h.debited]

theorem Moved.frozen_target {source target : AccountId} {amount : Nat}
    {s t : State} (h : Moved source target amount s t) :
    (t.account target).data.frozen = (s.account target).data.frozen := by
  rw [h.credited]

theorem Minted.free_credited {who : AccountId} {amount : Nat} {s t : State}
    (h : Minted who amount s t) : t.free who = s.free who + amount :=
  congrArg AccountData.free h.credited

theorem SameBalances.free {s t : State} (h : SameBalances s t)
    (who : AccountId) : t.free who = s.free who :=
  State.free_congr (congrFun h.account who)

end Erc20
end Numen
