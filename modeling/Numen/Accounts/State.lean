import Mathlib.Logic.Function.Basic
import Numen.Foundation.Bytes

/-!
# Accounts

The storage items of the system, balances and vesting pallets that claims and
nonce checks read and write, and those pallets' functions they call.  The
functions belong to other crates: they enter as the parameter `Pallets`, and
`Lawful` states the documented behaviour relied on.
-/

namespace Numen
namespace Accounts

open Foundation

abbrev AccountId : Type :=
  Bytes 32

abbrev H160 : Type :=
  Bytes 20

abbrev LockIdentifier : Type :=
  Bytes 8

structure AccountData where
  free : Nat := 0
  reserved : Nat := 0
  frozen : Nat := 0
deriving DecidableEq

/-- `frame_system::AccountInfo`.  An account without a record reads as the
default. -/
structure AccountInfo where
  nonce : Nat := 0
  consumers : Nat := 0
  providers : Nat := 0
  sufficients : Nat := 0
  data : AccountData := {}
deriving DecidableEq

structure BalanceLock where
  id : LockIdentifier
  amount : Nat
deriving DecidableEq

structure VestingInfo where
  locked : Nat
  perBlock : Nat
  startingBlock : Nat
deriving DecidableEq

/-- What a schedule unlocks with every block: `VestingInfo::per_block` corrects
a stored zero. -/
def VestingInfo.rate (schedule : VestingInfo) : Nat :=
  max schedule.perBlock 1

/-- `Claimed` of the claims pallet. -/
structure Claimed where
  address : H160
  account : AccountId
  amount : Nat
  nonce : Nat
deriving DecidableEq

structure State where
  block : Nat
  account : AccountId -> AccountInfo
  locks : AccountId -> List BalanceLock
  freezes : AccountId -> List Nat
  vesting : AccountId -> Option (List VestingInfo)
  totalIssuance : Nat
  inactiveIssuance : Nat
  events : List Claimed

namespace State

def setAccount (s : State) (who : AccountId) (info : AccountInfo) : State :=
  { s with account := Function.update s.account who info }

@[simp] theorem account_setAccount_self (s : State) (who : AccountId)
    (info : AccountInfo) : (s.setAccount who info).account who = info := by
  simp [setAccount]

theorem account_setAccount_of_ne (s : State) {who other : AccountId}
    (info : AccountInfo) (h : other ≠ who) :
    (s.setAccount who info).account other = s.account other := by
  simp [setAccount, h]

theorem setAccount_setAccount (s : State) (who : AccountId)
    (info info' : AccountInfo) :
    (s.setAccount who info).setAccount who info' = s.setAccount who info' := by
  simp [setAccount]

def setInactive (s : State) (amount : Nat) : State :=
  { s with inactiveIssuance := amount }

def nonce (s : State) (who : AccountId) : Nat :=
  (s.account who).nonce

/-- `Balances::balance`. -/
def free (s : State) (who : AccountId) : Nat :=
  (s.account who).data.free

theorem free_congr {s t : State} {who : AccountId}
    (h : t.account who = s.account who) : t.free who = s.free who :=
  congrArg (fun info => info.data.free) h

theorem nonce_congr {s t : State} {who : AccountId}
    (h : t.account who = s.account who) : t.nonce who = s.nonce who :=
  congrArg AccountInfo.nonce h

def totalBalance (s : State) (who : AccountId) : Nat :=
  (s.account who).data.free + (s.account who).data.reserved

def activeIssuance (s : State) : Nat :=
  s.totalIssuance - s.inactiveIssuance

end State

/-!
## Functions of other pallets
-/

inductive Preservation where
  | expendable
  | protect
  | preserve
deriving DecidableEq

inductive Fortitude where
  | polite
  | force
deriving DecidableEq

inductive Precision where
  | exact
  | bestEffort
deriving DecidableEq

inductive DispatchError where
  | badOrigin
  | pallet (message : String)
  /-- A loop of the source that other pallets keep from ending. -/
  | diverged
deriving DecidableEq

/-- What the claims pallet calls of its neighbours, and its configuration. -/
structure Pallets where
  blake2 : Bytes 24 -> AccountId
  claimFee : Nat
  maxVestingSchedules : Nat
  minimumBalance : Nat
  reducibleBalance :
    AccountId -> Preservation -> Fortitude -> State -> Nat
  mintInto : AccountId -> Nat -> State -> Except DispatchError State
  deactivate : Nat -> State -> State
  transfer : AccountId -> AccountId -> Nat -> Preservation -> State ->
    Except DispatchError State
  /-- The credit withdrawn, and the state without it. -/
  withdraw : AccountId -> Nat -> Precision -> Preservation -> Fortitude ->
    State -> Except DispatchError (Nat × State)
  onClaimFee : Nat -> State -> State
  lockedAt : VestingInfo -> Nat -> Nat
  removeVestingSchedule : AccountId -> Nat -> State ->
    Except DispatchError State
  addVestingSchedule : AccountId -> VestingInfo -> State ->
    Except DispatchError State
  incProviders : AccountId -> State -> State

/-!
## References

A balance of at least the existential deposit holds one provider reference of
its own.  A record disappears, nonce included, with its last reference.
-/

def ownProvider (deposit : Nat) (info : AccountInfo) : Nat :=
  if deposit ≤ info.data.free then 1 else 0

/-- What a change of balance does to the rest of a record.  If the balance gives
up the last reference, the record goes. -/
def RecordChange (deposit : Nat) (before after : AccountInfo) : Prop :=
  if ownProvider deposit before = 1 ∧ ownProvider deposit after = 0 ∧
      before.providers ≤ 1 ∧ before.sufficients = 0 then
    after.nonce = 0 ∧ after.providers = 0 ∧ after.sufficients = 0
  else
    after.nonce = before.nonce ∧
      after.providers = before.providers + ownProvider deposit after -
        ownProvider deposit before ∧
      after.sufficients = before.sufficients

theorem RecordChange.refl (deposit : Nat) (info : AccountInfo) :
    RecordChange deposit info info := by
  unfold RecordChange
  rw [if_neg (by lia)]
  exact ⟨rfl, by lia, rfl⟩

structure BalanceChange (deposit : Nat) (touched : AccountId -> Prop)
    (s t : State) : Prop where
  untouched : forall who, ¬ touched who -> t.account who = s.account who
  record : forall who, RecordChange deposit (s.account who) (t.account who)
  vesting : t.vesting = s.vesting

theorem BalanceChange.of_account_eq {deposit : Nat}
    {touched : AccountId -> Prop} {s t : State}
    (haccount : t.account = s.account) (hvesting : t.vesting = s.vesting) :
    BalanceChange deposit touched s t where
  untouched := fun who _ => congrFun haccount who
  record := by
    intro who
    rw [haccount]
    exact RecordChange.refl deposit _
  vesting := hvesting

/-- A change of the vesting schedules of `who`, and of the lock they put on
its balance. -/
structure VestingChange (who : AccountId) (s t : State) : Prop where
  untouched : forall other, other ≠ who ->
    t.account other = s.account other ∧ t.vesting other = s.vesting other
  nonce : (t.account who).nonce = (s.account who).nonce
  providers : (t.account who).providers = (s.account who).providers
  sufficients : (t.account who).sufficients = (s.account who).sufficients
  free : (t.account who).data.free = (s.account who).data.free
  reserved : (t.account who).data.reserved = (s.account who).data.reserved
  totalIssuance : t.totalIssuance = s.totalIssuance
  inactiveIssuance : t.inactiveIssuance = s.inactiveIssuance

theorem VestingChange.refl (who : AccountId) (s : State) :
    VestingChange who s s where
  untouched := fun _ _ => ⟨rfl, rfl⟩
  nonce := rfl
  providers := rfl
  sufficients := rfl
  free := rfl
  reserved := rfl
  totalIssuance := rfl
  inactiveIssuance := rfl

theorem VestingChange.trans {who : AccountId} {s t u : State}
    (hst : VestingChange who s t) (htu : VestingChange who t u) :
    VestingChange who s u where
  untouched := by
    intro other hne
    have hfirst := hst.untouched other hne
    have hsecond := htu.untouched other hne
    exact ⟨hsecond.left.trans hfirst.left, hsecond.right.trans hfirst.right⟩
  nonce := htu.nonce.trans hst.nonce
  providers := htu.providers.trans hst.providers
  sufficients := htu.sufficients.trans hst.sufficients
  free := htu.free.trans hst.free
  reserved := htu.reserved.trans hst.reserved
  totalIssuance := htu.totalIssuance.trans hst.totalIssuance
  inactiveIssuance := htu.inactiveIssuance.trans hst.inactiveIssuance

def schedulesOf (s : State) (who : AccountId) : List VestingInfo :=
  (s.vesting who).getD []

/-- The number of vesting schedules of an account. -/
def scheduleCount (s : State) (who : AccountId) : Nat :=
  ((s.vesting who).getD []).length

structure Pallets.Lawful (pallets : Pallets) : Prop where
  minimumBalance_pos : 0 < pallets.minimumBalance
  /-- No more than the free balance can be taken from an account. -/
  reducibleBalance_le : forall who preservation fortitude s,
    pallets.reducibleBalance who preservation fortitude s ≤ s.free who
  mintInto_ok : forall who amount s t,
    pallets.mintInto who amount s = Except.ok t ->
      BalanceChange pallets.minimumBalance (fun a => a = who) s t ∧
      t.free who = s.free who + amount ∧
      t.totalIssuance = s.totalIssuance + amount ∧
      t.inactiveIssuance = s.inactiveIssuance
  /-- Inactive issuance cannot exceed total issuance. -/
  deactivate_eq : forall amount s, pallets.deactivate amount s =
    s.setInactive (min (s.inactiveIssuance + amount) s.totalIssuance)
  /-- Transferring a whole free balance leaves no dust behind. -/
  transfer_ok : forall source target s t, source ≠ target ->
    pallets.transfer source target (s.free source) Preservation.expendable s =
        Except.ok t ->
      BalanceChange pallets.minimumBalance
        (fun a => a = source ∨ a = target) s t ∧
      t.free source = 0 ∧
      t.free target = s.free target + s.free source ∧
      t.totalIssuance = s.totalIssuance ∧
      t.inactiveIssuance = s.inactiveIssuance
  /-- A withdrawal that preserves the account takes what it can.  What it took
  stays issued until the credit is dropped. -/
  withdraw_ok : forall who amount s paid t,
    pallets.withdraw who amount Precision.bestEffort Preservation.preserve
        Fortitude.polite s = Except.ok (paid, t) ->
      BalanceChange pallets.minimumBalance (fun a => a = who) s t ∧
      paid ≤ amount ∧ t.free who + paid = s.free who ∧
      t.totalIssuance = s.totalIssuance ∧
      t.inactiveIssuance = s.inactiveIssuance
  onClaimFee_change : forall amount s,
    BalanceChange pallets.minimumBalance (fun _ => True) s
      (pallets.onClaimFee amount s)
  /-- Removing the first schedule leaves fewer of them. -/
  removeVestingSchedule_ok : forall who s t,
    pallets.removeVestingSchedule who 0 s = Except.ok t ->
      VestingChange who s t ∧
      ((s.vesting who).isSome = true ->
        (t.vesting who).isSome = true ->
          scheduleCount t who < scheduleCount s who)
  addVestingSchedule_ok : forall who schedule s t,
    pallets.addVestingSchedule who schedule s = Except.ok t ->
      VestingChange who s t
  incProviders_eq : forall who s, pallets.incProviders who s =
    s.setAccount who
      { s.account who with providers := (s.account who).providers + 1 }

end Accounts
end Numen
