import Numen.Accounts.State
import Numen.Foundation.Arithmetic

/-!
# The claims pallet

`pallet-evm-claims`: a claim moves the balance, the vesting schedules and the
nonce an H160 had under Frontier to the account it has under pallet-revive, and
pays its fee out of what it moved.
-/

namespace Numen
namespace Accounts

open Foundation

def vestingId : LockIdentifier :=
  { toList := [118, 101, 115, 116, 105, 110, 103, 32]
    length_eq := rfl }

def evmTag : Bytes 4 :=
  { toList := [101, 118, 109, 58]
    length_eq := rfl }

/-- The last twelve bytes of an account that belongs to an H160. -/
def reviveSuffix : Bytes 12 :=
  Bytes.replicate 12 0xEE

/-- The account Frontier kept the balance and nonce of `address` at. -/
def legacyAccount (pallets : Pallets) (address : H160) : AccountId :=
  pallets.blake2 (evmTag.append address)

/-- The account pallet-revive resolves `address` to. -/
def reviveAccount (address : H160) : AccountId :=
  address.append reviveSuffix

/-- The balance of `who` that is neither locked nor keeping it alive. -/
def spendable (pallets : Pallets) (s : State) (who : AccountId) : Nat :=
  pallets.reducibleBalance who Preservation.expendable Fortitude.polite s

def movable (s : State) (legacy : AccountId) : Bool :=
  decide ((s.account legacy).data.reserved = 0) &&
    (s.freezes legacy).isEmpty &&
    (s.locks legacy).all (fun lock => decide (lock.id = vestingId))

/-- The fee a claim takes, no more than the old account can spend. -/
def feeDue (pallets : Pallets) (s : State) (legacy : AccountId) : Nat :=
  if movable s legacy then min pallets.claimFee (spendable pallets s legacy)
  else 0

/-- Raise the nonce of `account` to that of `legacy`.  An account whose nonce
leaves zero gets a provider that keeps it through a drain. -/
def carryNonce (pallets : Pallets) (legacy account : AccountId) (s : State) :
    Nat × State :=
  let nonce := s.nonce legacy
  let current := s.nonce account
  if nonce ≤ current then
    (current, s)
  else
    let provided := if current = 0 then pallets.incProviders account s else s
    (nonce, provided.setAccount account
      { provided.account account with nonce := nonce })

/-- Lift the nonce of an Ethereum signer that has not signed yet. -/
def liftNonce (pallets : Pallets) (who : AccountId) (s : State) : State :=
  if Bytes.rest (n := 12) 20 who ≠ reviveSuffix ∨ s.nonce who ≠ 0 then
    s
  else
    (carryNonce pallets (legacyAccount pallets (Bytes.first (n := 12) 20 who)) who s).2

/-!
## Moving an account
-/

/-- `while Vesting::contains_key(legacy)`: remove the first schedule until none
is left. -/
def removeSchedules (pallets : Pallets) (legacy : AccountId) :
    Nat -> State -> Except DispatchError State
  | 0, s =>
      if (s.vesting legacy).isSome then Except.error DispatchError.diverged
      else Except.ok s
  | fuel + 1, s =>
      if (s.vesting legacy).isSome then do
        let s <- pallets.removeVestingSchedule legacy 0 s
        removeSchedules pallets legacy fuel s
      else
        Except.ok s

/-- The loop that gives `account` the schedules still running at `now`. -/
def addSchedules (pallets : Pallets) (account : AccountId) (now : Nat) :
    List VestingInfo -> State -> Except DispatchError State
  | [], s => Except.ok s
  | schedule :: rest, s =>
      if pallets.lockedAt schedule now = 0 then
        addSchedules pallets account now rest s
      else do
        let s <- pallets.addVestingSchedule account
          ⟨schedule.locked, schedule.rate, schedule.startingBlock⟩ s
        addSchedules pallets account now rest s

/-- An empty account gets an inactive existential deposit. -/
def openAccount (pallets : Pallets) (account : AccountId) (s : State) :
    Except DispatchError State :=
  if s.totalBalance account = 0 then do
    let minted <- pallets.mintInto account pallets.minimumBalance s
    return pallets.deactivate pallets.minimumBalance minted
  else
    Except.ok s

/-- Move the free balance with its vesting schedules. -/
def moveBalance (pallets : Pallets) (legacy account : AccountId) (s : State) :
    Except DispatchError (Nat × State) :=
  let amount := s.free legacy
  if amount = 0 then
    Except.ok (amount, s)
  else do
    let now := s.block
    let schedules := (s.vesting legacy).getD []
    let cleared <- removeSchedules pallets legacy (scheduleCount s legacy + 1) s
    let opened <- openAccount pallets account cleared
    let moved <- pallets.transfer legacy account amount
      Preservation.expendable opened
    let vested <- addSchedules pallets account now schedules moved
    return (amount, vested)

/-- The balance moves only if nothing but vesting encumbers it. -/
def moveMovable (pallets : Pallets) (legacy account : AccountId) (s : State) :
    Except DispatchError (Nat × State) :=
  if movable s legacy then moveBalance pallets legacy account s
  else Except.ok (0, s)

def dropEmpty (legacy : AccountId) (s : State) : State :=
  if (s.account legacy).consumers = 0 ∧ s.totalBalance legacy = 0 then
    s.setAccount legacy {}
  else
    s

/-- `move_legacy`. -/
def moveLegacy (pallets : Pallets) (address : H160) (s : State) :
    Except DispatchError State := do
  let legacy := legacyAccount pallets address
  let account := reviveAccount address
  let carried := carryNonce pallets legacy account s
  let moved <- moveMovable pallets legacy account carried.2
  let dropped := dropEmpty legacy moved.2
  return { dropped with
    events := dropped.events ++ [⟨address, account, moved.1, carried.1⟩] }

/-!
## Claims
-/

/-- Withdraw the fee.  `none` says that no fee was due. -/
def payFee (pallets : Pallets) (account : AccountId) (fee : Nat) (s : State) :
    Except DispatchError (Option Nat × State) :=
  if fee = 0 then
    Except.ok (none, s)
  else do
    let paid <- pallets.withdraw account fee Precision.bestEffort
      Preservation.preserve Fortitude.polite s
    return (some paid.1, paid.2)

inductive Origin where
  | authorized
  | signed (who : AccountId)
  | root
  | none
deriving DecidableEq

def ensureAuthorized : Origin -> Except DispatchError Unit
  | Origin.authorized => Except.ok ()
  | _ => Except.error DispatchError.badOrigin

/-- A claim up to the point where its fee is handed on: the fee credit and the
state without it. -/
def settleClaim (pallets : Pallets) (address : H160) (s : State) :
    Except DispatchError (Option Nat × State) := do
  let fee := feeDue pallets s (legacyAccount pallets address)
  let moved <- moveLegacy pallets address s
  payFee pallets (reviveAccount address) fee moved

/-- `OnClaimFee` gets the fee if one was due. -/
def handOn (pallets : Pallets) : Option Nat -> State -> State
  | some paid, s => pallets.onClaimFee paid s
  | Option.none, s => s

/-- `claim`, with the number of schedules its weight is billed on. -/
def claim (pallets : Pallets) (origin : Origin) (address : H160) (s : State) :
    Except DispatchError (Nat × State) := do
  ensureAuthorized origin
  let schedules := scheduleCount s (legacyAccount pallets address)
  let settled <- settleClaim pallets address s
  return (schedules, handOn pallets settled.1 settled.2)

/-!
## Admission
-/

inductive InvalidTransaction where
  | custom (code : Nat)
deriving DecidableEq

/-- No nonce to move, and funds worth no more than the fee. -/
def nothingToClaim : InvalidTransaction :=
  InvalidTransaction.custom 0

/-- The vesting schedules do not fit next to those of the new account. -/
def noRoomForVesting : InvalidTransaction :=
  InvalidTransaction.custom 1

structure ValidTransaction where
  tagPrefix : String
  provides : H160
  propagate : Bool
deriving DecidableEq

/-- What the transaction pool asks before it lets a claim in. -/
def authorizeClaim (pallets : Pallets) (address : H160) (s : State) :
    Except InvalidTransaction ValidTransaction :=
  let legacy := legacyAccount pallets address
  let account := reviveAccount address
  let nonceDue := decide (s.nonce account < s.nonce legacy)
  let fundsDue := movable s legacy &&
    decide (pallets.claimFee < spendable pallets s legacy)
  if !(nonceDue || fundsDue) then
    Except.error nothingToClaim
  else if pallets.maxVestingSchedules <
      scheduleCount s legacy + scheduleCount s account then
    Except.error noRoomForVesting
  else
    Except.ok { tagPrefix := "EvmClaims", provides := address, propagate := true }

/-- Whether the old account of `address` still holds anything to move. -/
def claimable (pallets : Pallets) (address : H160) (s : State) : Bool :=
  let legacy := legacyAccount pallets address
  (movable s legacy && decide (s.free legacy ≠ 0)) ||
    decide (s.nonce (reviveAccount address) < s.nonce legacy)

/-!
## Effects of the parts
-/

variable {pallets : Pallets}

theorem movable_congr {s t : State} {legacy : AccountId}
    (haccount : t.account legacy = s.account legacy)
    (hlocks : t.locks = s.locks) (hfreezes : t.freezes = s.freezes) :
    movable t legacy = movable s legacy := by
  unfold movable
  rw [haccount, hlocks, hfreezes]

/-- Carrying a nonce over touches the nonce and the providers of one account. -/
structure NonceChange (account : AccountId) (s t : State) : Prop where
  untouched : forall other, other ≠ account ->
    t.account other = s.account other
  data : (t.account account).data = (s.account account).data
  sufficients : (t.account account).sufficients =
    (s.account account).sufficients
  locks : t.locks = s.locks
  freezes : t.freezes = s.freezes
  vesting : t.vesting = s.vesting
  totalIssuance : t.totalIssuance = s.totalIssuance
  inactiveIssuance : t.inactiveIssuance = s.inactiveIssuance

theorem carryNonce_change (hlawful : pallets.Lawful)
    (legacy account : AccountId) (s : State) :
    NonceChange account s (carryNonce pallets legacy account s).2 := by
  unfold carryNonce
  dsimp only
  split
  · exact ⟨fun _ _ => rfl, rfl, rfl, rfl, rfl, rfl, rfl, rfl⟩
  · split
    · rw [hlawful.incProviders_eq]
      refine ⟨?_, by simp, by simp, rfl, rfl, rfl, rfl, rfl⟩
      intro other hne
      rw [State.account_setAccount_of_ne _ _ hne,
        State.account_setAccount_of_ne _ _ hne]
    · refine ⟨?_, by simp, by simp, rfl, rfl, rfl, rfl, rfl⟩
      intro other hne
      exact State.account_setAccount_of_ne _ _ hne

theorem removeSchedules_related {legacy : AccountId}
    (Rel : State -> State -> Prop) (hrefl : forall s, Rel s s)
    (htrans : forall s t u, Rel s t -> Rel t u -> Rel s u)
    (hremove : forall s t, pallets.removeVestingSchedule legacy 0 s =
      Except.ok t -> Rel s t)
    (fuel : Nat) {s t : State}
    (h : removeSchedules pallets legacy fuel s = Except.ok t) : Rel s t := by
  induction fuel generalizing s with
  | zero =>
      unfold removeSchedules at h
      split at h
      · cases h
      · cases h
        exact hrefl _
  | succ fuel ih =>
      unfold removeSchedules at h
      split at h
      · rcases except_bind_eq_ok h with ⟨next, hremoved, hrest⟩
        exact htrans _ _ _ (hremove _ _ hremoved) (ih hrest)
      · cases h
        exact hrefl _

theorem removeSchedules_change (hlawful : pallets.Lawful) {legacy : AccountId}
    (fuel : Nat) {s t : State}
    (h : removeSchedules pallets legacy fuel s = Except.ok t) :
    VestingChange legacy s t :=
  removeSchedules_related (VestingChange legacy) (VestingChange.refl legacy)
    (fun _ _ _ => VestingChange.trans)
    (fun s t ht => (hlawful.removeVestingSchedule_ok legacy s t ht).left)
    fuel h

theorem removeSchedules_not_diverged (hlawful : pallets.Lawful)
    (hremove : forall legacy s, pallets.removeVestingSchedule legacy 0 s ≠
      Except.error DispatchError.diverged)
    {legacy : AccountId} (fuel : Nat) {s : State}
    (hfuel : scheduleCount s legacy < fuel) :
    removeSchedules pallets legacy fuel s ≠
      Except.error DispatchError.diverged := by
  induction fuel generalizing s with
  | zero => lia
  | succ fuel ih =>
      unfold removeSchedules
      split
      · rename_i hsome
        cases hremoved : pallets.removeVestingSchedule legacy 0 s with
        | error error =>
            intro h
            cases h
            exact hremove legacy s hremoved
        | ok next =>
            rw [except_ok_bind]
            have hshrinks :=
              (hlawful.removeVestingSchedule_ok legacy s next hremoved).right
                hsome
            cases hnext : (next.vesting legacy).isSome with
            | true => exact ih (Nat.lt_of_lt_of_le (hshrinks hnext) (by lia))
            | false =>
                cases fuel with
                | zero =>
                    unfold removeSchedules
                    rw [hnext]
                    intro h
                    cases h
                | succ fuel =>
                    unfold removeSchedules
                    rw [hnext]
                    intro h
                    cases h
      · intro h
        cases h

theorem addSchedules_related {account : AccountId} {now : Nat}
    (Rel : State -> State -> Prop) (hrefl : forall s, Rel s s)
    (htrans : forall s t u, Rel s t -> Rel t u -> Rel s u)
    (hadd : forall schedule s t, pallets.addVestingSchedule account schedule s =
      Except.ok t -> Rel s t)
    (schedules : List VestingInfo) {s t : State}
    (h : addSchedules pallets account now schedules s = Except.ok t) :
    Rel s t := by
  induction schedules generalizing s with
  | nil =>
      cases h
      exact hrefl _
  | cons schedule rest ih =>
      unfold addSchedules at h
      split at h
      · exact ih h
      · rcases except_bind_eq_ok h with ⟨next, hadded, hrest⟩
        exact htrans _ _ _ (hadd _ _ _ hadded) (ih hrest)

theorem addSchedules_change (hlawful : pallets.Lawful) {account : AccountId}
    {now : Nat} (schedules : List VestingInfo) {s t : State}
    (h : addSchedules pallets account now schedules s = Except.ok t) :
    VestingChange account s t :=
  addSchedules_related (VestingChange account) (VestingChange.refl account)
    (fun _ _ _ => VestingChange.trans)
    (fun schedule s t ht => hlawful.addVestingSchedule_ok account schedule s t
      ht) schedules h

theorem openAccount_change (hlawful : pallets.Lawful) {account : AccountId}
    {s t : State} (h : openAccount pallets account s = Except.ok t) :
    BalanceChange pallets.minimumBalance (fun who => who = account) s t := by
  unfold openAccount at h
  split at h
  · rcases except_bind_eq_ok h with ⟨minted, hminted, hreturn⟩
    rw [hlawful.deactivate_eq] at hreturn
    cases hreturn
    have hchange := (hlawful.mintInto_ok account _ s minted hminted).left
    exact ⟨hchange.untouched, hchange.record, hchange.vesting⟩
  · cases h
    exact BalanceChange.of_account_eq rfl rfl

structure MoveCalls (pallets : Pallets) (legacy account : AccountId)
    (s cleared opened moved t : State) : Prop where
  clear : removeSchedules pallets legacy (scheduleCount s legacy + 1) s =
    Except.ok cleared
  opens : openAccount pallets account cleared = Except.ok opened
  transfer : pallets.transfer legacy account (s.free legacy)
    Preservation.expendable opened = Except.ok moved
  vest : addSchedules pallets account s.block (schedulesOf s legacy) moved =
    Except.ok t

theorem moveBalance_calls {legacy account : AccountId} {amount : Nat}
    {s t : State}
    (h : moveBalance pallets legacy account s = Except.ok (amount, t)) :
    amount = s.free legacy ∧
      ((s.free legacy = 0 ∧ t = s) ∨
        (s.free legacy ≠ 0 ∧ exists cleared opened moved,
          MoveCalls pallets legacy account s cleared opened moved t)) := by
  unfold moveBalance at h
  dsimp only at h
  split at h
  · rename_i hzero
    cases h
    exact ⟨rfl, Or.inl ⟨hzero, rfl⟩⟩
  · rename_i hpositive
    rcases except_bind_eq_ok h with ⟨cleared, hcleared, h⟩
    rcases except_bind_eq_ok h with ⟨opened, hopened, h⟩
    rcases except_bind_eq_ok h with ⟨moved, hmoved, h⟩
    rcases except_bind_eq_ok h with ⟨vested, hvested, h⟩
    cases h
    exact ⟨rfl, Or.inr ⟨hpositive, cleared, opened, moved, hcleared, hopened,
      hmoved, hvested⟩⟩

structure MoveStages (pallets : Pallets) (legacy account : AccountId)
    (s cleared opened moved t : State) : Prop where
  clear : VestingChange legacy s cleared
  opens : openAccount pallets account cleared = Except.ok opened
  legacy_free : opened.free legacy = s.free legacy
  transfer : pallets.transfer legacy account (opened.free legacy)
    Preservation.expendable opened = Except.ok moved
  vest : VestingChange account moved t

theorem MoveCalls.stages (hlawful : pallets.Lawful)
    {legacy account : AccountId} (hne : legacy ≠ account)
    {s cleared opened moved t : State}
    (h : MoveCalls pallets legacy account s cleared opened moved t) :
    MoveStages pallets legacy account s cleared opened moved t := by
  have hclear := removeSchedules_change hlawful _ h.clear
  have hfree : opened.free legacy = s.free legacy := by
    have hopen := (openAccount_change hlawful h.opens).untouched legacy hne
    exact (State.free_congr hopen).trans hclear.free
  have htransfer := h.transfer
  rw [← hfree] at htransfer
  exact ⟨hclear, h.opens, hfree, htransfer,
    addSchedules_change hlawful _ h.vest⟩

theorem moveBalance_cases (hlawful : pallets.Lawful)
    {legacy account : AccountId} (hne : legacy ≠ account) {amount : Nat}
    {s t : State}
    (h : moveBalance pallets legacy account s = Except.ok (amount, t)) :
    amount = s.free legacy ∧
      ((s.free legacy = 0 ∧ t = s) ∨
        (s.free legacy ≠ 0 ∧ exists cleared opened moved,
          MoveStages pallets legacy account s cleared opened moved t)) := by
  rcases moveBalance_calls h with ⟨hamount, hcase⟩
  refine ⟨hamount, ?_⟩
  rcases hcase with hnothing | ⟨hpositive, cleared, opened, moved, hcalls⟩
  · exact Or.inl hnothing
  · exact Or.inr ⟨hpositive, cleared, opened, moved,
      hcalls.stages hlawful hne⟩

/-- `move_legacy` after the balance moved: the empty account goes, and the claim
is reported. -/
def report (pallets : Pallets) (address : H160) (s : State) (amount : Nat)
    (moved : State) : State :=
  let legacy := legacyAccount pallets address
  let account := reviveAccount address
  let dropped := dropEmpty legacy moved
  { dropped with events := dropped.events ++
      [⟨address, account, amount, (carryNonce pallets legacy account s).1⟩] }

theorem moveLegacy_calls {address : H160} {s t : State}
    (h : moveLegacy pallets address s = Except.ok t) :
    exists amount moved,
      moveMovable pallets (legacyAccount pallets address)
          (reviveAccount address)
          (carryNonce pallets (legacyAccount pallets address)
            (reviveAccount address) s).2 = Except.ok (amount, moved) ∧
        t = report pallets address s amount moved := by
  unfold moveLegacy at h
  rcases except_bind_eq_ok h with ⟨⟨amount, moved⟩, hmoved, h⟩
  cases h
  exact ⟨amount, moved, hmoved, rfl⟩

structure ClaimCalls (pallets : Pallets) (address : H160) (s : State)
    (amount : Nat) (moved : State) (credit : Option Nat) (paid t : State) :
    Prop where
  move : moveMovable pallets (legacyAccount pallets address)
      (reviveAccount address)
      (carryNonce pallets (legacyAccount pallets address)
        (reviveAccount address) s).2 = Except.ok (amount, moved)
  pay : payFee pallets (reviveAccount address)
      (feeDue pallets s (legacyAccount pallets address))
      (report pallets address s amount moved) = Except.ok (credit, paid)
  hand : t = handOn pallets credit paid

theorem claim_calls {origin : Origin} {address : H160} {s t : State}
    {billed : Nat}
    (h : claim pallets origin address s = Except.ok (billed, t)) :
    exists amount moved credit paid,
      ClaimCalls pallets address s amount moved credit paid t := by
  unfold claim settleClaim at h
  rcases except_bind_eq_ok h with ⟨_, _, h⟩
  rcases except_bind_eq_ok h with ⟨⟨credit, paid⟩, hsettled, h⟩
  rcases except_bind_eq_ok hsettled with ⟨reported, hreported, hpaid⟩
  rcases moveLegacy_calls hreported with ⟨amount, moved, hmoved, heq⟩
  cases h
  rw [heq] at hpaid
  exact ⟨amount, moved, credit, paid, hmoved, hpaid, rfl⟩

end Accounts
end Numen
