import Numen.Migration.Snapshot
import Numen.Migration.Whole

/-!
# The deposits of the upgrade

The upgrade mints an existential deposit wherever an account has to be opened:
for pallet-revive itself, for a contract or the token proxy that gets an
account, and for funds that arrive on an empty one.  Each step tests for itself
whether there is an account to open.  The snapshot counts ahead of all of them,
so what it counts twice, or counts and nobody opens, is missing from the
issuance afterwards.
-/

namespace Numen
namespace Migration

open Foundation
open Accounts

variable {pallets : Pallets} {revive : Revive} {inspector : Inspector}

/-- `deposits` existential deposits are minted, and none of them is active. -/
structure Minted (pallets : Pallets) (deposits : Nat) (s t : State) : Prop where
  totalIssuance : t.totalIssuance =
    s.totalIssuance + pallets.minimumBalance * deposits
  activeIssuance : t.activeIssuance = s.activeIssuance

theorem Minted.of_eq {s t : State} (htotal : t.totalIssuance = s.totalIssuance)
    (hinactive : t.inactiveIssuance = s.inactiveIssuance) :
    Minted pallets 0 s t := by
  refine ⟨htotal, ?_⟩
  unfold State.activeIssuance
  rw [htotal, hinactive]

theorem Minted.refl (s : State) : Minted pallets 0 s s :=
  Minted.of_eq rfl rfl

theorem Minted.trans {m n : Nat} {s t u : State} (hst : Minted pallets m s t)
    (htu : Minted pallets n t u) : Minted pallets (m + n) s u := by
  refine ⟨?_, htu.activeIssuance.trans hst.activeIssuance⟩
  rw [htu.totalIssuance, hst.totalIssuance, Nat.mul_add, Nat.add_assoc]

theorem deactivate_minted (hlawful : pallets.Lawful) {who : AccountId}
    {s minted : State}
    (h : pallets.mintInto who pallets.minimumBalance s = Except.ok minted) :
    Minted pallets 1 s (pallets.deactivate pallets.minimumBalance minted) := by
  rcases hlawful.mintInto_ok who _ s minted h with
    ⟨_, _, htotal, hinactive⟩
  rw [hlawful.deactivate_eq]
  constructor
  · change minted.totalIssuance = _
    rw [htotal, Nat.mul_one]
  · change minted.totalIssuance -
      min (minted.inactiveIssuance + _) minted.totalIssuance = _
    unfold State.activeIssuance
    rw [htotal, hinactive]
    lia

/-!
## Which steps open an account
-/

/-- Whether moving the old account of `address` opens the new one. -/
def opensAccount (pallets : Pallets) (address : H160) (s : State) : Bool :=
  fresh address s &&
    decide (claimedAmount s (legacyAccount pallets address) ≠ 0)

/-- Whether moving the contract at `address` opens its account. -/
def opensContract (pallets : Pallets) (address : H160) (s : State) : Bool :=
  !accountExists s (reviveAccount address) || opensAccount pallets address s

/-- Whether moving what Frontier lists opens an account. -/
def opensListed (pallets : Pallets) (listed : H160 × List UInt8)
    (s : State) : Bool :=
  if isDelegation listed.2 then opensAccount pallets listed.1 s
  else opensContract pallets listed.1 s

theorem fresh_of_not_exists {address : H160} {s : State}
    (h : accountExists s (reviveAccount address) = false) :
    fresh address s = true := by
  have hrecord : s.account (reviveAccount address) = {} :=
    Decidable.not_not.mp (of_decide_eq_false h)
  unfold fresh State.totalBalance
  rw [hrecord]
  rfl

theorem movingDeposit_eq (address : H160) (s : State) :
    movingDeposit pallets s (reviveAccount address)
        (claimedAmount s (legacyAccount pallets address)) =
      pallets.minimumBalance * (opensAccount pallets address s).toNat := by
  unfold movingDeposit opensAccount fresh
  by_cases hempty : s.totalBalance (reviveAccount address) = 0
  · by_cases hclaimed : claimedAmount s (legacyAccount pallets address) = 0
    · simp [hclaimed]
    · simp [hempty, hclaimed, Nat.pos_of_ne_zero hclaimed]
  · simp [hempty]

theorem moveLegacy_minted (hlawful : pallets.Lawful) {address : H160}
    (hne : legacyAccount pallets address ≠ reviveAccount address)
    {s t : State} (h : moveLegacy pallets address s = Except.ok t) :
    Minted pallets (opensAccount pallets address s).toNat s t := by
  have hmoved := moveLegacy_ok hlawful hne h
  refine ⟨?_, hmoved.activeIssuance⟩
  rw [hmoved.totalIssuance, movingDeposit_eq]

section Install

variable (hlawful : pallets.Lawful) (hrevive : revive.Lawful pallets)

include hlawful hrevive

theorem initMissing_minted {account : AccountId} {s t : State}
    (h : initMissing revive account s = Except.ok t) :
    Minted pallets (!accountExists s account).toNat s t := by
  unfold initMissing at h
  split at h
  · rename_i hexists
    cases h
    rw [hexists]
    exact Minted.refl _
  · rename_i hnew
    rcases hrevive.initContract_ok account s t h with
      ⟨minted, hminted, hdeactivated⟩
    rw [hdeactivated, Bool.eq_false_iff.mpr hnew]
    exact deactivate_minted hlawful hminted

theorem initMissing_fresh {address : H160} {s t : State}
    (h : initMissing revive (reviveAccount address) s = Except.ok t) :
    fresh address t =
      (accountExists s (reviveAccount address) && fresh address s) := by
  unfold initMissing at h
  split at h
  · rename_i hexists
    cases h
    rw [hexists, Bool.true_and]
  · rename_i hnew
    rcases hrevive.initContract_ok _ s t h with
      ⟨minted, hminted, hdeactivated⟩
    have hfree := (hlawful.mintInto_ok _ _ s minted hminted).right.left
    have hpositive := hlawful.minimumBalance_pos
    rw [hdeactivated, hlawful.deactivate_eq, Bool.eq_false_iff.mpr hnew,
      Bool.false_and]
    refine decide_eq_false ?_
    change minted.totalBalance _ ≠ 0
    unfold State.free at hfree
    unfold State.totalBalance
    lia

theorem install_minted {address : H160} {code : List UInt8}
    {storage : List (H256 × H256)} {s t : Chain}
    (h : install revive address code storage s = Except.ok t) :
    Minted pallets (!accountExists s.ledger (reviveAccount address)).toNat
        s.ledger t.ledger ∧
      fresh address t.ledger =
        (accountExists s.ledger (reviveAccount address) &&
          fresh address s.ledger) := by
  rcases install_calls hrevive h with ⟨counted, ledger, _, hledger, heq⟩
  rcases openContractAccount_calls hrevive hledger with
    ⟨opened, info, hopened, hplaced, hdata, _⟩
  subst heq hplaced
  constructor
  · have hminted := initMissing_minted hlawful hrevive hopened
    exact ⟨hminted.totalIssuance, hminted.activeIssuance⟩
  · rw [← initMissing_fresh hlawful hrevive hopened]
    unfold fresh State.totalBalance
    dsimp only
    rw [State.account_setAccount_self, hdata]

theorem moveContract_minted (hlocal : pallets.Local)
    (hdistinct : Distinct pallets revive) {listed : H160 × List UInt8}
    {s t : Chain} (h : moveContract pallets revive listed s = Except.ok t) :
    Minted pallets (opensListed pallets listed s.ledger).toNat s.ledger
      t.ledger := by
  rcases moveContract_calls h with
    ⟨installed, ledger, hinstalled, hledger, heq⟩
  have hne := hdistinct.legacy_ne_revive listed.1 listed.1
  have hmoved := moveLegacy_minted hlawful hne hledger
  subst heq
  unfold opensListed
  rcases installContract_cases hinstalled with
    ⟨hdelegation, rfl⟩ | ⟨hcontract, hinstalled⟩
  · rw [if_pos hdelegation]
    exact hmoved
  · rw [if_neg (Bool.eq_false_iff.mp hcontract)]
    rcases install_minted hlawful hrevive hinstalled with ⟨hminted, hfresh⟩
    have hlegacy := (install_ok hlawful hlocal hrevive
      hinstalled).ledger.sameHolding hne
    have hboth := hminted.trans hmoved
    -- the account is opened at its installation, or else when funds arrive
    have hcount : (opensContract pallets listed.1 s.ledger).toNat =
        (!accountExists s.ledger (reviveAccount listed.1)).toNat +
          (opensAccount pallets listed.1 installed.ledger).toNat := by
      unfold opensContract opensAccount
      rw [hfresh, hlegacy.claimedAmount]
      cases accountExists s.ledger (reviveAccount listed.1) with
      | true => simp
      | false => simp
    rw [hcount]
    exact hboth

end Install

/-!
## Which accounts a move leaves behind
-/

theorem accountExists_congr {who : AccountId} {s t : State}
    (h : t.account who = s.account who) :
    accountExists t who = accountExists s who := by
  unfold accountExists
  rw [h]

theorem accountExists_of_nonce {who : AccountId} {s : State}
    (h : s.nonce who ≠ 0) : accountExists s who = true := by
  refine decide_eq_true ?_
  intro hrecord
  unfold State.nonce at h
  rw [hrecord] at h
  exact h rfl

theorem accountExists_of_free {who : AccountId} {s : State}
    (h : s.free who ≠ 0) : accountExists s who = true := by
  refine decide_eq_true ?_
  intro hrecord
  unfold State.free at h
  rw [hrecord] at h
  exact h rfl

/-- Whether the old account of `address` brings funds or a nonce. -/
def brings (pallets : Pallets) (address : H160) (s : State) : Bool :=
  decide (claimedAmount s (legacyAccount pallets address) ≠ 0) ||
    decide (s.nonce (legacyAccount pallets address) ≠ 0)

theorem carryNonce_exists (legacy account : AccountId) (s : State) :
    accountExists (carryNonce pallets legacy account s).2 account =
      (accountExists s account || decide (s.nonce legacy ≠ 0)) := by
  by_cases hle : s.nonce legacy ≤ s.nonce account
  · have hsame : (carryNonce pallets legacy account s).2 = s := by
      unfold carryNonce
      dsimp only
      rw [if_pos hle]
    rw [hsame]
    by_cases hzero : s.nonce legacy = 0
    · simp [hzero]
    · have hsigned : s.nonce account ≠ 0 := by lia
      rw [accountExists_of_nonce hsigned, Bool.true_or]
  · have hcarried : (carryNonce pallets legacy account s).2.nonce account ≠
        0 := by
      rw [carryNonce_nonce]
      lia
    have hlegacy : s.nonce legacy ≠ 0 := by lia
    rw [accountExists_of_nonce hcarried, decide_eq_true hlegacy, Bool.or_true]

theorem moveMovable_of_claimed_zero {legacy account : AccountId}
    {amount : Nat} {s t : State} (hclaimed : claimedAmount s legacy = 0)
    (h : moveMovable pallets legacy account s = Except.ok (amount, t)) :
    t = s := by
  unfold moveMovable at h
  unfold claimedAmount at hclaimed
  split at h
  · rename_i hmovable
    rw [if_pos hmovable] at hclaimed
    unfold moveBalance at h
    dsimp only at h
    rw [if_pos hclaimed] at h
    cases h
    rfl
  · cases h
    rfl

theorem moveLegacy_exists (hlawful : pallets.Lawful) {address : H160}
    (hne : legacyAccount pallets address ≠ reviveAccount address)
    {s t : State} (h : moveLegacy pallets address s = Except.ok t) :
    accountExists t (reviveAccount address) =
      (accountExists s (reviveAccount address) ||
        brings pallets address s) := by
  have hfree := (moveLegacy_ok hlawful hne h).account_free
  unfold brings
  by_cases hclaimed : claimedAmount s (legacyAccount pallets address) = 0
  · rcases moveLegacy_calls h with ⟨amount, moved, hmoved, heq⟩
    have hcarry := carryNonce_change hlawful (legacyAccount pallets address)
      (reviveAccount address) s
    have hsame := hcarry.untouched _ hne
    have hcarried : claimedAmount (carryNonce pallets
        (legacyAccount pallets address) (reviveAccount address) s).2
          (legacyAccount pallets address) = 0 := by
      rw [← hclaimed]
      unfold claimedAmount
      rw [movable_congr hsame hcarry.locks hcarry.freezes,
        State.free_congr hsame]
    have hidle := moveMovable_of_claimed_zero hcarried hmoved
    have hrecord : t.account (reviveAccount address) =
        moved.account (reviveAccount address) := by
      rw [heq]
      exact ((dropEmpty_moved (legacyAccount pallets address)
        (legacyAccount pallets address) moved).others _ hne.symm
          hne.symm).left
    have hnothing : decide (claimedAmount s
        (legacyAccount pallets address) ≠ 0) = false :=
      decide_eq_false (fun h => h hclaimed)
    rw [accountExists_congr hrecord, hidle, carryNonce_exists, hnothing,
      Bool.false_or]
  · have hfunded : t.free (reviveAccount address) ≠ 0 := by lia
    rw [accountExists_of_free hfunded, decide_eq_true hclaimed, Bool.true_or,
      Bool.or_true]

/-!
## What the tests depend on
-/

/-- Whether moving `address` opens an account is the same. -/
structure SameStanding (pallets : Pallets) (address : H160) (s t : Chain) :
    Prop where
  accounts : SameAccounts pallets address s t
  existence : accountExists t.ledger (reviveAccount address) =
    accountExists s.ledger (reviveAccount address)

theorem SameStanding.refl (address : H160) (s : Chain) :
    SameStanding pallets address s s :=
  ⟨SameAccounts.of_eq rfl, rfl⟩

theorem SameStanding.trans {address : H160} {s t u : Chain}
    (hst : SameStanding pallets address s t)
    (htu : SameStanding pallets address t u) :
    SameStanding pallets address s u :=
  ⟨hst.accounts.trans htu.accounts, htu.existence.trans hst.existence⟩

section Standing

variable {address : H160} {s t : Chain}
  (h : SameStanding pallets address s t)

include h

theorem SameStanding.fresh : fresh address t.ledger = fresh address s.ledger := by
  unfold Migration.fresh State.totalBalance
  rw [h.accounts.account.data]

theorem SameStanding.opensAccount : opensAccount pallets address t.ledger =
    opensAccount pallets address s.ledger := by
  unfold Migration.opensAccount
  rw [h.fresh, h.accounts.legacy.claimedAmount]

theorem SameStanding.opensListed (code : List UInt8) :
    opensListed pallets (address, code) t.ledger =
      opensListed pallets (address, code) s.ledger := by
  unfold Migration.opensListed opensContract
  dsimp only
  rw [h.opensAccount, h.existence]

theorem SameStanding.brings : brings pallets address t.ledger =
    brings pallets address s.ledger := by
  unfold Migration.brings
  rw [h.accounts.legacy.claimedAmount, h.accounts.legacy.nonce]

end Standing

section Steps

variable (hlawful : pallets.Lawful) (hlocal : pallets.Local)
  (hdistinct : Distinct pallets revive)

include hlawful hlocal hdistinct

theorem moveLegacy_standing {address other : H160} (hne : address ≠ other)
    {s t : Chain}
    (h : moveLegacy pallets other s.ledger = Except.ok t.ledger) :
    SameStanding pallets address s t := by
  rcases moveLegacy_sameAccounts hlawful hlocal hdistinct hne h with
    ⟨hlegacy, haccount⟩
  have hmoved := moveLegacy_ok hlawful
    (hdistinct.legacy_ne_revive other other) h
  refine ⟨⟨hlegacy, haccount⟩, accountExists_congr ?_⟩
  refine (hmoved.others _ (hdistinct.legacy_ne_revive other address).symm
    ?_).left
  intro heq
  exact hne (reviveAccount_injective heq)

theorem moveAccount_standing {address other : H160} (hne : address ≠ other)
    {s t : Chain} (h : moveAccount pallets other s = Except.ok t) :
    SameStanding pallets address s t := by
  unfold moveAccount at h
  split at h
  · cases h
    exact SameStanding.refl address _
  · rcases except_bind_eq_ok h with ⟨ledger, hmoved, h⟩
    cases h
    exact moveLegacy_standing hlawful hlocal hdistinct hne hmoved

theorem install_standing (hrevive : revive.Lawful pallets)
    {address other : H160} (hne : address ≠ other) {code : List UInt8}
    {storage : List (H256 × H256)} {s t : Chain}
    (h : install revive other code storage s = Except.ok t) :
    SameStanding pallets address s t := by
  have hopened := (install_ok hlawful hlocal hrevive h).ledger
  have haccount : reviveAccount address ≠ reviveAccount other := by
    intro heq
    exact hne (reviveAccount_injective heq)
  exact ⟨⟨hopened.sameHolding (hdistinct.legacy_ne_revive address other),
    hopened.sameHolding haccount⟩,
    accountExists_congr (hopened.others _ haccount)⟩

theorem moveContract_standing (hrevive : revive.Lawful pallets)
    {address : H160} {listed : H160 × List UInt8} (hne : address ≠ listed.1)
    {s t : Chain} (h : moveContract pallets revive listed s = Except.ok t) :
    SameStanding pallets address s t := by
  rcases moveContract_calls h with
    ⟨installed, ledger, hinstalled, hledger, heq⟩
  have hinstall : SameStanding pallets address s installed := by
    rcases installContract_cases hinstalled with ⟨_, rfl⟩ | ⟨_, hinstall⟩
    · exact SameStanding.refl address _
    · exact install_standing hlawful hlocal hdistinct hrevive hne hinstall
  subst heq
  exact hinstall.trans
    (moveLegacy_standing hlawful hlocal hdistinct hne hledger)

theorem moveContract_emptied (hrevive : revive.Lawful pallets)
    {address : H160} {code : List UInt8} {s t : Chain}
    (hmovable : movable s.ledger (legacyAccount pallets address) = true)
    (h : moveContract pallets revive (address, code) s = Except.ok t) :
    claimedAmount t.ledger (legacyAccount pallets address) = 0 := by
  rcases moveContract_calls h with
    ⟨installed, ledger, hinstalled, hledger, heq⟩
  have hne := hdistinct.legacy_ne_revive address address
  have hlegacy : SameHolding (legacyAccount pallets address) s.ledger
      installed.ledger := by
    rcases installContract_cases hinstalled with ⟨_, rfl⟩ | ⟨_, hinstall⟩
    · exact SameHolding.refl _ _
    · exact (install_ok hlawful hlocal hrevive
        hinstall).ledger.sameHolding hne
  have hclaimed : claimedAmount installed.ledger
      (legacyAccount pallets address) =
        installed.ledger.free (legacyAccount pallets address) := by
    unfold claimedAmount
    rw [hlegacy.movable, if_pos hmovable]
  have hfree := (moveLegacy_ok hlawful hne hledger).legacy_free
  rw [hclaimed] at hfree
  subst heq
  change claimedAmount ledger _ = 0
  unfold claimedAmount
  split
  · lia
  · rfl

end Steps

/-!
## Before the contracts
-/

theorem pinSigners_minted (hlawful : pallets.Lawful)
    (accounts : List AccountId) (s : State) :
    Minted pallets 0 s (Accounts.pinSigners pallets accounts s) := by
  unfold Accounts.pinSigners
  refine foldl_preserves (fun t => Minted pallets 0 s t) _ ?_ (Minted.refl s)
  intro t who _ ht
  rw [hlawful.incProviders_eq]
  exact ⟨ht.totalIssuance, ht.activeIssuance⟩

theorem pinSigners_exists (hlawful : pallets.Lawful)
    (accounts : List AccountId) (s : State) (who : AccountId) :
    accountExists (Accounts.pinSigners pallets accounts s) who =
      accountExists s who := by
  have hrecord : (Accounts.pinSigners pallets accounts s).account who =
      { s.account who with
        providers := (s.account who).providers +
          (accounts.filter fun who => s.nonce who ≠ 0).count who } :=
    foldl_incProviders hlawful _ s who
  by_cases hsigned : s.nonce who = 0
  · refine accountExists_congr ?_
    have hunpinned : who ∉ accounts.filter fun who => s.nonce who ≠ 0 := by
      intro hmem
      exact of_decide_eq_true (List.mem_filter.mp hmem).right hsigned
    rw [hrecord, List.count_eq_zero_of_not_mem hunpinned]
    rfl
  · rw [accountExists_of_nonce hsigned]
    refine accountExists_of_nonce ?_
    rw [(pinSigners_sameHolding hlawful accounts s who).nonce]
    exact hsigned

section Prepare

variable (hlawful : pallets.Lawful)

include hlawful

theorem openPalletAccount_minted {s : Chain}
    (hopened : accountExists (openPalletAccount pallets revive s).ledger
      revive.accountId = true) :
    Minted pallets (!accountExists s.ledger revive.accountId).toNat s.ledger
      (openPalletAccount pallets revive s).ledger := by
  unfold openPalletAccount at hopened ⊢
  split
  · rename_i hexists
    rw [hexists]
    exact Minted.refl _
  · rename_i hnew
    rw [if_neg hnew] at hopened
    split
    · rename_i minted hminted
      rw [Bool.eq_false_iff.mpr hnew]
      exact deactivate_minted hlawful hminted
    · rename_i error herror
      rw [herror] at hopened
      exact absurd hopened hnew

theorem prepare_minted {s : Chain}
    (hopened : accountExists (prepare pallets revive s).ledger
      revive.accountId = true) :
    Minted pallets (!accountExists s.ledger revive.accountId).toNat s.ledger
      (prepare pallets revive s).ledger := by
  rcases copyBlockHashes_eq s with ⟨blockHash, hcopied⟩
  unfold prepare at hopened ⊢
  rw [hcopied] at hopened ⊢
  have hminted := (pinSigners_minted hlawful (revive.accountKeys s.ledger)
    s.ledger).trans (openPalletAccount_minted hlawful hopened)
  rw [Nat.zero_add] at hminted
  have hsame := pinSigners_exists hlawful (revive.accountKeys s.ledger)
    s.ledger revive.accountId
  rw [← hsame]
  exact hminted

theorem prepare_standing (hlocal : pallets.Local)
    (hdistinct : Distinct pallets revive) (s : Chain) (address : H160) :
    SameStanding pallets address s (prepare pallets revive s) := by
  refine ⟨((prepare_prepared hlawful hlocal hdistinct s).kept
    address).accounts, ?_⟩
  rcases copyBlockHashes_eq s with ⟨blockHash, hcopied⟩
  have hpinned := pinSigners_exists hlawful (revive.accountKeys s.ledger)
    s.ledger (reviveAccount address)
  unfold prepare openPalletAccount
  rw [hcopied, ← hpinned]
  split
  · rfl
  · split
    · rename_i minted hminted
      have hchange := (hlawful.mintInto_ok _ _ _ _ hminted).left
      rw [hlawful.deactivate_eq]
      exact accountExists_congr
        (hchange.untouched _ (hdistinct.pallet_ne_revive address).symm)
    · rfl

end Prepare

/-!
## The whole upgrade
-/

/-- Whether Frontier lists `address` with a delegation. -/
def delegationAt (address : H160) (s : Chain) : Bool :=
  (s.frontier.accountCodes.get address).any isDelegation

def contractAt (address : H160) (s : Chain) : Bool :=
  (s.frontier.accountCodes.get address).any fun code => !isDelegation code

/-- Whether a contract has the token's address before the proxy is deployed. -/
def tokenTaken (s : Chain) : Bool :=
  s.revive.contracts.containsKey Erc20.address || contractAt Erc20.address s

/-- Whether deploying the token proxy opens its account: no contract is in its
place, and the account is missing and not made by moving a delegation. -/
def opensProxy (pallets : Pallets) (s : Chain) : Bool :=
  !tokenTaken s && !(accountExists s.ledger (reviveAccount Erc20.address) ||
    delegationAt Erc20.address s && brings pallets Erc20.address s.ledger)

/-- No step of the upgrade fails: pallet-revive's account gets opened, all that
Frontier lists moves, the token proxy is deployed and every known address
moves. -/
structure Smooth (pallets : Pallets) (revive : Revive) (s : Chain) : Prop where
  opened : accountExists (prepare pallets revive s).ledger revive.accountId =
    true
  contracts : (runAll (moveContract pallets revive)
    (prepare pallets revive s).frontier.accountCodes.iter
    (prepare pallets revive s)).isOk = true
  proxy : (deployTokenProxy revive (swept pallets revive s)).isOk = true
  accounts : (runAll (moveAccount pallets) knownAddresses
    (attempt (deployTokenProxy revive) (swept pallets revive s))).isOk = true

/-- The states that an upgrade in which nothing fails goes through. -/
structure Stages (pallets : Pallets) (revive : Revive)
    (s moved deployed settled : Chain) : Prop where
  opened : accountExists (prepare pallets revive s).ledger revive.accountId =
    true
  contracts : runAll (moveContract pallets revive)
    (prepare pallets revive s).frontier.accountCodes.iter
    (prepare pallets revive s) = Except.ok moved
  proxy : deployTokenProxy revive moved = Except.ok deployed
  accounts : runAll (moveAccount pallets) knownAddresses deployed =
    Except.ok settled

theorem Smooth.stages {s : Chain} (h : Smooth pallets revive s) :
    exists moved deployed settled,
      Stages pallets revive s moved deployed settled := by
  rcases except_of_isOk h.contracts with ⟨moved, hmoved⟩
  have hswept : swept pallets revive s = moved := sweep_of_runAll hmoved
  have hproxy := h.proxy
  have haccounts := h.accounts
  rw [hswept] at hproxy haccounts
  rcases except_of_isOk hproxy with ⟨deployed, hdeployed⟩
  rw [attempt_of_ok hdeployed] at haccounts
  rcases except_of_isOk haccounts with ⟨settled, hsettled⟩
  exact ⟨moved, deployed, settled, h.opened, hmoved, hdeployed, hsettled⟩

structure Movable (pallets : Pallets) (s : Chain) : Prop where
  listed : ∀ listed ∈ s.frontier.accountCodes.iter,
    movable s.ledger (legacyAccount pallets listed.1) = true
  known : ∀ address ∈ knownAddresses,
    claimable pallets address s.ledger = true ->
      movable s.ledger (legacyAccount pallets address) = true

theorem knownAddresses_nodup : knownAddresses.Nodup := by
  decide +kernel

theorem mapAccounts_ledger (hrevive : revive.Lawful pallets) (s : Chain) :
    (mapAccounts revive s).ledger = s.ledger := by
  unfold mapAccounts
  refine sweep_preserves (fun t : Chain => t.ledger = s.ledger) ?_ rfl
  intro who _ u t hu ht
  rw [hrevive.mapNoDepositUnchecked_ok who u t ht]
  exact hu

theorem moveContract_contract (hlawful : pallets.Lawful)
    (hlocal : pallets.Local) (hrevive : revive.Lawful pallets)
    {address : H160} {listed : H160 × List UInt8} (hne : address ≠ listed.1)
    {s t : Chain} (h : moveContract pallets revive listed s = Except.ok t) :
    t.revive.contracts.get address = s.revive.contracts.get address := by
  rcases moveContract_calls h with ⟨installed, ledger, hinstalled, _, heq⟩
  subst heq
  rcases installContract_cases hinstalled with ⟨_, rfl⟩ | ⟨_, hinstall⟩
  · rfl
  · change installed.revive.contracts.get address = _
    rw [(install_ok hlawful hlocal hrevive hinstall).contracts,
      StorageMap.get_insert_of_ne _ _ hne]

theorem moveContract_containsKey (hlawful : pallets.Lawful)
    (hlocal : pallets.Local) (hrevive : revive.Lawful pallets)
    {address : H160} {code : List UInt8} {s t : Chain}
    (h : moveContract pallets revive (address, code) s = Except.ok t) :
    t.revive.contracts.containsKey address =
      (s.revive.contracts.containsKey address || !isDelegation code) := by
  rcases moveContract_calls h with ⟨installed, ledger, hinstalled, _, heq⟩
  subst heq
  change installed.revive.contracts.containsKey address = _
  rcases installContract_cases hinstalled with
    ⟨hdelegation, rfl⟩ | ⟨hcontract, hinstall⟩
  · change isDelegation code = true at hdelegation
    rw [hdelegation, Bool.not_true, Bool.or_false]
  · change isDelegation code = false at hcontract
    unfold StorageMap.containsKey
    rw [(install_ok hlawful hlocal hrevive hinstall).contracts,
      StorageMap.get_insert_self, hcontract, Bool.not_false, Bool.or_true]
    rfl

/-- Everything that is looked at when `address` has its turn is the same. -/
structure Undisturbed (pallets : Pallets) (address : H160) (s t : Chain) :
    Prop where
  standing : SameStanding pallets address s t
  contract : t.revive.contracts.get address = s.revive.contracts.get address

theorem Undisturbed.refl (address : H160) (s : Chain) :
    Undisturbed pallets address s s :=
  ⟨SameStanding.refl address s, rfl⟩

theorem Undisturbed.trans {address : H160} {s t u : Chain}
    (hst : Undisturbed pallets address s t)
    (htu : Undisturbed pallets address t u) :
    Undisturbed pallets address s u :=
  ⟨hst.standing.trans htu.standing, htu.contract.trans hst.contract⟩

theorem prepare_undisturbed (hlawful : pallets.Lawful)
    (hlocal : pallets.Local) (hdistinct : Distinct pallets revive) (s : Chain)
    (address : H160) :
    Undisturbed pallets address s (prepare pallets revive s) :=
  ⟨prepare_standing hlawful hlocal hdistinct s address,
    ((prepare_prepared hlawful hlocal hdistinct s).kept
      address).contract.contract⟩

theorem moveContract_undisturbed (hlawful : pallets.Lawful)
    (hlocal : pallets.Local) (hrevive : revive.Lawful pallets)
    (hdistinct : Distinct pallets revive) {address : H160}
    {listed : H160 × List UInt8} (hne : address ≠ listed.1) {s t : Chain}
    (h : moveContract pallets revive listed s = Except.ok t) :
    Undisturbed pallets address s t :=
  ⟨moveContract_standing hlawful hlocal hdistinct hrevive hne h,
    moveContract_contract hlawful hlocal hrevive hne h⟩

theorem moveAccount_minted (hlawful : pallets.Lawful) {address : H160}
    (hne : legacyAccount pallets address ≠ reviveAccount address)
    {s t : Chain} (h : moveAccount pallets address s = Except.ok t) :
    Minted pallets (opensAccount pallets address s.ledger).toNat s.ledger
      t.ledger := by
  unfold moveAccount at h
  split at h
  · rename_i hidle
    cases h
    have hclaimed : claimedAmount s.ledger
        (legacyAccount pallets address) = 0 := by
      unfold claimable at hidle
      unfold claimedAmount
      split
      · rename_i hmovable
        simp [hmovable] at hidle
        exact hidle.left
      · rfl
    unfold opensAccount
    rw [hclaimed, decide_eq_false (fun h => h rfl), Bool.and_false]
    exact Minted.refl _
  · rcases except_bind_eq_ok h with ⟨ledger, hmoved, h⟩
    cases h
    exact moveLegacy_minted hlawful hne hmoved

section Sweeps

variable (hlawful : pallets.Lawful) (hlocal : pallets.Local)
  (hdistinct : Distinct pallets revive)

include hlawful hlocal hdistinct

theorem runAll_moveContract_minted (hrevive : revive.Lawful pallets)
    {codes : StorageMap H160 (List UInt8)} {s t : Chain}
    (h : runAll (moveContract pallets revive) codes.iter s = Except.ok t) :
    Minted pallets
      (codes.iter.countP fun listed => opensListed pallets listed s.ledger)
      s.ledger t.ledger := by
  refine runAll_counts (fun deposits (u v : Chain) =>
      Minted pallets deposits u.ledger v.ledger)
    (fun _ => Minted.refl _) (fun _ _ _ _ _ => Minted.trans)
    (fun listed u => opensListed pallets listed u.ledger)
    ((StorageMap.nodup_iter_keys _).of_map _) ?_ ?_ h
  · intro listed _ u v hv
    exact moveContract_minted hlawful hrevive hlocal hdistinct hv
  · intro listed hlisted other hother hne u v hv
    have hapart := StorageMap.fst_ne_of_mem_iter hlisted hother hne
    exact (moveContract_standing hlawful hlocal hdistinct hrevive hapart
      hv).opensListed listed.2

theorem runAll_moveAccount_minted {s t : Chain}
    (h : runAll (moveAccount pallets) knownAddresses s = Except.ok t) :
    Minted pallets
      (knownAddresses.countP fun address =>
        opensAccount pallets address s.ledger)
      s.ledger t.ledger := by
  refine runAll_counts (fun deposits (u v : Chain) =>
      Minted pallets deposits u.ledger v.ledger)
    (fun _ => Minted.refl _) (fun _ _ _ _ _ => Minted.trans)
    (fun address u => opensAccount pallets address u.ledger)
    knownAddresses_nodup ?_ ?_ h
  · intro address _ u v hv
    exact moveAccount_minted hlawful
      (hdistinct.legacy_ne_revive address address) hv
  · intro address _ other _ hne u v hv
    exact (moveAccount_standing hlawful hlocal hdistinct hne.symm
      hv).opensAccount

end Sweeps

section Upgrade

variable {s moved deployed settled : Chain}
  (hstages : Stages pallets revive s moved deployed settled)

include hstages

theorem Stages.ledger_eq (hrevive : revive.Lawful pallets)
    (hschema : s.frontier.ethereumSchema = true) :
    (onRuntimeUpgrade pallets revive s).ledger = settled.ledger := by
  have hmoved : swept pallets revive s = moved :=
    sweep_of_runAll hstages.contracts
  rw [onRuntimeUpgrade_eq hschema, clearFrontier_ledger, hmoved]
  unfold finish
  rw [attempt_of_ok hstages.proxy, sweep_of_runAll hstages.accounts,
    mapAccounts_ledger hrevive]

variable (hlawful : pallets.Lawful) (hlocal : pallets.Local)
  (hrevive : revive.Lawful pallets) (hdistinct : Distinct pallets revive)

include hlawful hlocal hrevive hdistinct

theorem Stages.unlisted {address : H160}
    (hnone : s.frontier.accountCodes.get address = none) :
    Undisturbed pallets address s moved := by
  have hprepared := prepare_prepared hlawful hlocal hdistinct s
  refine (prepare_undisturbed hlawful hlocal hdistinct s address).trans ?_
  refine runAll_keeps (Undisturbed pallets address)
    (Undisturbed.refl address) (fun _ _ _ => Undisturbed.trans) ?_
    hstages.contracts
  rintro ⟨other, code⟩ hlisted u v hv
  refine moveContract_undisturbed hlawful hlocal hrevive hdistinct ?_ hv
  intro heq
  have hget := StorageMap.mem_iter.mp hlisted
  change address = other at heq
  rw [hprepared.frontier, ← heq, hnone] at hget
  cases hget

/-- What Frontier lists is as it was when its turn comes, and nothing else
touches it afterwards. -/
theorem Stages.listed {address : H160} {code : List UInt8}
    (hget : s.frontier.accountCodes.get address = some code) :
    exists u v, Undisturbed pallets address s u ∧
      moveContract pallets revive (address, code) u = Except.ok v ∧
      Undisturbed pallets address v moved := by
  have hprepared := prepare_prepared hlawful hlocal hdistinct s
  have hmem : (address, code) ∈
      (prepare pallets revive s).frontier.accountCodes.iter := by
    rw [hprepared.frontier]
    exact StorageMap.mem_iter.mpr hget
  rcases runAll_reaches (Undisturbed pallets address)
    (Undisturbed.refl address) (fun _ _ _ => Undisturbed.trans)
    ((StorageMap.nodup_iter_keys _).of_map _) hmem
    (fun other hother hne _ _ hv => moveContract_undisturbed hlawful hlocal
      hrevive hdistinct (StorageMap.fst_ne_of_mem_iter hmem hother hne) hv)
    hstages.contracts with ⟨u, v, hbefore, hmove, hafter⟩
  exact ⟨u, v, (prepare_undisturbed hlawful hlocal hdistinct s address).trans
    hbefore, hmove, hafter⟩

theorem Stages.emptied (hmovable : Movable pallets s) {address : H160}
    {code : List UInt8}
    (hget : s.frontier.accountCodes.get address = some code) :
    claimedAmount moved.ledger (legacyAccount pallets address) = 0 := by
  rcases hstages.listed hlawful hlocal hrevive hdistinct hget with
    ⟨u, v, hbefore, hmove, hafter⟩
  have hsame := hbefore.standing.accounts.legacy.movable
  rw [hmovable.listed _ (StorageMap.mem_iter.mpr hget)] at hsame
  rw [hafter.standing.accounts.legacy.claimedAmount]
  exact moveContract_emptied hlawful hlocal hdistinct hrevive hsame hmove

theorem Stages.opensAccount_moved (hmovable : Movable pallets s)
    (address : H160) :
    opensAccount pallets address moved.ledger =
      (opensAccount pallets address s.ledger &&
        !s.frontier.accountCodes.containsKey address) := by
  unfold StorageMap.containsKey
  cases hget : s.frontier.accountCodes.get address with
  | none =>
      rw [(hstages.unlisted hlawful hlocal hrevive hdistinct
        hget).standing.opensAccount]
      simp
  | some code =>
      have hempty := hstages.emptied hlawful hlocal hrevive hdistinct
        hmovable hget
      unfold opensAccount
      simp [hempty]

/-!
## The token's address
-/

theorem Stages.tokenTaken_eq :
    moved.revive.contracts.containsKey Erc20.address = tokenTaken s := by
  unfold tokenTaken contractAt
  cases hget : s.frontier.accountCodes.get Erc20.address with
  | none =>
      have hkept := (hstages.unlisted hlawful hlocal hrevive hdistinct
        hget).contract
      unfold StorageMap.containsKey
      rw [hkept, Option.any_none, Bool.or_false]
  | some code =>
      rcases hstages.listed hlawful hlocal hrevive hdistinct hget with
        ⟨u, v, hbefore, hmove, hafter⟩
      have hplaced := moveContract_containsKey hlawful hlocal hrevive hmove
      unfold StorageMap.containsKey at hplaced ⊢
      rw [hafter.contract, hplaced, hbefore.contract]
      rfl

theorem Stages.exists_token (hfree : contractAt Erc20.address s = false) :
    accountExists moved.ledger (reviveAccount Erc20.address) =
      (accountExists s.ledger (reviveAccount Erc20.address) ||
        delegationAt Erc20.address s &&
          brings pallets Erc20.address s.ledger) := by
  unfold delegationAt
  cases hget : s.frontier.accountCodes.get Erc20.address with
  | none =>
      rw [(hstages.unlisted hlawful hlocal hrevive hdistinct
        hget).standing.existence]
      simp
  | some code =>
      unfold contractAt at hfree
      rw [hget, Option.any_some, Bool.not_eq_false'] at hfree
      rcases hstages.listed hlawful hlocal hrevive hdistinct hget with
        ⟨u, v, hbefore, hmove, hafter⟩
      rcases moveContract_calls hmove with
        ⟨installed, ledger, hinstalled, hledger, heq⟩
      rcases installContract_cases hinstalled with
        ⟨_, rfl⟩ | ⟨hcontract, _⟩
      · have hexists := moveLegacy_exists hlawful
          (hdistinct.legacy_ne_revive _ _) hledger
        rw [hafter.standing.existence, heq]
        change accountExists ledger _ = _
        rw [hexists, hbefore.standing.existence, hbefore.standing.brings,
          Option.any_some, hfree, Bool.true_and]
      · change isDelegation code = false at hcontract
        rw [hfree] at hcontract
        cases hcontract

theorem Stages.deploys :
    (tokenTaken s = true ∧ deployed = moved) ∨
      (tokenTaken s = false ∧ install revive Erc20.address (proxyCode revive)
        [] moved = Except.ok deployed) := by
  have htaken := hstages.tokenTaken_eq hlawful hlocal hrevive hdistinct
  have hdeploys := hstages.proxy
  unfold deployTokenProxy at hdeploys
  split at hdeploys
  · rename_i hheld
    cases hdeploys
    exact Or.inl ⟨htaken.symm.trans hheld, rfl⟩
  · rename_i hvacant
    exact Or.inr ⟨htaken.symm.trans (Bool.eq_false_iff.mpr hvacant), hdeploys⟩

omit hstages hlawful hlocal hrevive hdistinct in
theorem contractAt_of_not_taken (h : tokenTaken s = false) :
    contractAt Erc20.address s = false :=
  (Bool.or_eq_false_iff.mp h).right

theorem Stages.proxy_minted :
    Minted pallets (opensProxy pallets s).toNat moved.ledger
      deployed.ledger := by
  unfold opensProxy
  rcases hstages.deploys hlawful hlocal hrevive hdistinct with
    ⟨htaken, rfl⟩ | ⟨hfree, hinstalls⟩
  · rw [htaken, Bool.not_true, Bool.false_and]
    exact Minted.refl _
  · rw [hfree, ← hstages.exists_token hlawful hlocal hrevive hdistinct
      (contractAt_of_not_taken hfree), Bool.not_false, Bool.true_and]
    exact (install_minted hlawful hrevive hinstalls).left

theorem Stages.opensAccount_known (hmovable : Movable pallets s)
    (address : H160) :
    opensAccount pallets address deployed.ledger =
      (opensAccount pallets address s.ledger &&
        !s.frontier.accountCodes.containsKey address &&
        !(decide (address = Erc20.address) && opensProxy pallets s)) := by
  have hmoved := hstages.opensAccount_moved hlawful hlocal hrevive hdistinct
    hmovable address
  unfold opensProxy
  rcases hstages.deploys hlawful hlocal hrevive hdistinct with
    ⟨htaken, rfl⟩ | ⟨hfree, hinstalls⟩
  · rw [hmoved, htaken]
    simp
  · by_cases hself : address = Erc20.address
    · subst hself
      have hexists := hstages.exists_token hlawful hlocal hrevive hdistinct
        (contractAt_of_not_taken hfree)
      have hfresh := (install_minted hlawful hrevive hinstalls).right
      have hlegacy := (install_ok hlawful hlocal hrevive
        hinstalls).ledger.sameHolding
          (hdistinct.legacy_ne_revive Erc20.address Erc20.address)
      have hopens : opensAccount pallets Erc20.address deployed.ledger =
          (accountExists moved.ledger (reviveAccount Erc20.address) &&
            opensAccount pallets Erc20.address moved.ledger) := by
        unfold opensAccount
        rw [hfresh, hlegacy.claimedAmount, Bool.and_assoc]
      rw [hopens, hmoved, ← hexists, hfree]
      simp [Bool.and_comm]
    · rw [(install_standing hlawful hlocal hdistinct hrevive hself
        hinstalls).opensAccount, hmoved, decide_eq_false hself]
      simp

theorem Stages.minted (hschema : s.frontier.ethereumSchema = true) :
    Minted pallets
      ((!accountExists s.ledger revive.accountId).toNat +
        (s.frontier.accountCodes.iter.countP fun listed =>
          opensListed pallets listed s.ledger) +
        (opensProxy pallets s).toNat +
        knownAddresses.countP fun address =>
          opensAccount pallets address deployed.ledger)
      s.ledger (onRuntimeUpgrade pallets revive s).ledger := by
  have hprepared := prepare_prepared hlawful hlocal hdistinct s
  have hfirst := prepare_minted hlawful hstages.opened
  have hsecond := runAll_moveContract_minted hlawful hlocal hdistinct hrevive
    hstages.contracts
  have hlisted : ((prepare pallets revive s).frontier.accountCodes.iter.countP
      fun listed => opensListed pallets listed
        (prepare pallets revive s).ledger) =
      s.frontier.accountCodes.iter.countP fun listed =>
        opensListed pallets listed s.ledger := by
    rw [hprepared.frontier]
    refine List.countP_congr ?_
    rintro ⟨address, code⟩ _
    rw [(prepare_standing hlawful hlocal hdistinct s address).opensListed]
  have hthird := hstages.proxy_minted hlawful hlocal hrevive hdistinct
  have hfourth := runAll_moveAccount_minted hlawful hlocal hdistinct
    hstages.accounts
  rw [hstages.ledger_eq hrevive hschema, ← hlisted]
  exact ((hfirst.trans hsecond).trans hthird).trans hfourth

end Upgrade

end Migration
end Numen
