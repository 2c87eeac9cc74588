import Numen.Migration.Issuance

/-!
# What the check predicts

The snapshot counts the deposits of an upgrade ahead of it.  It never counts too
few.  It counts too many where the account of a contract or of the token exists
without balance and gets none, where a contract has a known address, where a
contract has the token's, and where the token's old account holds funds: then
the proxy and the funds are each counted, and one deposit opens the account for
both.
-/

namespace Numen
namespace Migration

open Foundation
open Accounts

variable {pallets : Pallets} {revive : Revive} {inspector : Inspector}

/-- Whether the check expects that moving `address` opens an account. -/
def expectsOpening (pallets : Pallets) (inspector : Inspector)
    (address : H160) (s : Chain) : Bool :=
  decide ((due pallets inspector address s).1 ≠ 0) && fresh address s.ledger

theorem mem_delegations {address : H160} {s : Chain} :
    address ∈ (s.frontier.accountCodes.iter.filter fun listed =>
        isDelegation listed.2).map Prod.fst <->
      delegationAt address s = true := by
  unfold delegationAt
  rw [Option.any_eq_true]
  constructor
  · intro hmem
    rcases List.mem_map.mp hmem with ⟨⟨other, code⟩, hlisted, heq⟩
    rcases List.mem_filter.mp hlisted with ⟨hiter, hdelegation⟩
    subst heq
    exact ⟨code, StorageMap.mem_iter.mp hiter, hdelegation⟩
  · rintro ⟨code, hget, hdelegation⟩
    exact List.mem_map.mpr ⟨(address, code), List.mem_filter.mpr
      ⟨StorageMap.mem_iter.mpr hget, hdelegation⟩, rfl⟩

theorem take_minted (s : Chain) :
    (Snapshot.take pallets revive inspector s).minted =
      pallets.minimumBalance *
        ((s.frontier.accountCodes.iter.countP fun listed =>
            !isDelegation listed.2 && fresh listed.1 s.ledger) +
          ((knownAddresses.countP fun address =>
              claimable pallets address s.ledger &&
                !delegationAt address s &&
                expectsOpening pallets inspector address s) +
            s.frontier.accountCodes.iter.countP fun listed =>
              isDelegation listed.2 &&
                expectsOpening pallets inspector listed.1 s) +
          (fresh Erc20.address s.ledger).toNat +
          (!accountExists s.ledger revive.accountId).toNat) := by
  have hdelegated : forall address, decide (address ∈
      (s.frontier.accountCodes.iter.filter fun listed =>
        isDelegation listed.2).map Prod.fst) = delegationAt address s := by
    intro address
    rw [Bool.eq_iff_iff, decide_eq_true_iff]
    exact mem_delegations
  unfold Snapshot.take mints
  rw [List.partition_eq_filter_filter]
  dsimp only
  simp only [hdelegated]
  rw [List.countP_map, List.countP_filter, List.countP_map,
    List.countP_append, List.countP_filter, List.countP_map,
    List.countP_filter]
  simp [dueContract, expectsOpening, Function.comp_def, Bool.and_comm]

theorem expectsOpening_eq (hinspector : inspector.Lawful) {address : H160}
    {s : Chain}
    (hmovable : movable s.ledger (legacyAccount pallets address) = true) :
    expectsOpening pallets inspector address s =
      opensAccount pallets address s.ledger := by
  have hclaimed : claimedAmount s.ledger (legacyAccount pallets address) =
      s.ledger.free (legacyAccount pallets address) := if_pos hmovable
  unfold expectsOpening opensAccount
  rw [hclaimed, Bool.and_comm]
  by_cases hfresh : s.ledger.totalBalance (reviveAccount address) = 0
  · have hdue : (due pallets inspector address s).1 =
        s.ledger.free (legacyAccount pallets address) := by
      unfold due
      dsimp only
      rw [hinspector.evmBalance_zero address s hfresh, Nat.zero_add]
    rw [hdue]
  · unfold fresh
    rw [decide_eq_false hfresh, Bool.false_and, Bool.false_and]

theorem claimable_of_opensAccount {address : H160} {s : State}
    (h : opensAccount pallets address s = true) :
    claimable pallets address s = true := by
  have hclaimed := of_decide_eq_true (Bool.and_eq_true_iff.mp h).right
  unfold claimedAmount at hclaimed
  split at hclaimed
  · rename_i hmovable
    unfold claimable
    dsimp only
    rw [hmovable, decide_eq_true hclaimed]
    rfl
  · exact absurd rfl hclaimed

theorem expected_known (hinspector : inspector.Lawful) {s : Chain}
    (hmovable : Movable pallets s) {address : H160}
    (hknown : address ∈ knownAddresses) :
    (claimable pallets address s.ledger && !delegationAt address s &&
        expectsOpening pallets inspector address s) =
      (!delegationAt address s && opensAccount pallets address s.ledger) := by
  cases hclaimable : claimable pallets address s.ledger with
  | true =>
      rw [expectsOpening_eq hinspector
        (hmovable.known address hknown hclaimable), Bool.true_and]
  | false =>
      have hidle : opensAccount pallets address s.ledger = false := by
        rw [Bool.eq_false_iff]
        intro hopens
        rw [claimable_of_opensAccount hopens] at hclaimable
        cases hclaimable
      rw [hidle, Bool.false_and, Bool.false_and, Bool.and_false]

/-!
## Too many
-/

/-- A contract whose account exists without balance and gets none. -/
def idleContract (pallets : Pallets) (s : State)
    (listed : H160 × List UInt8) : Bool :=
  !isDelegation listed.2 && accountExists s (reviveAccount listed.1) &&
    fresh listed.1 s && !opensAccount pallets listed.1 s

/-- A known address whose account is opened before its own turn comes. -/
def countedTwice (pallets : Pallets) (s : Chain) (address : H160) : Bool :=
  opensAccount pallets address s.ledger &&
    (contractAt address s ||
      decide (address = Erc20.address) && opensProxy pallets s)

/-- How many deposits the check expects that nobody mints. -/
def overcounted (pallets : Pallets) (s : Chain) : Nat :=
  s.frontier.accountCodes.iter.countP (idleContract pallets s.ledger) +
    knownAddresses.countP (countedTwice pallets s) +
    (fresh Erc20.address s.ledger && !opensProxy pallets s).toNat

theorem countP_contracts (pallets : Pallets) (s : State)
    (codes : List (H160 × List UInt8)) :
    (codes.countP fun listed => !isDelegation listed.2 && fresh listed.1 s) =
      (codes.countP fun listed =>
          !isDelegation listed.2 && opensContract pallets listed.1 s) +
        codes.countP (idleContract pallets s) := by
  refine countP_eq_add ?_
  intro listed _
  unfold idleContract opensContract
  cases hexists : accountExists s (reviveAccount listed.1) with
  | false =>
      rw [fresh_of_not_exists hexists]
      simp
  | true =>
      unfold opensAccount
      cases fresh listed.1 s <;> cases isDelegation listed.2 <;>
        cases decide (claimedAmount s (legacyAccount pallets listed.1) ≠ 0) <;>
        rfl

theorem countP_opensListed (pallets : Pallets) (s : State)
    (codes : List (H160 × List UInt8)) :
    (codes.countP fun listed => opensListed pallets listed s) =
      (codes.countP fun listed =>
          !isDelegation listed.2 && opensContract pallets listed.1 s) +
        codes.countP fun listed =>
          isDelegation listed.2 && opensAccount pallets listed.1 s := by
  refine countP_eq_add ?_
  intro listed _
  unfold opensListed
  cases isDelegation listed.2 with
  | true => simp
  | false => simp

theorem listed_cases (address : H160) (s : Chain) :
    (s.frontier.accountCodes.containsKey address).toNat =
      (delegationAt address s).toNat + (contractAt address s).toNat := by
  unfold StorageMap.containsKey delegationAt contractAt
  cases s.frontier.accountCodes.get address with
  | none => rfl
  | some code =>
      change 1 = (isDelegation code).toNat + (!isDelegation code).toNat
      cases isDelegation code <;> rfl

theorem missing_of_opensProxy {s : Chain} (h : opensProxy pallets s = true) :
    accountExists s.ledger (reviveAccount Erc20.address) = false ∧
      (delegationAt Erc20.address s = true ->
        opensAccount pallets Erc20.address s.ledger = false) := by
  unfold opensProxy at h
  rcases Bool.and_eq_true_iff.mp h with ⟨_, hmissing⟩
  rcases Bool.or_eq_false_iff.mp (Bool.not_eq_true' _ ▸ hmissing) with
    ⟨hexists, hdelegation⟩
  refine ⟨hexists, ?_⟩
  intro hlisted
  rw [hlisted, Bool.true_and] at hdelegation
  unfold opensAccount
  rw [(Bool.or_eq_false_iff.mp hdelegation).left, Bool.and_false]

section Upgrade

variable {s moved deployed settled : Chain}
  (hstages : Stages pallets revive s moved deployed settled)
  (hlawful : pallets.Lawful) (hlocal : pallets.Local)
  (hrevive : revive.Lawful pallets) (hdistinct : Distinct pallets revive)
  (hinspector : inspector.Lawful) (hmovable : Movable pallets s)

include hstages hlawful hlocal hrevive hdistinct hinspector hmovable

theorem countP_known :
    (knownAddresses.countP fun address =>
        claimable pallets address s.ledger && !delegationAt address s &&
          expectsOpening pallets inspector address s) =
      (knownAddresses.countP fun address =>
          opensAccount pallets address deployed.ledger) +
        knownAddresses.countP (countedTwice pallets s) := by
  refine countP_eq_add ?_
  intro address hknown
  rw [expected_known hinspector hmovable hknown,
    hstages.opensAccount_known hlawful hlocal hrevive hdistinct hmovable]
  unfold countedTwice
  have hlisted := listed_cases address s
  have hidle : decide (address = Erc20.address) = true ->
      opensProxy pallets s = true -> delegationAt address s = true ->
        opensAccount pallets address s.ledger = false := by
    intro hself hproxy
    rw [of_decide_eq_true hself]
    exact (missing_of_opensProxy hproxy).right
  generalize decide (address = Erc20.address) = token at *
  generalize s.frontier.accountCodes.containsKey address = listed at *
  generalize delegationAt address s = delegation at *
  generalize contractAt address s = contract at *
  generalize opensAccount pallets address s.ledger = opens at *
  generalize opensProxy pallets s = proxy at *
  revert token listed delegation contract opens proxy
  decide

/-- The check expects every deposit that is minted, and those it counts too
many. -/
theorem take_minted_eq (hschema : s.frontier.ethereumSchema = true) :
    s.ledger.totalIssuance +
        (Snapshot.take pallets revive inspector s).minted =
      (onRuntimeUpgrade pallets revive s).ledger.totalIssuance +
        pallets.minimumBalance * overcounted pallets s := by
  have hminted := (hstages.minted hlawful hlocal hrevive hdistinct
    hschema).totalIssuance
  have hcontracts := countP_contracts pallets s.ledger
    s.frontier.accountCodes.iter
  have hlisted := countP_opensListed pallets s.ledger
    s.frontier.accountCodes.iter
  have hknown := countP_known hstages hlawful hlocal hrevive hdistinct
    hinspector hmovable
  have hdelegations : (s.frontier.accountCodes.iter.countP fun listed =>
        isDelegation listed.2 &&
          expectsOpening pallets inspector listed.1 s) =
      s.frontier.accountCodes.iter.countP fun listed =>
        isDelegation listed.2 && opensAccount pallets listed.1 s.ledger := by
    refine List.countP_congr ?_
    intro listed hmem
    rw [expectsOpening_eq hinspector (hmovable.listed listed hmem)]
  have hproxy : (fresh Erc20.address s.ledger).toNat =
      (opensProxy pallets s).toNat +
        (fresh Erc20.address s.ledger && !opensProxy pallets s).toNat := by
    cases hopens : opensProxy pallets s with
    | true =>
        rw [fresh_of_not_exists (missing_of_opensProxy hopens).left]
        rfl
    | false => simp
  rw [take_minted, hminted, hcontracts, hlisted, hknown, hdelegations, hproxy,
    Nat.add_assoc s.ledger.totalIssuance, ← Nat.mul_add]
  congr 2
  unfold overcounted
  lia

end Upgrade

/-- Where the check counts every deposit once.  The account of a contract that
has no balance is missing or gets funds, no contract stands at a known address
whose funds open an account, and the token's account has a balance, or is
missing, gets no funds and is left to the proxy to open: no contract stands at
its address, and no delegation there brings a nonce. -/
structure CountedOnce (pallets : Pallets) (s : Chain) : Prop where
  contracts : forall address code,
    s.frontier.accountCodes.get address = some code ->
    isDelegation code = false ->
    accountExists s.ledger (reviveAccount address) = true ->
    s.ledger.totalBalance (reviveAccount address) = 0 ->
      claimedAmount s.ledger (legacyAccount pallets address) ≠ 0
  known : ∀ address ∈ knownAddresses, contractAt address s = true ->
    s.ledger.totalBalance (reviveAccount address) = 0 ->
      claimedAmount s.ledger (legacyAccount pallets address) = 0
  token : s.ledger.totalBalance (reviveAccount Erc20.address) = 0 ->
    accountExists s.ledger (reviveAccount Erc20.address) = false ∧
      claimedAmount s.ledger (legacyAccount pallets Erc20.address) = 0 ∧
      s.revive.contracts.containsKey Erc20.address = false ∧
      contractAt Erc20.address s = false ∧
      (delegationAt Erc20.address s = true ->
        s.ledger.nonce (legacyAccount pallets Erc20.address) = 0)

theorem opensAccount_eq_false_iff {address : H160} {s : State} :
    opensAccount pallets address s = false <->
      (s.totalBalance (reviveAccount address) = 0 ->
        claimedAmount s (legacyAccount pallets address) = 0) := by
  unfold opensAccount fresh
  by_cases hfresh : s.totalBalance (reviveAccount address) = 0
  · simp [hfresh]
  · simp [hfresh]

theorem opensProxy_and_idle_iff {s : Chain} :
    opensProxy pallets s = true ∧
        claimedAmount s.ledger (legacyAccount pallets Erc20.address) = 0 <->
      accountExists s.ledger (reviveAccount Erc20.address) = false ∧
        claimedAmount s.ledger (legacyAccount pallets Erc20.address) = 0 ∧
        s.revive.contracts.containsKey Erc20.address = false ∧
        contractAt Erc20.address s = false ∧
        (delegationAt Erc20.address s = true ->
          s.ledger.nonce (legacyAccount pallets Erc20.address) = 0) := by
  unfold opensProxy tokenTaken brings
  by_cases hclaimed :
      claimedAmount s.ledger (legacyAccount pallets Erc20.address) = 0
  · cases delegationAt Erc20.address s <;> simp [hclaimed] <;> tauto
  · simp [hclaimed]

theorem overcounted_eq_zero_iff {s : Chain} :
    overcounted pallets s = 0 <-> CountedOnce pallets s := by
  unfold overcounted
  rw [Nat.add_eq_zero_iff, Nat.add_eq_zero_iff, List.countP_eq_zero,
    List.countP_eq_zero, Bool.toNat_eq_zero]
  constructor
  · rintro ⟨⟨hidle, htwice⟩, htoken⟩
    refine ⟨?_, ?_, ?_⟩
    · intro address code hget hcontract hexists hempty hclaimed
      refine hidle (address, code) (StorageMap.mem_iter.mpr hget) ?_
      have hopens : opensAccount pallets address s.ledger = false :=
        opensAccount_eq_false_iff.mpr (fun _ => hclaimed)
      unfold idleContract fresh
      rw [hcontract, hexists, hopens, decide_eq_true hempty]
      rfl
    · intro address hknown hcontract
      have hsingle := Bool.eq_false_iff.mpr (htwice address hknown)
      unfold countedTwice at hsingle
      rw [hcontract, Bool.true_or, Bool.and_true] at hsingle
      exact opensAccount_eq_false_iff.mp hsingle
    · intro hempty
      have hproxy : opensProxy pallets s = true := by
        unfold fresh at htoken
        rw [decide_eq_true hempty, Bool.true_and, Bool.not_eq_false'] at htoken
        exact htoken
      have hsingle := Bool.eq_false_iff.mpr
        (htwice Erc20.address tokenAddress_known)
      unfold countedTwice at hsingle
      rw [hproxy, decide_eq_true rfl, Bool.true_and, Bool.or_true,
        Bool.and_true] at hsingle
      exact opensProxy_and_idle_iff.mp
        ⟨hproxy, opensAccount_eq_false_iff.mp hsingle hempty⟩
  · intro h
    refine ⟨⟨?_, ?_⟩, ?_⟩
    · rintro ⟨address, code⟩ hlisted hidle
      unfold idleContract fresh at hidle
      simp only [Bool.and_eq_true, Bool.not_eq_true', decide_eq_true_eq]
        at hidle
      rcases hidle with ⟨⟨⟨hcontract, hexists⟩, hempty⟩, hopens⟩
      exact h.contracts address code (StorageMap.mem_iter.mp hlisted)
        hcontract hexists hempty (opensAccount_eq_false_iff.mp hopens hempty)
    · intro address hknown htwice
      unfold countedTwice at htwice
      rcases Bool.and_eq_true_iff.mp htwice with ⟨hopens, hearly⟩
      have hidle : opensAccount pallets address s.ledger = false := by
        refine opensAccount_eq_false_iff.mpr ?_
        rcases Bool.or_eq_true_iff.mp hearly with hcontract | hself
        · exact h.known address hknown hcontract
        · have heq := of_decide_eq_true (Bool.and_eq_true_iff.mp hself).left
          rw [heq]
          exact fun hempty => (h.token hempty).right.left
      rw [hidle] at hopens
      cases hopens
    · by_cases hempty :
          s.ledger.totalBalance (reviveAccount Erc20.address) = 0
      · rw [(opensProxy_and_idle_iff.mpr (h.token hempty)).left,
          Bool.not_true, Bool.and_false]
      · unfold fresh
        rw [decide_eq_false hempty, Bool.false_and]

/-- An upgrade in which nothing fails leaves the active issuance alone and mints
as many deposits as the check expects, less those it counts too many.  So the
issuance passes the check exactly where every deposit is counted once: only
there can the whole check pass, and there it never fails on the issuance. -/
theorem issuance_passes_iff_counted_once (hlawful : pallets.Lawful)
    (hlocal : pallets.Local) (hrevive : revive.Lawful pallets)
    (hdistinct : Distinct pallets revive) (hinspector : inspector.Lawful)
    {s : Chain} (hschema : s.frontier.ethereumSchema = true)
    (hsmooth : Smooth pallets revive s)
    (hmovable : Movable pallets s) :
    let t := onRuntimeUpgrade pallets revive s
    let snapshot := Snapshot.take pallets revive inspector s
    t.ledger.activeIssuance = s.ledger.activeIssuance ∧
      s.ledger.totalIssuance + snapshot.minted = t.ledger.totalIssuance +
        pallets.minimumBalance * overcounted pallets s ∧
      (t.ledger.totalIssuance = s.ledger.totalIssuance + snapshot.minted <->
        CountedOnce pallets s) ∧
      (snapshot.verifyIssuance t = Except.ok () <-> CountedOnce pallets s) ∧
      (snapshot.verify pallets revive inspector t = Except.ok () ->
        CountedOnce pallets s) ∧
      (CountedOnce pallets s -> ∀ message ∈ issuanceMessages,
        snapshot.verify pallets revive inspector t ≠
          Except.error message) := by
  intro t snapshot
  rcases hsmooth.stages with ⟨moved, deployed, settled, hstages⟩
  have hactive : t.ledger.activeIssuance = s.ledger.activeIssuance :=
    (hstages.minted hlawful hlocal hrevive hdistinct hschema).activeIssuance
  have hminted : s.ledger.totalIssuance + snapshot.minted =
      t.ledger.totalIssuance +
        pallets.minimumBalance * overcounted pallets s :=
    take_minted_eq hstages hlawful hlocal hrevive hdistinct hinspector
      hmovable hschema
  have hexact : t.ledger.totalIssuance =
      s.ledger.totalIssuance + snapshot.minted <-> CountedOnce pallets s := by
    have hpositive := hlawful.minimumBalance_pos
    rw [hminted, ← overcounted_eq_zero_iff, Nat.left_eq_add,
      Nat.mul_eq_zero]
    constructor
    · rintro (hzero | hzero)
      · lia
      · exact hzero
    · exact Or.inr
  have hpasses : snapshot.verifyIssuance t = Except.ok () <->
      CountedOnce pallets s := by
    rw [Snapshot.verifyIssuance_eq_ok, ← hexact]
    exact ⟨And.left, fun htotal => ⟨htotal, hactive⟩⟩
  refine ⟨hactive, hminted, hexact, hpasses, ?_, ?_⟩
  · intro hverified
    exact hpasses.mp (Snapshot.verifyIssuance_of_verify hverified)
  · intro honce
    exact Snapshot.verify_ne_issuance (hpasses.mpr honce)

/-!
## Two chains
-/

def referenceInspector (deposit : Nat) : Inspector where
  evmBalance := fun address s => s.ledger.free (reviveAccount address) - deposit
  code := fun address s => ((s.revive.contracts.get address).bind fun info =>
    s.revive.pristineCode.get info.codeHash).getD []
  getStorage := fun address key s =>
    (s.revive.contracts.get address).bind fun info =>
      (s.revive.tries info.trieId).get key
  totalDeposit := fun _ => 0
  toAccountId := fun address s =>
    (s.revive.originalAccount.get address).getD (reviveAccount address)
  containsPrefixedKey := fun pallet s =>
    match pallet with
    | FrontierPallet.ethereum => !s.frontier.blockHash.iter.isEmpty
    | FrontierPallet.baseFee => false
    | FrontierPallet.evm => !s.frontier.accountCodes.iter.isEmpty ||
        !s.frontier.accountCodesMetadata.iter.isEmpty
  evmChainId := fun _ => 32026

theorem referenceInspector_lawful (deposit : Nat) :
    (referenceInspector deposit).Lawful where
  evmBalance_zero := by
    intro address s h
    change s.ledger.free (reviveAccount address) - deposit = 0
    unfold State.totalBalance at h
    unfold State.free
    lia

def knownHolder : H160 :=
  h160 1

/-- The contract of `firstChain` that can be moved, funds of a known address,
and a contract at the token's address whose new account holds 100. -/
def smoothChain : Chain :=
  { firstChain with
    ledger := { firstState with
      account := Function.update
        (Function.update firstState.account
          (legacyAccount (reference 10 5) knownHolder)
          { providers := 1, data := { free := 50 } })
        (reviveAccount Erc20.address)
        { providers := 1, data := { free := 100 } }
      totalIssuance := 250 }
    frontier := { firstChain.frontier with
      accountCodes := (StorageMap.empty.insert firstAddress readerCode).insert
        Erc20.address readerCode } }

theorem smoothChain_smooth :
    Smooth (reference 10 5) firstRevive smoothChain := by
  constructor <;> decide +kernel

theorem smoothChain_movable : Movable (reference 10 5) smoothChain := by
  constructor <;> decide +kernel

theorem smoothChain_countedOnce :
    CountedOnce (reference 10 5) smoothChain := by
  have hlisted : ∀ listed ∈ smoothChain.frontier.accountCodes.iter,
      accountExists smoothChain.ledger (reviveAccount listed.1) = true ->
        smoothChain.ledger.totalBalance (reviveAccount listed.1) ≠ 0 := by
    decide +kernel
  refine ⟨?_, by decide +kernel, by decide +kernel⟩
  intro address code hget _ hexists hempty
  exact absurd hempty (hlisted _ (StorageMap.mem_iter.mpr hget) hexists)

theorem smooth_upgrade_passes :
    contractAt Erc20.address smoothChain = true ∧
      (Snapshot.take (reference 10 5) firstRevive (referenceInspector 10)
        smoothChain).verifyIssuance
          (onRuntimeUpgrade (reference 10 5) firstRevive smoothChain) =
        Except.ok () :=
  ⟨by decide +kernel,
    (issuance_passes_iff_counted_once (reference_lawful (by decide) 5)
      (reference_local 10 5) firstRevive_lawful firstRevive_distinct
      (referenceInspector_lawful 10) rfl smoothChain_smooth
      smoothChain_movable).right.right.right.left.mpr smoothChain_countedOnce⟩

/-- `firstRevive` on a chain with three accounts that may exist. -/
def tokenRevive : Revive :=
  { firstRevive with
    accountKeys := fun s =>
      [legacyAccount (reference 10 5) Erc20.address,
        reviveAccount Erc20.address, firstRevive.accountId].filter
          (accountExists s) }

theorem tokenRevive_lawful : tokenRevive.Lawful (reference 10 5) :=
  ⟨firstRevive_lawful.fromEvmRuntimeCodeWithDeposit_ok,
    firstRevive_lawful.storeCode_ok, firstRevive_lawful.contractInfo_ok,
    firstRevive_lawful.write_ok, firstRevive_lawful.initContract_ok,
    firstRevive_lawful.incConsumers_ok,
    firstRevive_lawful.mapNoDepositUnchecked_ok⟩

/-- The old account of the token's address holds 100, and Frontier has
nothing else. -/
def tokenChain : Chain :=
  { firstChain with
    ledger := { firstState with
      account := Function.update (fun _ => {})
        (legacyAccount (reference 10 5) Erc20.address)
        { providers := 1, data := { free := 100 } }
      locks := fun _ => []
      vesting := fun _ => none }
    frontier := {
      ethereumSchema := true
      accountCodes := StorageMap.empty
      accountCodesMetadata := StorageMap.empty
      accountStorages := fun _ => StorageMap.empty
      blockHash := StorageMap.empty } }

/-- One deposit opens the token's account, and the check expects two: one for
the proxy and one for the funds.  Everything it looks at before the issuance
passes. -/
theorem funded_token_is_rejected :
    let t := onRuntimeUpgrade (reference 10 5) tokenRevive tokenChain
    let snapshot := Snapshot.take (reference 10 5) tokenRevive
      (referenceInspector 10) tokenChain
    tokenRevive.Lawful (reference 10 5) ∧
      tokenChain.frontier.ethereumSchema = true ∧
      Smooth (reference 10 5) tokenRevive tokenChain ∧
      Movable (reference 10 5) tokenChain ∧
      snapshot.minted = 30 ∧
      t.ledger.totalIssuance = tokenChain.ledger.totalIssuance + 20 ∧
      snapshot.verify (reference 10 5) tokenRevive (referenceInspector 10) t =
        Except.error
          "issuance moved beyond the minted existential deposits" := by
  intro t snapshot
  refine ⟨tokenRevive_lawful, rfl, ?_, ?_, ?_, ?_, ?_⟩
  · constructor <;> decide +kernel
  · constructor <;> decide +kernel
  · decide +kernel
  · decide +kernel
  · decide +kernel

end Migration
end Numen
