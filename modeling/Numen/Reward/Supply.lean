import Numen.Accounts.Conservation
import Numen.Erc20.Ledger
import Numen.Foundation.Runs
import Numen.Reward.Emission

/-!
# The supply

Three parts of the runtime issue tokens: the reward of a block, and the
existential deposit that the token and the claims pallet mint for an account
they have to open.  So whatever the blocks hold, the issuance is bounded by the
genesis balances, the halving schedule and the deposits.  The deposits are taken
out of circulation as they are issued.  What comes into circulation beyond the
rewards has been reactivated by somebody else, such as a treasury that pays
out.
-/

namespace Numen
namespace Reward

open Foundation
open Accounts (AccountId H160 State Pallets legacyAccount reviveAccount)
open Numen.Pow (DigestItem)

/-!
## The genesis of the live networks
-/

def unit : Nat :=
  1000000000000000000

def genesisTreasuryIssuance : Nat :=
  550000000 * unit

def genesisAirdropIssuance : Nat :=
  50000000 * unit

/-- `live_balances`. -/
def liveBalances (treasury airdrop : AccountId) : List (AccountId × Nat) :=
  [(treasury, genesisTreasuryIssuance), (airdrop, genesisAirdropIssuance)]

def endowed (balances : List (AccountId × Nat)) : Nat :=
  (balances.map Prod.snd).sum

theorem endowed_liveBalances (treasury airdrop : AccountId) :
    endowed (liveBalances treasury airdrop) = 600000000 * unit := by
  unfold endowed liveBalances genesisTreasuryIssuance genesisAirdropIssuance
  rw [List.map_cons, List.map_cons, List.map_nil, List.sum_cons, List.sum_cons,
    List.sum_nil]
  lia

/-!
## One ledger under three pallets
-/

/-- The token and the claims pallet on one ledger, and the reward pallet that
pays into it. -/
structure Economy where
  host : Erc20.Host
  reward : Config AccountId State

/-- What the pallets of other crates are relied on for.  Neither a reward nor
the fee of a claim touches the inactive issuance, and handing a fee on issues
nothing. -/
structure Economy.Lawful (economy : Economy) : Prop where
  host : economy.host.Lawful
  pallets : economy.host.pallets.Lawful
  currency : economy.reward.currency.Lawful
  interval : 1 ≤ economy.reward.halvingInterval
  issuance : forall s,
    economy.reward.currency.totalIssuance s = s.totalIssuance
  deposit_inactive : forall who value s,
    (economy.reward.currency.depositCreating who value s).inactiveIssuance =
      s.inactiveIssuance
  fee_total : forall amount s,
    (economy.host.pallets.onClaimFee amount s).totalIssuance ≤ s.totalIssuance
  fee_inactive : forall amount s,
    (economy.host.pallets.onClaimFee amount s).inactiveIssuance =
      s.inactiveIssuance

/-- The number of finished blocks and the state they led to. -/
structure Books where
  height : Nat
  world : Erc20.World

/-- What happens to the ledger.  `ordinary` is everything else, as long as it
issues nothing. -/
inductive Entry where
  | token (tx : Erc20.Transaction)
  | claim (origin : Accounts.Origin) (address : H160)
  | ordinary (ledger : State)
  | finalize (logs : List DigestItem)

namespace Books

variable (economy : Economy)

def enter (s : Books) : Entry -> Books
  | Entry.token tx => { s with world := Erc20.step economy.host s.world tx }
  | Entry.claim origin address =>
      match Accounts.claim economy.host.pallets origin address s.world.ledger
      with
      | Except.ok (_, ledger) =>
          { s with world := { s.world with ledger := ledger } }
      | Except.error _ => s
  | Entry.ordinary ledger =>
      { s with world := { s.world with ledger := ledger } }
  | Entry.finalize logs =>
      match onFinalize economy.reward (s.height + 1) logs s.world.ledger with
      | Except.ok ledger => ⟨s.height + 1, { s.world with ledger := ledger }⟩
      | Except.error _ => s

/-- The proxy of the token exists, no claim is for an account that is its own
successor, and ordinary business issues nothing.  It may move what is issued in
and out of circulation. -/
def Allowed (s : Books) : Entry -> Prop
  | Entry.token _ =>
      economy.host.accountExists (Erc20.proxyAccount economy.host)
        s.world.ledger = true
  | Entry.claim _ address =>
      legacyAccount economy.host.pallets address ≠ reviveAccount address
  | Entry.ordinary ledger =>
      ledger.totalIssuance ≤ s.world.ledger.totalIssuance
  | Entry.finalize _ => True

end Books

def Entry.deposits : Entry -> Nat
  | Entry.token _ => 1
  | Entry.claim _ _ => 1
  | _ => 0

def Entry.reactivates (s : State) : Entry -> Nat
  | Entry.ordinary ledger => ledger.activeIssuance - s.activeIssuance
  | _ => 0

/-- What the ordinary business of a run puts into circulation. -/
def Books.reactivated (economy : Economy) : Books -> List Entry -> Nat
  | _, [] => 0
  | s, entry :: rest =>
      entry.reactivates s.world.ledger +
        Books.reactivated economy (s.enter economy entry) rest

/-!
## What each of them issues
-/

/-- At most `deposit` is issued, and nothing of it circulates. -/
structure OnlyDeposits (deposit : Nat) (s t : State) : Prop where
  total : t.totalIssuance ≤ s.totalIssuance + deposit
  active : t.activeIssuance ≤ s.activeIssuance

theorem OnlyDeposits.of_same {deposit : Nat} {s t : State}
    (htotal : t.totalIssuance = s.totalIssuance)
    (hinactive : t.inactiveIssuance = s.inactiveIssuance) :
    OnlyDeposits deposit s t where
  total := by lia
  active := by
    unfold State.activeIssuance
    rw [htotal, hinactive]

section Issuing

variable {host : Erc20.Host}

theorem moveFunds_onlyDeposits (hlawful : host.Lawful)
    {source target : AccountId} {value : Erc20.U256} {s t : State}
    (h : Erc20.moveFunds host source target value s = Except.ok t) :
    OnlyDeposits host.pallets.minimumBalance s t := by
  cases Erc20.moveFunds_cases h with
  | nothing _ => exact OnlyDeposits.of_same rfl rfl
  | known _ _ htransfer =>
      rcases Erc20.transfer_issuance hlawful htransfer with ⟨htotal, hinactive⟩
      exact OnlyDeposits.of_same htotal hinactive
  | @opened minted _ _ _ hmint htransfer =>
      have hminted := hlawful.mintInto_ok _ _ _ _ hmint
      rcases Erc20.transfer_issuance hlawful htransfer with ⟨htotal, hinactive⟩
      rw [hlawful.deactivate_eq] at htotal hinactive
      unfold State.setInactive at htotal hinactive
      dsimp only at htotal hinactive
      rw [hminted.totalIssuance] at htotal hinactive
      rw [hminted.inactiveIssuance] at hinactive
      refine ⟨Nat.le_of_eq htotal, ?_⟩
      unfold State.activeIssuance
      rw [htotal, hinactive]
      lia

theorem transact_onlyDeposits (hlawful : host.Lawful) {tx : Erc20.Transaction}
    {w after : Erc20.World} {output : Erc20.Output}
    (hdeployed : host.accountExists (Erc20.proxyAccount host) w.ledger = true)
    (h : Erc20.transact host tx w = Except.ok (output, after)) :
    OnlyDeposits host.pallets.minimumBalance w.ledger after.ledger := by
  by_cases hdeposit : tx.input = Erc20.Call.deposit
  · rcases Erc20.deposit_issuance hlawful hdeployed hdeposit h with
      ⟨htotal, hinactive⟩
    exact OnlyDeposits.of_same htotal hinactive
  · rcases Erc20.transact_cases h with ⟨ledger, hvalue, hpayable, hcase⟩
    have hledger :=
      Erc20.ledger_of_not_deposit hlawful hvalue hpayable hdeposit
    subst hledger
    generalize hinput : tx.input = input at hcase hdeposit
    cases hcase with
    | view _ => exact OnlyDeposits.of_same rfl rfl
    | approve _ => exact OnlyDeposits.of_same rfl rfl
    | permit _ _ => exact OnlyDeposits.of_same rfl rfl
    | deposit _ _ _ => exact absurd rfl hdeposit
    | transfer _ hmove => exact moveFunds_onlyDeposits hlawful hmove
    | withdraw _ hmove => exact moveFunds_onlyDeposits hlawful hmove
    | transferOwn _ hmove => exact moveFunds_onlyDeposits hlawful hmove
    | transferFrom _ _ _ hmove => exact moveFunds_onlyDeposits hlawful hmove

end Issuing

section Entries

variable {economy : Economy}

theorem claim_onlyDeposits (hlawful : economy.Lawful) {address : H160}
    (hne : legacyAccount economy.host.pallets address ≠ reviveAccount address)
    {origin : Accounts.Origin} {s after : State} {billed : Nat}
    (h : Accounts.claim economy.host.pallets origin address s =
      Except.ok (billed, after)) :
    OnlyDeposits economy.host.pallets.minimumBalance s after := by
  rcases except_bind_eq_ok h with ⟨_, _, h⟩
  rcases except_bind_eq_ok h with ⟨⟨credit, t⟩, hsettled, h⟩
  cases h
  rcases except_bind_eq_ok hsettled with ⟨moved, hmoved, hpaid⟩
  have hmove := Accounts.moveLegacy_ok hlawful.pallets hne hmoved
  rcases Accounts.payFee_ok hlawful.pallets hpaid with
    ⟨_, _, _, _, htotal, hactive⟩
  have hdeposit : Accounts.movingDeposit economy.host.pallets s
      (reviveAccount address) (Accounts.claimedAmount s
        (legacyAccount economy.host.pallets address)) ≤
      economy.host.pallets.minimumBalance := by
    unfold Accounts.movingDeposit
    split
    · exact Nat.le_refl _
    · exact Nat.zero_le _
  have hbefore : OnlyDeposits economy.host.pallets.minimumBalance s t := by
    refine ⟨?_, Nat.le_of_eq (hactive.trans hmove.activeIssuance)⟩
    rw [htotal, hmove.totalIssuance]
    exact Nat.add_le_add_left hdeposit _
  unfold Accounts.handOn
  cases credit with
  | none => exact hbefore
  | some paid =>
      have hfee := hlawful.fee_total paid t
      refine ⟨Nat.le_trans hfee hbefore.total, ?_⟩
      refine Nat.le_trans ?_ hbefore.active
      unfold State.activeIssuance
      rw [hlawful.fee_inactive]
      exact Nat.sub_le_sub_right hfee _

theorem onFinalize_issuance (hlawful : economy.Lawful) (n : Nat)
    (logs : List DigestItem) (s : State) :
    exists t, onFinalize economy.reward n logs s = Except.ok t ∧
      t.totalIssuance ≤ s.totalIssuance + scheduledReward economy.reward n ∧
      t.activeIssuance ≤
        s.activeIssuance + scheduledReward economy.reward n := by
  rcases onFinalize_issues hlawful.currency hlawful.interval n logs s with
    ⟨t, hok, _, hissued⟩
  rw [hlawful.issuance, hlawful.issuance] at hissued
  have hinactive : t.inactiveIssuance = s.inactiveIssuance := by
    unfold onFinalize at hok
    split at hok
    · cases hok
      rfl
    · rcases except_bind_eq_ok hok with ⟨reward, _, hok⟩
      cases hok
      split
      · rfl
      · exact hlawful.deposit_inactive _ _ _
  refine ⟨t, hok, hissued, ?_⟩
  unfold State.activeIssuance
  rw [hinactive]
  lia

/-!
## Any order of business
-/

/-- Between two states of the books `blocks` blocks were finished and at most
`deposits` accounts opened.  The rewards of the blocks are all that came into
circulation, next to what was reactivated. -/
structure Issued (economy : Economy) (deposits reactivated : Nat)
    (s t : Books) (blocks : Nat) : Prop where
  height : t.height = s.height + blocks
  active : t.world.ledger.activeIssuance ≤ s.world.ledger.activeIssuance +
    scheduledEmission economy.reward s.height blocks + reactivated
  total : t.world.ledger.totalIssuance ≤ s.world.ledger.totalIssuance +
    scheduledEmission economy.reward s.height blocks +
      economy.host.pallets.minimumBalance * deposits

theorem scheduledEmission_add (cfg : Config AccountId State)
    (n first second : Nat) :
    scheduledEmission cfg n (first + second) =
      scheduledEmission cfg n first +
        scheduledEmission cfg (n + first) second := by
  unfold scheduledEmission
  rw [Finset.sum_range_add]
  congr 1
  apply Finset.sum_congr rfl
  intro i _
  congr 1
  lia

theorem Issued.trans {m n a b first second : Nat} {s t u : Books}
    (h : Issued economy m a s t first) (h' : Issued economy n b t u second) :
    Issued economy (m + n) (a + b) s u (first + second) := by
  have hactive := h'.active
  have htotal := h'.total
  rw [h.height] at hactive htotal
  refine ⟨?_, ?_, ?_⟩
  · rw [h'.height, h.height, Nat.add_assoc]
  · have := h.active
    rw [scheduledEmission_add]
    lia
  · have := h.total
    rw [scheduledEmission_add, Nat.mul_add]
    lia

theorem OnlyDeposits.issued {s t : Books} (hheight : t.height = s.height)
    (h : OnlyDeposits economy.host.pallets.minimumBalance s.world.ledger
      t.world.ledger) : Issued economy 1 0 s t 0 where
  height := hheight
  active := h.active
  total := by
    rw [Nat.mul_one]
    exact h.total

/-- A token call or a claim issues one deposit at most, a finished block one
reward, and ordinary business nothing. -/
theorem enter_issued (hlawful : economy.Lawful) {s : Books} {entry : Entry}
    (hallowed : Books.Allowed economy s entry) :
    exists blocks, Issued economy entry.deposits
      (entry.reactivates s.world.ledger) s (s.enter economy entry) blocks := by
  cases entry with
  | token tx =>
      refine ⟨0, OnlyDeposits.issued rfl ?_⟩
      unfold Books.enter Erc20.step
      dsimp only
      cases hresult : Erc20.transact economy.host tx s.world with
      | error _ => exact OnlyDeposits.of_same rfl rfl
      | ok result => exact transact_onlyDeposits hlawful.host hallowed hresult
  | claim origin address =>
      refine ⟨0, ?_⟩
      unfold Books.enter
      dsimp only
      cases hresult : Accounts.claim economy.host.pallets origin address
          s.world.ledger with
      | error _ =>
          exact OnlyDeposits.issued rfl (OnlyDeposits.of_same rfl rfl)
      | ok result =>
          exact OnlyDeposits.issued rfl
            (claim_onlyDeposits hlawful hallowed hresult)
  | ordinary ledger =>
      refine ⟨0, rfl, ?_, hallowed⟩
      change ledger.activeIssuance ≤ s.world.ledger.activeIssuance + 0 +
        (ledger.activeIssuance - s.world.ledger.activeIssuance)
      lia
  | finalize logs =>
      rcases onFinalize_issuance hlawful (s.height + 1) logs s.world.ledger with
        ⟨t, hok, htotal, hactive⟩
      have hreward : scheduledEmission economy.reward s.height 1 =
          scheduledReward economy.reward (s.height + 1) := by
        rw [scheduledEmission_succ]
        rfl
      refine ⟨1, ?_⟩
      unfold Books.enter
      dsimp only
      rw [hok]
      refine ⟨rfl, ?_, ?_⟩
      · rw [hreward]
        exact hactive
      · rw [hreward]
        exact htotal

theorem run_issued (hlawful : economy.Lawful) {s t : Books}
    {entries : List Entry}
    (hrun : Run (Books.Allowed economy) (Books.enter economy) s entries t) :
    exists blocks, Issued economy (entries.map Entry.deposits).sum
      (s.reactivated economy entries) s t blocks := by
  induction hrun with
  | nil s =>
      exact ⟨0, rfl, Nat.le_refl _, Nat.le_refl _⟩
  | cons hallowed _ ih =>
      rcases enter_issued hlawful hallowed with ⟨first, hfirst⟩
      rcases ih with ⟨rest, hrest⟩
      refine ⟨first + rest, ?_⟩
      rw [List.map_cons, List.sum_cons]
      exact hfirst.trans hrest

end Entries

/-- However token calls, claims, block rewards and business that issues nothing
follow one another on a live network, the issuance is bounded by the genesis
balances, the rewards of the finished blocks and one existential deposit for
each token call and claim.  Without the deposits that is less than a billion.
What circulates beyond genesis and rewards has been reactivated by the other
business. -/
theorem supply_stays_below_a_billion {economy : Economy}
    (hlawful : economy.Lawful)
    (hreward : economy.reward.initialReward = 16 * unit)
    (hinterval : economy.reward.halvingInterval = 12500000)
    {treasury airdrop : AccountId} {s t : Books} (hheight : s.height = 0)
    (hgenesis : s.world.ledger.totalIssuance =
      endowed (liveBalances treasury airdrop))
    {entries : List Entry}
    (hrun : Run (Books.Allowed economy) (Books.enter economy) s entries t) :
    let minted := economy.host.pallets.minimumBalance *
      (entries.map Entry.deposits).sum
    let scheduled := endowed (liveBalances treasury airdrop) +
      scheduledEmission economy.reward 0 t.height
    scheduled < 1000000000 * unit ∧
      t.world.ledger.totalIssuance ≤ scheduled + minted ∧
      t.world.ledger.activeIssuance ≤ s.world.ledger.activeIssuance +
        scheduledEmission economy.reward 0 t.height +
          s.reactivated economy entries := by
  intro minted scheduled
  rcases run_issued hlawful hrun with ⟨blocks, hissued⟩
  have hactive := hissued.active
  have htotal := hissued.total
  have hcount := hissued.height
  rw [hheight, Nat.zero_add] at hcount
  rw [hheight, ← hcount] at hactive htotal
  rw [hgenesis] at htotal
  refine ⟨?_, htotal, hactive⟩
  have hcap := scheduledEmission_lt hlawful.interval
    (by rw [hreward]; decide : 1 ≤ economy.reward.initialReward) t.height
  have hendowed := endowed_liveBalances treasury airdrop
  rw [hreward, hinterval] at hcap
  unfold scheduled
  rw [hendowed]
  unfold unit at *
  lia

def plainCurrency : Currency AccountId State where
  minimumBalance := 1
  maxBalance := u128Max
  totalIssuance := State.totalIssuance
  depositCreating := fun who value s =>
    if s.totalIssuance + value ≤ u128Max then
      { s.setAccount who { s.account who with
          data := { (s.account who).data with free := s.free who + value } } with
        totalIssuance := s.totalIssuance + value }
    else
      s

theorem plainCurrency_issued (who : AccountId) (value : Nat) (s : State) :
    (plainCurrency.depositCreating who value s).totalIssuance =
        (if s.totalIssuance + value ≤ u128Max then s.totalIssuance + value
          else s.totalIssuance) ∧
      (plainCurrency.depositCreating who value s).inactiveIssuance =
        s.inactiveIssuance := by
  unfold plainCurrency
  dsimp only
  split
  · exact ⟨rfl, rfl⟩
  · exact ⟨rfl, rfl⟩

theorem plainCurrency_lawful : plainCurrency.Lawful := by
  refine ⟨?_, ?_, ?_⟩
  · intro who s value
    show s.totalIssuance ≤ State.totalIssuance _
    rw [(plainCurrency_issued who value s).left]
    split
    · exact Nat.le_add_right _ _
    · exact Nat.le_refl _
  · intro who s value
    show State.totalIssuance _ ≤ s.totalIssuance + value
    rw [(plainCurrency_issued who value s).left]
    split
    · exact Nat.le_refl _
    · exact Nat.le_add_right _ _
  · intro who s value _ hroom
    show State.totalIssuance _ = s.totalIssuance + value
    rw [(plainCurrency_issued who value s).left]
    exact if_pos hroom

/-- The runtime's schedule, paying Alice. -/
def liveEconomy : Economy where
  host := Erc20.referenceHost 1
  reward := {
    currency := plainCurrency
    findAuthor := fun _ => some (Erc20.accountAt Erc20.aliceAddress)
    initialReward := 16 * unit
    halvingInterval := 12500000 }

theorem liveEconomy_lawful : liveEconomy.Lawful where
  host := Erc20.referenceHost_lawful (by decide)
  pallets := Accounts.reference_lawful (by decide) 0
  currency := plainCurrency_lawful
  interval := by decide
  issuance := fun _ => rfl
  deposit_inactive := fun who value s => (plainCurrency_issued who value s).right
  fee_total := fun _ _ => Nat.sub_le _ _
  fee_inactive := fun _ _ => rfl

/-- Genesis of a live network, with the treasury out of circulation. -/
def liveGenesis : Books :=
  { height := 0
    world := { Erc20.tokenWorld {} with
      ledger := { (Erc20.tokenWorld {}).ledger with
        totalIssuance := endowed (liveBalances
          (Erc20.accountAt Erc20.aliceAddress)
          (Erc20.accountAt Erc20.bobAddress))
        inactiveIssuance := genesisTreasuryIssuance } } }

def openForBob : Entry :=
  Entry.token (Erc20.callBy Erc20.aliceAddress
    (Erc20.Call.transfer Erc20.bobAddress 10))

def treasuryPayout : Entry :=
  let ledger := (liveGenesis.enter liveEconomy openForBob).world.ledger
  Entry.ordinary (ledger.setInactive (ledger.inactiveIssuance - 5 * unit))

def liveEntries : List Entry :=
  [openForBob, treasuryPayout, Entry.finalize []]

/-- The first block of a live network: Alice opens an account for Bob, the
treasury pays out and the block is rewarded. -/
theorem first_block_keeps_the_supply :
    let t := liveEntries.foldl (Books.enter liveEconomy) liveGenesis
    t.height = 1 ∧
      t.world.ledger.totalIssuance ≤ 600000000 * unit + 16 * unit + 1 ∧
      t.world.ledger.activeIssuance ≤
        liveGenesis.world.ledger.activeIssuance + 16 * unit + 5 * unit := by
  intro t
  have hrun : Run (Books.Allowed liveEconomy) (Books.enter liveEconomy)
      liveGenesis liveEntries t := by
    refine Run.cons ?_ (Run.cons ?_ (Run.single True.intro))
    · show liveEconomy.host.accountExists (Erc20.proxyAccount liveEconomy.host)
        liveGenesis.world.ledger = true
      decide +kernel
    · exact Nat.le_refl _
  have hheight : t.height = 1 := by decide +kernel
  have hgenesis : liveGenesis.world.ledger.totalIssuance =
      endowed (liveBalances (Erc20.accountAt Erc20.aliceAddress)
        (Erc20.accountAt Erc20.bobAddress)) := rfl
  rcases supply_stays_below_a_billion liveEconomy_lawful rfl rfl rfl hgenesis
    hrun with ⟨_, htotal, hactive⟩
  have hemission : scheduledEmission liveEconomy.reward 0 1 = 16 * unit := by
    rw [scheduledEmission_succ]
    decide +kernel
  have hreactivated : liveGenesis.reactivated liveEconomy liveEntries =
      5 * unit := by
    decide +kernel
  rw [hheight, hemission, endowed_liveBalances] at htotal
  rw [hheight, hemission, hreactivated] at hactive
  exact ⟨hheight, htotal, hactive⟩

end Reward
end Numen
