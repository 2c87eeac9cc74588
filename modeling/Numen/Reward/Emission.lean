import Numen.Foundation.Halving
import Numen.Reward.Pallet

/-!
# Mined emission

No run-time check caps what the pallet mints.  The cap is a property of the
halving schedule: what a chain of any length has minted is at most the sum of
its rewards, and that sum stays below `2 * InitialReward * HalvingInterval`.
-/

namespace Numen
namespace Reward

open Foundation
open Numen.Pow (ConsensusEngineId DigestItem)

variable {AccountId Ledger : Type} {cfg : Config AccountId Ledger}

/-!
## The closed form of the reward
-/

theorem halve_eq (halvings reward : Nat) :
    halve halvings reward = reward / 2 ^ halvings := by
  induction halvings generalizing reward with
  | zero =>
      rw [Nat.pow_zero, Nat.div_one]
      rfl
  | succ halvings ih =>
      unfold halve
      split
      · rename_i hzero
        rw [hzero, Nat.zero_div]
      · rw [ih, Nat.div_div_eq_div_mul, Nat.pow_succ']

def scheduledReward (cfg : Config AccountId Ledger) (n : Nat) : Nat :=
  halved cfg.initialReward cfg.halvingInterval n

theorem blockReward_eq (hinterval : 1 ≤ cfg.halvingInterval) (n : Nat) :
    blockReward cfg n = Except.ok (scheduledReward cfg n) := by
  unfold blockReward scheduledReward halved
  rw [divide_of_pos n hinterval, except_ok_bind, halve_eq]
  rfl

/-- The sum of the rewards of blocks `n + 1` to `n + count`. -/
def scheduledEmission (cfg : Config AccountId Ledger) (n count : Nat) : Nat :=
  (Finset.range count).sum (fun i => scheduledReward cfg (n + 1 + i))

theorem scheduledEmission_succ (cfg : Config AccountId Ledger)
    (n count : Nat) :
    scheduledEmission cfg n (count + 1) =
      scheduledReward cfg (n + 1) + scheduledEmission cfg (n + 1) count := by
  unfold scheduledEmission
  rw [Finset.sum_range_succ', Nat.add_comm]
  congr 1
  apply Finset.sum_congr rfl
  intro i _
  congr 1
  lia

theorem scheduledEmission_lt (hinterval : 1 ≤ cfg.halvingInterval)
    (hreward : 1 ≤ cfg.initialReward) (count : Nat) :
    scheduledEmission cfg 0 count <
      2 * cfg.initialReward * cfg.halvingInterval := by
  have hcap := sum_halved_lt hinterval hreward (count + 1)
  rw [Finset.sum_range_succ'] at hcap
  have hsame : scheduledEmission cfg 0 count = (Finset.range count).sum
      (fun i => halved cfg.initialReward cfg.halvingInterval (i + 1)) := by
    apply Finset.sum_congr rfl
    intro i _
    unfold scheduledReward
    congr 1
    lia
  lia

/-!
## What the hook issues
-/

theorem onFinalize_issues (hlawful : cfg.currency.Lawful)
    (hinterval : 1 ≤ cfg.halvingInterval) (n : Nat) (logs : List DigestItem)
    (ledger : Ledger) :
    exists after, onFinalize cfg n logs ledger = Except.ok after ∧
      cfg.currency.totalIssuance ledger ≤ cfg.currency.totalIssuance after ∧
      cfg.currency.totalIssuance after ≤
        cfg.currency.totalIssuance ledger + scheduledReward cfg n := by
  unfold onFinalize
  cases findAuthor cfg logs with
  | none =>
      exact ⟨ledger, rfl, Nat.le_refl _, Nat.le_add_right _ _⟩
  | some author =>
      dsimp only
      rw [blockReward_eq hinterval, except_ok_bind]
      refine ⟨_, rfl, ?_⟩
      split
      · exact ⟨Nat.le_refl _, Nat.le_add_right _ _⟩
      · exact ⟨hlawful.issuance_le _ _ _, hlawful.issued_le _ _ _⟩

theorem onFinalize_issues_reward (hlawful : cfg.currency.Lawful)
    (hinterval : 1 ≤ cfg.halvingInterval)
    (hdeposit : cfg.currency.minimumBalance = 1) {n : Nat}
    {logs : List DigestItem} {ledger after : Ledger}
    (hauthor : (findAuthor cfg logs).isSome = true)
    (hroom : cfg.currency.totalIssuance ledger + scheduledReward cfg n ≤
      cfg.currency.maxBalance)
    (h : onFinalize cfg n logs ledger = Except.ok after) :
    cfg.currency.totalIssuance after =
      cfg.currency.totalIssuance ledger + scheduledReward cfg n := by
  rcases Option.isSome_iff_exists.mp hauthor with ⟨author, hfound⟩
  unfold onFinalize at h
  rw [hfound] at h
  dsimp only at h
  rw [blockReward_eq hinterval, except_ok_bind] at h
  rw [← Except.ok.inj h]
  split
  · rename_i hzero
    rw [hzero, Nat.add_zero]
  · rename_i hne
    apply hlawful.issued_eq _ _ _ _ hroom
    rw [hdeposit]
    exact Nat.one_le_iff_ne_zero.mpr hne

theorem onFinalize_of_bits_le (hinterval : 1 ≤ cfg.halvingInterval) {n : Nat}
    (hn : cfg.halvingInterval * bits cfg.initialReward ≤ n)
    (logs : List DigestItem) (ledger : Ledger) :
    onFinalize cfg n logs ledger = Except.ok ledger := by
  unfold onFinalize
  cases findAuthor cfg logs with
  | none => rfl
  | some author =>
      dsimp only
      rw [blockReward_eq hinterval, except_ok_bind]
      have hzero : scheduledReward cfg n = 0 := halved_eq_zero hinterval hn
      rw [if_pos hzero]
      rfl

/-!
## Chains
-/

/-- Whether every reward of the chain still fits the balance type when the hook
pays it. -/
def RewardsFit (cfg : Config AccountId Ledger) :
    Nat -> Ledger -> List (Block Ledger) -> Prop
  | _, _, [] => True
  | n, ledger, block :: rest =>
      cfg.currency.totalIssuance (block.body ledger) +
          scheduledReward cfg (n + 1) ≤ cfg.currency.maxBalance ∧
        forall after,
          onFinalize cfg (n + 1) block.logs (block.body ledger) =
              Except.ok after ->
            RewardsFit cfg (n + 1) after rest

theorem mine_cons {n total : Nat} {ledger after final : Ledger}
    {block : Block Ledger} {rest : List (Block Ledger)}
    (hhook : onFinalize cfg (n + 1) block.logs (block.body ledger) =
      Except.ok after)
    (hrest : mine cfg (n + 1) after rest = Except.ok (total, final)) :
    mine cfg n ledger (block :: rest) =
      Except.ok (cfg.currency.totalIssuance after -
        cfg.currency.totalIssuance (block.body ledger) + total, final) := by
  unfold mine
  dsimp only
  rw [hhook, except_ok_bind, hrest, except_ok_bind]
  rfl

theorem mine_le (hlawful : cfg.currency.Lawful)
    (hinterval : 1 ≤ cfg.halvingInterval) (n : Nat) (ledger : Ledger)
    (blocks : List (Block Ledger)) :
    exists minted final, mine cfg n ledger blocks =
        Except.ok (minted, final) ∧
      minted ≤ scheduledEmission cfg n blocks.length := by
  induction blocks generalizing n ledger with
  | nil =>
      exact ⟨0, ledger, rfl, Nat.zero_le _⟩
  | cons block rest ih =>
      rcases onFinalize_issues hlawful hinterval (n + 1) block.logs
        (block.body ledger) with ⟨after, hhook, _, hissued⟩
      rcases ih (n + 1) after with ⟨total, final, hrest, htotal⟩
      refine ⟨_, final, mine_cons hhook hrest, ?_⟩
      rw [List.length_cons, scheduledEmission_succ]
      lia

theorem mine_eq (hlawful : cfg.currency.Lawful)
    (hinterval : 1 ≤ cfg.halvingInterval)
    (hdeposit : cfg.currency.minimumBalance = 1) {n : Nat} {ledger : Ledger}
    {blocks : List (Block Ledger)}
    (hauthors : forall block, block ∈ blocks ->
      (findAuthor cfg block.logs).isSome = true)
    (hfit : RewardsFit cfg n ledger blocks) :
    exists final, mine cfg n ledger blocks =
      Except.ok (scheduledEmission cfg n blocks.length, final) := by
  induction blocks generalizing n ledger with
  | nil =>
      exact ⟨ledger, rfl⟩
  | cons block rest ih =>
      rcases onFinalize_issues hlawful hinterval (n + 1) block.logs
        (block.body ledger) with ⟨after, hhook, _, _⟩
      have hissued := onFinalize_issues_reward hlawful hinterval hdeposit
        (hauthors block List.mem_cons_self) hfit.left hhook
      rcases ih (fun other hmem => hauthors other (List.mem_cons_of_mem _ hmem))
        (hfit.right after hhook) with ⟨final, hrest⟩
      refine ⟨final, (mine_cons hhook hrest).trans ?_⟩
      rw [List.length_cons, scheduledEmission_succ, hissued,
        Nat.add_sub_cancel_left]

/-- The reward of every height is the initial reward halved once per elapsed
interval.  A chain mints at most the sum of its rewards, and exactly the sum if
every block has an author and every reward fits.  The sum stays below
`2 * InitialReward * HalvingInterval`, and from the height at which the initial
reward has lost all its binary digits nothing is minted. -/
theorem mined_emission_follows_halving_schedule
    (cfg : Config AccountId Ledger) (hlawful : cfg.currency.Lawful)
    (hinterval : 1 ≤ cfg.halvingInterval) :
    (forall n, blockReward cfg n = Except.ok (scheduledReward cfg n) ∧
      scheduledReward cfg n =
        cfg.initialReward / 2 ^ (n / cfg.halvingInterval)) ∧
    (forall ledger blocks, exists minted final,
      mine cfg 0 ledger blocks = Except.ok (minted, final) ∧
        minted ≤ scheduledEmission cfg 0 blocks.length ∧
        (cfg.currency.minimumBalance = 1 ->
          (forall block, block ∈ blocks ->
            (findAuthor cfg block.logs).isSome = true) ->
          RewardsFit cfg 0 ledger blocks ->
          minted = scheduledEmission cfg 0 blocks.length)) ∧
    (1 ≤ cfg.initialReward -> forall count,
      scheduledEmission cfg 0 count <
        2 * cfg.initialReward * cfg.halvingInterval) ∧
    (forall n logs ledger,
      cfg.halvingInterval * bits cfg.initialReward ≤ n ->
      onFinalize cfg n logs ledger = Except.ok ledger) := by
  refine ⟨fun n => ⟨blockReward_eq hinterval n, rfl⟩, ?_,
    fun hreward count => scheduledEmission_lt hinterval hreward count,
    fun n logs ledger hn => onFinalize_of_bits_le hinterval hn logs ledger⟩
  intro ledger blocks
  rcases mine_le hlawful hinterval 0 ledger blocks with
    ⟨minted, final, hmine, hle⟩
  refine ⟨minted, final, hmine, hle, ?_⟩
  intro hdeposit hauthors hfit
  rcases mine_eq hlawful hinterval hdeposit hauthors hfit with
    ⟨final', hexact⟩
  rw [hmine] at hexact
  cases hexact
  rfl

/-!
## The constants of the runtime

The schedule of the production runtime, over a ledger that keeps free balances
and refuses what `deposit_creating` refuses.
-/

/-- Free balances within `u128`, none above the issuance. -/
structure FreeBalances where
  free : List UInt8 -> Nat
  issuance : Nat
  free_le : forall who, free who ≤ issuance
  issuance_le : issuance ≤ 2 ^ 128 - 1

/-- A deposit that opens an account with less than `minimum`, or overflows a
balance, does nothing. -/
def FreeBalances.deposit (minimum : Nat) (who : List UInt8) (value : Nat)
    (ledger : FreeBalances) : FreeBalances :=
  if h : (ledger.free who = 0 ∧ value < minimum) ∨
      2 ^ 128 - 1 < ledger.free who + value then
    ledger
  else
    { free := fun other =>
        if other = who then ledger.free who + value else ledger.free other
      issuance := min (ledger.issuance + value) (2 ^ 128 - 1)
      free_le := by
        intro other
        have hwho := ledger.free_le who
        have hother := ledger.free_le other
        have hbound := ledger.issuance_le
        split <;> lia
      issuance_le := Nat.min_le_right _ _ }

def freeBalancesCurrency : Currency (List UInt8) FreeBalances :=
  { minimumBalance := 1
    maxBalance := 2 ^ 128 - 1
    totalIssuance := FreeBalances.issuance
    depositCreating := FreeBalances.deposit 1 }

theorem freeBalancesCurrency_lawful : freeBalancesCurrency.Lawful := by
  constructor
  · intro who ledger value
    show ledger.issuance ≤ (ledger.deposit 1 who value).issuance
    have hbound := ledger.issuance_le
    unfold FreeBalances.deposit
    split
    · exact Nat.le_refl _
    · exact Nat.le_min.mpr ⟨Nat.le_add_right _ _, hbound⟩
  · intro who ledger value
    show (ledger.deposit 1 who value).issuance ≤ ledger.issuance + value
    unfold FreeBalances.deposit
    split
    · exact Nat.le_add_right _ _
    · exact Nat.min_le_left _ _
  · intro who ledger value hminimum hfits
    show (ledger.deposit 1 who value).issuance = ledger.issuance + value
    have hheld := ledger.free_le who
    change 1 ≤ value at hminimum
    change ledger.issuance + value ≤ 2 ^ 128 - 1 at hfits
    unfold FreeBalances.deposit
    rw [dif_neg (by lia)]
    exact Nat.min_eq_left hfits

def powEngineId : ConsensusEngineId :=
  Vector.mk (List.toArray (['p', 'o', 'w', '_'].map Char.toUInt8)) rfl

/-- Decoding an account reads 32 bytes and ignores what follows. -/
def decodeAccount (data : List UInt8) : Option (List UInt8) :=
  if 32 ≤ data.length then some (data.take 32) else none

/-- `InitialReward` and `HalvingInterval` of the runtime. -/
def mainnet : Config (List UInt8) FreeBalances :=
  { currency := freeBalancesCurrency
    findAuthor := powFindAuthor powEngineId decodeAccount
    initialReward := 16 * 10 ^ 18
    halvingInterval := 12500000 }

def emptyLedger : FreeBalances :=
  { free := fun _ => 0
    issuance := 0
    free_le := fun _ => Nat.le_refl 0
    issuance_le := Nat.zero_le _ }

def emptyBlock (logs : List DigestItem) : Block FreeBalances :=
  { logs := logs, body := id }

def minerDigest : DigestItem :=
  DigestItem.preRuntime powEngineId (List.replicate 32 7)

/-- Two blocks with an author mint two full rewards; a block without a digest and
one whose digest is too short to decode mint at most what two authors would; and
all of it stays under 400 million units. -/
theorem first_blocks_of_mainnet :
    (exists final, mine mainnet 0 emptyLedger
        [emptyBlock [DigestItem.other [1], minerDigest],
          emptyBlock [minerDigest]] =
      Except.ok (32 * 10 ^ 18, final)) ∧
    (exists minted final, mine mainnet 0 emptyLedger
        [emptyBlock [],
          emptyBlock [DigestItem.preRuntime powEngineId [7], minerDigest]] =
      Except.ok (minted, final) ∧ minted ≤ 32 * 10 ^ 18) ∧
    forall count, scheduledEmission mainnet 0 count < 400000000 * 10 ^ 18 := by
  have hlawful : mainnet.currency.Lawful := freeBalancesCurrency_lawful
  have hschedule := mined_emission_follows_halving_schedule mainnet hlawful
    (by decide)
  have htwo : scheduledEmission mainnet 0 2 = 32 * 10 ^ 18 := by
    decide +kernel
  refine ⟨?_, ?_, ?_⟩
  · rcases hschedule.right.left emptyLedger
      [emptyBlock [DigestItem.other [1], minerDigest],
        emptyBlock [minerDigest]] with ⟨minted, final, hmine, _, hexact⟩
    have hfit : RewardsFit mainnet 0 emptyLedger
        [emptyBlock [DigestItem.other [1], minerDigest],
          emptyBlock [minerDigest]] := by
      refine ⟨by decide +kernel, ?_⟩
      intro after hhook
      rcases onFinalize_issues hlawful (by decide) 1
        [DigestItem.other [1], minerDigest] emptyLedger with
        ⟨after', hhook', _, hissued⟩
      cases hhook.symm.trans hhook'
      have hfits : 0 + scheduledReward mainnet 1 + scheduledReward mainnet 2 ≤
          2 ^ 128 - 1 := by
        decide +kernel
      exact ⟨Nat.le_trans (Nat.add_le_add_right hissued _) hfits,
        fun _ _ => True.intro⟩
    refine ⟨final, hmine.trans ?_⟩
    rw [hexact rfl (by decide +kernel) hfit, List.length_cons,
      List.length_cons, List.length_nil, htwo]
  · rcases hschedule.right.left emptyLedger
      [emptyBlock [],
        emptyBlock [DigestItem.preRuntime powEngineId [7], minerDigest]] with
      ⟨minted, final, hmine, hle, _⟩
    exact ⟨minted, final, hmine, hle.trans (Nat.le_of_eq htwo)⟩
  · intro count
    exact Nat.lt_of_lt_of_eq (hschedule.right.right.left (by decide) count)
      (by decide)

end Reward
end Numen
