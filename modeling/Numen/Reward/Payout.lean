import Mathlib.Algebra.BigOperators.Group.List.Basic
import Numen.Foundation.FixedPoint
import Numen.Pow.Authoring
import Numen.Reward.Emission

/-!
# Who is paid for a block

The author of a block is whoever its pre-runtime digest names, and the node
writes that digest before anybody starts to look for a seal.  The author gets
the block reward, a fifth of every fee, and the tips.
-/

namespace Numen
namespace Reward

open Foundation
open Numen.Pow (ConsensusEngineId DigestItem Node MinedBlock Worker WorkerEvent
  WorkerLabel AuthoringReachedBy)

/-!
## The author of a mined block
-/

section Author

variable {AccountId Ledger Hash Changes : Type}
variable {powEngineId : ConsensusEngineId}
variable {decode : List UInt8 -> Option AccountId}

theorem powFindAuthor_of_no_preRuntime {logs : List DigestItem}
    (h : forall data, DigestItem.preRuntime powEngineId data ∉ logs) :
    powFindAuthor powEngineId decode (logs.filterMap asPreRuntime) = none := by
  induction logs with
  | nil => rfl
  | cons item rest ih =>
      have hrest := ih fun data hmem => h data (List.mem_cons_of_mem _ hmem)
      rcases item with ⟨engine, data⟩ | ⟨engine, data⟩ | data
      · have hother : engine ≠ powEngineId := by
          rintro rfl
          exact h data List.mem_cons_self
        change powFindAuthor powEngineId decode
          ((engine, data) :: rest.filterMap asPreRuntime) = none
        rw [powFindAuthor, if_neg hother]
        exact hrest
      · exact hrest
      · exact hrest

/-- The digest the node puts in front names the author, whatever the runtime and
the seal add behind it. -/
theorem powFindAuthor_inherentDigests {node : Node Hash}
    (preRuntime : Option (List UInt8)) {added : List DigestItem}
    (h : forall data, DigestItem.preRuntime node.powEngineId data ∉ added) :
    powFindAuthor node.powEngineId decode
        ((Pow.inherentDigests node preRuntime ++ added).filterMap
          asPreRuntime) =
      preRuntime.bind decode := by
  cases preRuntime with
  | none => exact powFindAuthor_of_no_preRuntime h
  | some data =>
      change powFindAuthor node.powEngineId decode
        ((node.powEngineId, data) :: added.filterMap asPreRuntime) = decode data
      rw [powFindAuthor, if_pos rfl]

end Author

/-!
## Balances
-/

variable {AccountId Ledger : Type} [DecidableEq AccountId]

/-- The rest of `Balances` that payments go through.  `resolve` gives nothing
back when it refuses the credit. -/
structure Balances (AccountId Ledger : Type) extends
    Currency AccountId Ledger where
  balance : Ledger -> AccountId -> Nat
  withdraw : AccountId -> Nat -> Ledger -> Option Ledger
  resolve : AccountId -> Nat -> Ledger -> Option Ledger

/-- The account holds `value` and nobody else holds anything. -/
def only (who : AccountId) (value : Nat) (a : AccountId) : Nat :=
  if a = who then value else 0

/-- Documented behaviour of the balances pallet.  Only a credit that leaves an
account below the existential deposit or overflows its balance is refused. -/
structure Balances.Lawful (balances : Balances AccountId Ledger) : Prop where
  withdraw_eq : forall who value ledger after,
    balances.withdraw who value ledger = some after ->
      forall a, balances.balance after a + only who value a =
        balances.balance ledger a
  resolve_eq : forall who value ledger after,
    balances.resolve who value ledger = some after ->
      forall a, balances.balance after a =
        balances.balance ledger a + only who value a
  resolve_live : forall who value ledger,
    balances.minimumBalance ≤ balances.balance ledger who ->
    balances.balance ledger who + value ≤ balances.maxBalance ->
      exists after, balances.resolve who value ledger = some after
  deposit_live : forall who value ledger,
    balances.minimumBalance ≤ balances.balance ledger who ->
    balances.balance ledger who + value ≤ balances.maxBalance ->
      balances.balance (balances.depositCreating who value ledger) who =
        balances.balance ledger who + value
  deposit_le : forall who value ledger a,
    balances.balance (balances.depositCreating who value ledger) a ≤
      balances.balance ledger a + only who value a
  le_deposit : forall who value ledger a,
    balances.balance ledger a ≤
      balances.balance (balances.depositCreating who value ledger) a

/-- Between two ledgers every account has paid what it owed, and has received
what was due to it or less.  An account with nothing due has just paid, and one
that stays alive and has room has received everything. -/
structure Flows (balances : Balances AccountId Ledger) (before after : Ledger)
    (owed due : AccountId -> Nat) : Prop where
  le : forall a, balances.balance after a + owed a ≤
    balances.balance before a + due a
  eq : forall a, due a = 0 ->
    balances.balance after a + owed a = balances.balance before a
  live : forall a, balances.minimumBalance + owed a ≤
      balances.balance before a ->
    balances.balance before a + due a ≤ balances.maxBalance ->
      balances.balance after a + owed a = balances.balance before a + due a

section Flows

variable {balances : Balances AccountId Ledger} {before after last : Ledger}
variable {owed owed' due due' : AccountId -> Nat}

omit [DecidableEq AccountId] in
theorem Flows.refl (balances : Balances AccountId Ledger) (ledger : Ledger) :
    Flows balances ledger ledger (fun _ => 0) (fun _ => 0) where
  le := fun _ => Nat.le_refl _
  eq := fun _ _ => rfl
  live := fun _ _ _ => rfl

omit [DecidableEq AccountId] in
theorem Flows.trans (h : Flows balances before after owed due)
    (h' : Flows balances after last owed' due') :
    Flows balances before last (fun a => owed a + owed' a)
      (fun a => due a + due' a) where
  le := by
    intro a
    have hfirst := h.le a
    have hsecond := h'.le a
    lia
  eq := by
    intro a hdue
    have hfirst := h.eq a (by lia)
    have hsecond := h'.eq a (by lia)
    lia
  live := by
    intro a halive hroom
    have hfirst := h.live a (by lia) (by lia)
    have hsecond := h'.live a (by lia) (by lia)
    lia

omit [DecidableEq AccountId] in
theorem Flows.congr (h : Flows balances before after owed due)
    (howed : forall a, owed' a = owed a) (hdue : forall a, due' a = due a) :
    Flows balances before after owed' due' := by
  have howed : owed' = owed := funext howed
  have hdue : due' = due := funext hdue
  subst howed hdue
  exact h

theorem Flows.withdraw (hlawful : balances.Lawful) {who : AccountId}
    {value : Nat} (h : balances.withdraw who value before = some after) :
    Flows balances before after (only who value) (fun _ => 0) where
  le := fun a => Nat.le_of_eq (hlawful.withdraw_eq _ _ _ _ h a)
  eq := fun a _ => hlawful.withdraw_eq _ _ _ _ h a
  live := fun a _ _ => hlawful.withdraw_eq _ _ _ _ h a

/-- A credit of `value` to `who`, which may be refused unless `who` is alive and
has room for it. -/
theorem Flows.credit {who : AccountId} {value : Nat}
    (hle : forall a, balances.balance after a ≤
      balances.balance before a + only who value a)
    (hge : forall a, balances.balance before a ≤ balances.balance after a)
    (hlive : balances.minimumBalance ≤ balances.balance before who ->
      balances.balance before who + value ≤ balances.maxBalance ->
        balances.balance after who = balances.balance before who + value) :
    Flows balances before after (fun _ => 0) (only who value) where
  le := hle
  eq := by
    intro a hdue
    have hnothing := hle a
    rw [hdue] at hnothing
    exact Nat.le_antisymm hnothing (hge a)
  live := by
    intro a halive hroom
    by_cases hself : a = who
    · subst hself
      unfold only at hroom ⊢
      rw [if_pos rfl] at hroom ⊢
      exact hlive halive hroom
    · have hnothing := hle a
      unfold only at hnothing ⊢
      rw [if_neg hself] at hnothing ⊢
      exact Nat.le_antisymm hnothing (hge a)

/-- `let _ = resolve(..)`.  A refused credit is dropped, which burns it. -/
def Balances.settle (balances : Balances AccountId Ledger) (who : AccountId)
    (value : Nat) (ledger : Ledger) : Ledger :=
  (balances.resolve who value ledger).getD ledger

theorem Flows.settle (hlawful : balances.Lawful) (who : AccountId)
    (value : Nat) (ledger : Ledger) :
    Flows balances ledger (balances.settle who value ledger) (fun _ => 0)
      (only who value) := by
  unfold Balances.settle
  cases hresolve : balances.resolve who value ledger with
  | none =>
      refine Flows.credit (fun _ => Nat.le_add_right _ _)
        (fun _ => Nat.le_refl _) ?_
      intro halive hroom
      rcases hlawful.resolve_live who value ledger halive hroom with
        ⟨after, hsome⟩
      rw [hresolve] at hsome
      cases hsome
  | some after =>
      have heq := hlawful.resolve_eq _ _ _ _ hresolve
      refine Flows.credit (fun a => Nat.le_of_eq (heq a)) ?_ ?_
      · intro a
        rw [Option.getD_some, heq a]
        exact Nat.le_add_right _ _
      · intro _ _
        rw [Option.getD_some, heq who]
        unfold only
        rw [if_pos rfl]

theorem Flows.deposit (hlawful : balances.Lawful) (who : AccountId)
    (value : Nat) (ledger : Ledger) :
    Flows balances ledger (balances.depositCreating who value ledger)
      (fun _ => 0) (only who value) :=
  Flows.credit (hlawful.deposit_le who value ledger)
    (hlawful.le_deposit who value ledger)
    (hlawful.deposit_live who value ledger)

theorem only_zero (who a : AccountId) : only who 0 a = 0 :=
  ite_self 0

end Flows

/-!
## Fees and tips
-/

/-- `DealWithFees`: the treasury, and the share of a fee its author keeps. -/
structure FeeSplit (AccountId Ledger : Type) where
  balances : Balances AccountId Ledger
  treasury : AccountId
  minerFeeShare : Nat -> Nat

namespace FeeSplit

variable (split : FeeSplit AccountId Ledger)

omit [DecidableEq AccountId] in
/-- The part of a fee that is split off for the author. -/
def kept (amount : Nat) : Nat :=
  min (split.minerFeeShare amount) amount

omit [DecidableEq AccountId] in
def onNonzeroUnbalanced (author : Option AccountId) (amount : Nat)
    (ledger : Ledger) : Ledger :=
  match author with
  | some author =>
      split.balances.settle split.treasury (amount - split.kept amount)
        (split.balances.settle author (split.kept amount) ledger)
  | none => split.balances.settle split.treasury amount ledger

omit [DecidableEq AccountId] in
def onUnbalanced (author : Option AccountId) (amount : Nat) (ledger : Ledger) :
    Ledger :=
  if amount = 0 then ledger
  else split.onNonzeroUnbalanced author amount ledger

omit [DecidableEq AccountId] in
def onUnbalanceds (author : Option AccountId) (feesThenTips : List Nat)
    (ledger : Ledger) : Ledger :=
  match feesThenTips with
  | [] => ledger
  | fee :: rest =>
      let charged := split.onUnbalanced author fee ledger
      match rest with
      | [] => charged
      | tip :: _ =>
          split.balances.settle (author.getD split.treasury) tip charged

end FeeSplit

structure Payment (AccountId : Type) where
  payer : AccountId
  fee : Nat
  tip : Nat

namespace FeeSplit

variable (split : FeeSplit AccountId Ledger)

omit [DecidableEq AccountId] in
def pay (author : Option AccountId) (ledger : Ledger)
    (payment : Payment AccountId) : Option Ledger :=
  (split.balances.withdraw payment.payer (payment.fee + payment.tip)
    ledger).map (split.onUnbalanceds author [payment.fee, payment.tip])

def dueOfFee (author : Option AccountId) (fee : Nat) (a : AccountId) : Nat :=
  match author with
  | some author =>
      only author (split.kept fee) a +
        only split.treasury (fee - split.kept fee) a
  | none => only split.treasury fee a

def due (author : Option AccountId) (payment : Payment AccountId)
    (a : AccountId) : Nat :=
  split.dueOfFee author payment.fee a +
    only (author.getD split.treasury) payment.tip a

variable {split}

theorem onUnbalanced_flows (hlawful : split.balances.Lawful)
    (author : Option AccountId) (fee : Nat) (ledger : Ledger) :
    Flows split.balances ledger (split.onUnbalanced author fee ledger)
      (fun _ => 0) (split.dueOfFee author fee) := by
  unfold onUnbalanced
  split
  · rename_i hzero
    refine (Flows.refl _ _).congr (fun _ => rfl) ?_
    intro a
    rw [hzero]
    unfold dueOfFee kept
    cases author <;> simp [only_zero]
  · cases author with
    | none => exact Flows.settle hlawful _ _ _
    | some author =>
        exact (Flows.settle hlawful _ _ _).trans (Flows.settle hlawful _ _ _)

theorem pay_flows (hlawful : split.balances.Lawful)
    {author : Option AccountId} {ledger after : Ledger}
    {payment : Payment AccountId}
    (h : split.pay author ledger payment = some after) :
    Flows split.balances ledger after
      (only payment.payer (payment.fee + payment.tip))
      (split.due author payment) := by
  rcases Option.map_eq_some_iff.mp h with ⟨charged, hcharged, rfl⟩
  have hdealt := ((Flows.withdraw hlawful hcharged).trans
    (onUnbalanced_flows hlawful author payment.fee charged)).trans
    (Flows.settle hlawful (author.getD split.treasury) payment.tip _)
  refine hdealt.congr ?_ ?_
  · intro a
    rfl
  · intro a
    unfold due
    rw [Nat.zero_add]

def payAll (split : FeeSplit AccountId Ledger) (author : Option AccountId) :
    List (Payment AccountId) -> Ledger -> Option Ledger
  | [], ledger => some ledger
  | payment :: rest, ledger =>
      (split.pay author ledger payment).bind (split.payAll author rest)

def paidBy (payments : List (Payment AccountId)) (a : AccountId) : Nat :=
  (payments.map fun payment =>
    only payment.payer (payment.fee + payment.tip) a).sum

theorem payAll_flows (hlawful : split.balances.Lawful)
    {author : Option AccountId} {payments : List (Payment AccountId)}
    {ledger after : Ledger}
    (h : split.payAll author payments ledger = some after) :
    Flows split.balances ledger after
      (paidBy payments)
      (fun a => (payments.map fun payment =>
        split.due author payment a).sum) := by
  induction payments generalizing ledger with
  | nil =>
      cases h
      exact Flows.refl _ _
  | cons payment rest ih =>
      rcases Option.bind_eq_some_iff.mp h with ⟨next, hpay, hrest⟩
      refine ((pay_flows hlawful hpay).trans (ih hrest)).congr ?_ ?_
      · intro a
        unfold paidBy
        rw [List.map_cons, List.sum_cons]
      · intro a
        rw [List.map_cons, List.sum_cons]

theorem sum_due_eq {miner : AccountId} (hapart : miner ≠ split.treasury)
    (payments : List (Payment AccountId)) (a : AccountId) :
    (payments.map fun payment => split.due (some miner) payment a).sum =
      only miner (payments.map fun payment =>
          split.kept payment.fee + payment.tip).sum a +
        only split.treasury (payments.map fun payment =>
          payment.fee - split.kept payment.fee).sum a := by
  induction payments with
  | nil => simp [only]
  | cons payment rest ih =>
      simp only [List.map_cons, List.sum_cons, ih]
      unfold due dueOfFee only
      rw [Option.getD_some]
      by_cases hminer : a = miner
      · simp only [if_pos hminer]
        rw [hminer, if_neg hapart, if_neg hapart, if_neg hapart]
        lia
      · simp only [if_neg hminer]
        split <;> lia

end FeeSplit

/-!
## A small instance
-/

def toyBalances : Balances Nat (Nat -> Nat) where
  minimumBalance := 1
  maxBalance := 2 ^ 128 - 1
  totalIssuance := fun ledger => ledger 0 + ledger 5 + ledger 9
  depositCreating := fun who value ledger a => ledger a + only who value a
  balance := id
  withdraw := fun who value ledger =>
    if value ≤ ledger who then some fun a => ledger a - only who value a
    else none
  resolve := fun who value ledger =>
    if 1 ≤ ledger who + value then some fun a => ledger a + only who value a
    else none

theorem toyBalances_lawful : toyBalances.Lawful where
  withdraw_eq := by
    intro who value ledger after h a
    change (if value ≤ ledger who then _ else _) = _ at h
    split at h
    · rename_i hfits
      cases h
      change ledger a - only who value a + only who value a = ledger a
      refine Nat.sub_add_cancel ?_
      unfold only
      split
      · rename_i hwho
        rw [hwho]
        exact hfits
      · exact Nat.zero_le _
    · cases h
  resolve_eq := by
    intro who value ledger after h a
    change (if 1 ≤ ledger who + value then _ else _) = _ at h
    split at h
    · cases h
      rfl
    · cases h
  resolve_live := by
    intro who value ledger halive _
    have hpositive : 1 ≤ ledger who + value := Nat.le_trans halive
      (Nat.le_add_right _ _)
    exact ⟨_, if_pos hpositive⟩
  deposit_live := by
    intro who value ledger _ _
    change ledger who + only who value who = ledger who + value
    unfold only
    rw [if_pos rfl]
  deposit_le := fun _ _ _ _ => Nat.le_refl _
  le_deposit := fun _ _ _ _ => Nat.le_add_right _ _

/-- Account zero is the treasury. -/
def toySplit : FeeSplit Nat (Nat -> Nat) where
  balances := toyBalances
  treasury := 0
  minerFeeShare := fun n => (2 * (20 * n) + 100) / (2 * 100)

/-- Digests name an account by its number. -/
def toyReward : Config Nat (Nat -> Nat) where
  currency := toyBalances.toCurrency
  findAuthor := powFindAuthor Pow.toyNode.powEngineId
    fun data => data.head?.map UInt8.toNat
  initialReward := 16
  halvingInterval := 100

/-!
## A whole block
-/

section Block

variable {cfg : Config AccountId Ledger} {split : FeeSplit AccountId Ledger}

theorem onFinalize_flows (hlawful : split.balances.Lawful)
    (hcurrency : cfg.currency = split.balances.toCurrency)
    (hinterval : 1 ≤ cfg.halvingInterval) {n : Nat} {logs : List DigestItem}
    {miner : AccountId} (hauthor : findAuthor cfg logs = some miner)
    {ledger after : Ledger}
    (h : onFinalize cfg n logs ledger = Except.ok after) :
    Flows split.balances ledger after (fun _ => 0)
      (only miner (scheduledReward cfg n)) := by
  unfold onFinalize at h
  rw [hauthor] at h
  dsimp only at h
  rw [blockReward_eq hinterval, except_ok_bind] at h
  cases h
  split
  · rename_i hzero
    refine (Flows.refl _ _).congr (fun _ => rfl) ?_
    intro a
    rw [hzero]
    exact only_zero miner a
  · rw [hcurrency]
    exact Flows.deposit hlawful miner _ _

theorem block_flows (hlawful : split.balances.Lawful)
    (hcurrency : cfg.currency = split.balances.toCurrency)
    (hinterval : 1 ≤ cfg.halvingInterval) {n : Nat} {logs : List DigestItem}
    {miner : AccountId} (hauthor : findAuthor cfg logs = some miner)
    (hapart : miner ≠ split.treasury) {payments : List (Payment AccountId)}
    {ledger charged after : Ledger}
    (hpaid : split.payAll (findAuthor cfg logs) payments ledger =
      some charged)
    (hfinal : onFinalize cfg n logs charged = Except.ok after) :
    Flows split.balances ledger after (FeeSplit.paidBy payments)
      (fun a => only miner (scheduledReward cfg n +
          (payments.map fun payment =>
            split.kept payment.fee + payment.tip).sum) a +
        only split.treasury (payments.map fun payment =>
          payment.fee - split.kept payment.fee).sum a) := by
  rw [hauthor] at hpaid
  refine ((FeeSplit.payAll_flows hlawful hpaid).trans
    (onFinalize_flows hlawful hcurrency hinterval hauthor hfinal)).congr ?_ ?_
  · intro a
    rfl
  · intro a
    rw [FeeSplit.sum_due_eq hapart]
    unfold only
    split <;> lia

/-- Of what it had, `who` has paid `owed`, and it has got `due` on top: all of
it if it stays alive and has room, and never more. -/
structure Credited (balances : Balances AccountId Ledger)
    (before after : Ledger) (who : AccountId) (owed due : Nat) : Prop where
  eq : balances.minimumBalance + owed ≤ balances.balance before who ->
    balances.balance before who + due ≤ balances.maxBalance ->
      balances.balance after who + owed = balances.balance before who + due
  le : balances.balance after who + owed ≤ balances.balance before who + due

omit [DecidableEq AccountId] in
theorem Flows.credited {balances : Balances AccountId Ledger}
    {before after : Ledger} {owed due : AccountId -> Nat}
    (h : Flows balances before after owed due) {who : AccountId} {value : Nat}
    (hvalue : due who = value) :
    Credited balances before after who (owed who) value := by
  subst hvalue
  exact ⟨h.live who, h.le who⟩

/-- Whoever finds the seal, and whatever is submitted with it: a block the worker
hands to the import pays the reward, the share of the fees and the tips to the
account the node was configured with, and the rest of the fees to the treasury.
Everybody else is left with what they had, less what they paid. -/
theorem seal_does_not_redirect_the_reward {Hash Changes : Type}
    [DecidableEq Hash] {node : Node Hash}
    {decode : List UInt8 -> Option AccountId}
    (hlawful : split.balances.Lawful)
    (hcurrency : cfg.currency = split.balances.toCurrency)
    (hfinder : cfg.findAuthor = powFindAuthor node.powEngineId decode)
    (hinterval : 1 ≤ cfg.halvingInterval) {digest : List UInt8}
    {miner : AccountId} (hdigest : decode digest = some miner)
    (hapart : miner ≠ split.treasury)
    {labels : List (WorkerLabel Hash Changes)} {s : Worker Hash Changes}
    (hreached : AuthoringReachedBy node (some digest) labels s)
    {preHash : Hash} {mined : MinedBlock Hash Changes}
    (hmined : WorkerEvent.handedOver preHash mined ∈ s.history) {n : Nat}
    {payments : List (Payment AccountId)} {ledger charged after : Ledger}
    (hpaid : split.payAll (findAuthor cfg mined.block.header.logs) payments
      ledger = some charged)
    (hfinal : onFinalize cfg n mined.block.header.logs charged =
      Except.ok after) :
    (forall a, a ≠ miner -> a ≠ split.treasury ->
        split.balances.balance after a + FeeSplit.paidBy payments a =
          split.balances.balance ledger a) ∧
      Credited split.balances ledger after miner
        (FeeSplit.paidBy payments miner)
        (scheduledReward cfg n + (payments.map fun payment =>
          split.kept payment.fee + payment.tip).sum) ∧
      Credited split.balances ledger after split.treasury
        (FeeSplit.paidBy payments split.treasury)
        (payments.map fun payment =>
          payment.fee - split.kept payment.fee).sum := by
  have hauthor : findAuthor cfg mined.block.header.logs = some miner := by
    rcases hreached.exists_handover hmined with
      ⟨build, _, rawSeal, hpushed, _, _, _, rfl, _⟩
    rcases (Pow.pushed_wellBuilt hreached build hpushed).proposes with
      ⟨above, _, hproposes⟩
    rcases hproposes.logs_eq with ⟨added, hlogs, hadded⟩
    change cfg.findAuthor (build.proposal.header.logs.filterMap _) = _
    rw [hlogs, hfinder, powFindAuthor_inherentDigests _ hadded]
    exact hdigest
  have hflows := block_flows hlawful hcurrency hinterval hauthor hapart hpaid
    hfinal
  refine ⟨?_, ?_, ?_⟩
  · intro a hminer htreasury
    refine hflows.eq a ?_
    unfold only
    rw [if_neg hminer, if_neg htreasury]
  · refine hflows.credited ?_
    unfold only
    rw [if_pos rfl, if_neg hapart, Nat.add_zero]
  · refine hflows.credited ?_
    unfold only
    rw [if_neg hapart.symm, if_pos rfl, Nat.zero_add]

/-- Account five pays, and account nine, which the digest names, gets the reward,
a fifth of the fee and the tip, whoever found the seal. -/
theorem toy_seal_pays_the_configured_miner :
    let logs := (Pow.minedBlock Pow.toyNode.powEngineId Pow.toyTask
      [7]).block.header.logs
    exists charged after,
      toySplit.payAll (findAuthor toyReward logs) [⟨5, 10, 3⟩]
          (fun _ => 100) = some charged ∧
        onFinalize toyReward 1 logs charged = Except.ok after ∧
        after 5 = 87 ∧ after 9 = 121 ∧ after 0 = 108 := by
  intro logs
  let mined := Pow.minedBlock Pow.toyNode.powEngineId Pow.toyTask [7]
  let worker := Pow.toySubmit.foldl (Pow.workerStep Pow.toyNode.algorithm
    Pow.toyNode.powEngineId) Worker.new
  have hmined : WorkerEvent.handedOver 2 mined ∈ worker.history := by
    have hhistory : worker.history =
        [WorkerEvent.cleared, WorkerEvent.pushed Pow.toyTask,
          WorkerEvent.taken Pow.toyTask, WorkerEvent.handedOver 2 mined] := rfl
    rw [hhistory]
    simp
  have hcharged : exists charged,
      toySplit.payAll (findAuthor toyReward logs) [⟨5, 10, 3⟩]
        (fun _ => 100) = some charged := ⟨_, rfl⟩
  rcases hcharged with ⟨charged, hpaid⟩
  have hafter : exists after,
      onFinalize toyReward 1 logs charged = Except.ok after := ⟨_, rfl⟩
  rcases hafter with ⟨after, hfinal⟩
  have hcurrency : toyReward.currency = toySplit.balances.toCurrency := rfl
  have hapart : 9 ≠ toySplit.treasury := Nat.succ_ne_zero 8
  rcases seal_does_not_redirect_the_reward toyBalances_lawful hcurrency rfl
      (Nat.le_add_left 1 99) rfl hapart Pow.toySubmit_reached hmined hpaid
      hfinal with ⟨hothers, hminer, htreasury⟩
  have hpayer : after 5 + 13 = 100 :=
    hothers 5 (by decide) (Nat.succ_ne_zero 4)
  exact ⟨charged, after, hpaid, hfinal, by lia,
    hminer.eq (by decide) (by decide), htreasury.eq (by decide) (by decide)⟩

omit [DecidableEq AccountId] in
theorem FeeSplit.kept_lt (hshare : RoundsNearest 20 100 split.minerFeeShare)
    {fee : Nat} (hfee : 0 < fee) : split.kept fee < fee := by
  have hnear := (hshare fee).right
  unfold FeeSplit.kept
  lia

omit [DecidableEq AccountId] in
theorem sum_kept_add (split : FeeSplit AccountId Ledger)
    (payments : List (Payment AccountId)) :
    (payments.map fun payment =>
        split.kept payment.fee + payment.tip).sum +
      (payments.map fun payment =>
        payment.fee - split.kept payment.fee).sum =
      (payments.map fun payment => payment.fee + payment.tip).sum := by
  induction payments with
  | nil => rfl
  | cons payment rest ih =>
      have hkept : split.kept payment.fee ≤ payment.fee :=
        Nat.min_le_right _ _
      simp only [List.map_cons, List.sum_cons]
      lia

theorem FeeSplit.paidBy_self {miner : AccountId}
    {payments : List (Payment AccountId)}
    (h : ∀ payment ∈ payments, payment.payer = miner) :
    FeeSplit.paidBy payments miner =
      (payments.map fun payment => payment.fee + payment.tip).sum := by
  unfold FeeSplit.paidBy
  congr 1
  refine List.map_congr_left ?_
  intro payment hmem
  rw [h payment hmem]
  exact if_pos rfl

/-- A miner that fills its block with transactions of its own gets its tips
back and loses of every fee all but the share it keeps.  With that it ends with
less than the block reward alone would have left it. -/
theorem paying_itself_costs_the_miner (hlawful : split.balances.Lawful)
    (hcurrency : cfg.currency = split.balances.toCurrency)
    (hshare : RoundsNearest 20 100 split.minerFeeShare)
    (hinterval : 1 ≤ cfg.halvingInterval) {n : Nat} {logs : List DigestItem}
    {miner : AccountId} (hauthor : findAuthor cfg logs = some miner)
    (hapart : miner ≠ split.treasury) {payments : List (Payment AccountId)}
    (hself : ∀ payment ∈ payments, payment.payer = miner)
    {ledger charged after : Ledger}
    (hpaid : split.payAll (findAuthor cfg logs) payments ledger =
      some charged)
    (hfinal : onFinalize cfg n logs charged = Except.ok after) :
    let spent := (payments.map fun payment => payment.fee + payment.tip).sum
    let lost := (payments.map fun payment =>
      payment.fee - split.kept payment.fee).sum
    (split.balances.minimumBalance + spent ≤
          split.balances.balance ledger miner ->
        split.balances.balance ledger miner + scheduledReward cfg n + spent ≤
          split.balances.maxBalance ->
        split.balances.balance after miner + lost =
          split.balances.balance ledger miner + scheduledReward cfg n) ∧
      split.balances.balance after miner + lost ≤
        split.balances.balance ledger miner + scheduledReward cfg n ∧
      ((∃ payment ∈ payments, 0 < payment.fee) ->
        split.balances.balance after miner <
          split.balances.balance ledger miner + scheduledReward cfg n) := by
  intro spent lost
  have hcredited : Credited split.balances ledger after miner
      (FeeSplit.paidBy payments miner)
      (scheduledReward cfg n + (payments.map fun payment =>
        split.kept payment.fee + payment.tip).sum) := by
    refine (block_flows hlawful hcurrency hinterval hauthor hapart hpaid
      hfinal).credited ?_
    unfold only
    rw [if_pos rfl, if_neg hapart, Nat.add_zero]
  rw [FeeSplit.paidBy_self hself] at hcredited
  have hsplit : (payments.map fun payment =>
      split.kept payment.fee + payment.tip).sum + lost = spent :=
    sum_kept_add split payments
  have hlost : split.balances.balance after miner + lost ≤
      split.balances.balance ledger miner + scheduledReward cfg n := by
    have hle := hcredited.le
    lia
  refine ⟨?_, hlost, ?_⟩
  · intro halive hroom
    have heq := hcredited.eq halive (by lia)
    lia
  · rintro ⟨payment, hmem, hfee⟩
    have hkept : split.kept payment.fee < payment.fee :=
      FeeSplit.kept_lt hshare hfee
    have hterm : payment.fee - split.kept payment.fee ≤ lost :=
      List.single_le_sum (fun _ _ => Nat.zero_le _) _
        (List.mem_map.mpr ⟨payment, hmem, rfl⟩)
    lia

/-- Account nine fills its block with a fee of a thousand and ends eight hundred
short of its reward. -/
theorem toy_miner_pays_itself :
    let logs := [DigestItem.preRuntime Pow.toyNode.powEngineId [9]]
    exists charged after,
      toySplit.payAll (findAuthor toyReward logs) [⟨9, 1000, 50⟩]
          (fun _ => 2000) = some charged ∧
        onFinalize toyReward 1 logs charged = Except.ok after ∧
        after 9 + 800 = 2000 + 16 := by
  intro logs
  have hcharged : exists charged,
      toySplit.payAll (findAuthor toyReward logs) [⟨9, 1000, 50⟩]
        (fun _ => 2000) = some charged := ⟨_, rfl⟩
  rcases hcharged with ⟨charged, hpaid⟩
  have hafter : exists after,
      onFinalize toyReward 1 logs charged = Except.ok after := ⟨_, rfl⟩
  rcases hafter with ⟨after, hfinal⟩
  have hcurrency : toyReward.currency = toySplit.balances.toCurrency := rfl
  have hapart : 9 ≠ toySplit.treasury := Nat.succ_ne_zero 8
  have hself : ∀ payment ∈ [(⟨9, 1000, 50⟩ : Payment Nat)],
      payment.payer = 9 := by
    intro payment hmem
    rw [List.mem_singleton.mp hmem]
  refine ⟨charged, after, hpaid, hfinal, ?_⟩
  exact (paying_itself_costs_the_miner toyBalances_lawful hcurrency
    (roundsNearest_div 20 (Nat.zero_lt_succ 99)) (Nat.le_add_left 1 99) rfl
    hapart hself hpaid hfinal).left (by decide) (by decide)

end Block

end Reward
end Numen
