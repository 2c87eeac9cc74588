import Numen.Validator.Stake

/-!
# Renewal and expiry

Here blocks follow one another without gaps and the block hook runs once in
each of them, as it does on the chain.  An `Active` lock is then always renewed
in time, and every other lock ends on the very block it was due.

Other calls may come before or after the hook within a block, so the results do
not depend on the order of pallets in the runtime.
-/

namespace Numen
namespace Validator

open Foundation

variable {AccountId Locks : Type} [DecidableEq AccountId]
variable {cfg : Config AccountId Locks}

/-- The pallet, and whether the hook has run in the current block. -/
structure Clocked (cfg : Config AccountId Locks) where
  pallet : State cfg
  swept : Bool

def sweptAfter (swept : Bool) : Label AccountId -> Bool
  | Label.advance _ => false
  | Label.onInitialize => true
  | _ => swept

def tick (c : Clocked cfg) (label : Label AccountId) : Clocked cfg :=
  { pallet := step c.pallet label
    swept := sweptAfter c.swept label }

/-- The next block starts after the hook of this one, the hook runs once a
block, and block arithmetic does not saturate. -/
def Consecutive (c : Clocked cfg) : Label AccountId -> Prop
  | Label.advance block =>
      c.swept = true ∧ block = c.pallet.block + 1 ∧
        block + cfg.lockDuration ≤ cfg.maxBlock ∧
        block + cfg.rejoinCooldownPeriod ≤ cfg.maxBlock
  | Label.onInitialize => c.swept = false
  | _ => True

/-- Genesis counts as swept: the first hook belongs to block one. -/
def ChainReachedBy (initialValidators : List AccountId)
    (labels : List (Label AccountId)) (c : Clocked cfg) : Prop :=
  exists g, build cfg initialValidators = some g ∧
    Run Consecutive tick { pallet := g, swept := true } labels c

/-- The labels that neither start a block nor run the hook. -/
def Label.WithinBlock : Label AccountId -> Prop
  | Label.advance _ => False
  | Label.onInitialize => False
  | _ => True

omit [DecidableEq AccountId] in
theorem Label.cases_block (label : Label AccountId) :
    (exists block, label = Label.advance block) ∨
      label = Label.onInitialize ∨ label.WithinBlock := by
  cases label with
  | advance block => exact Or.inl ⟨block, rfl⟩
  | onInitialize => exact Or.inr (Or.inl rfl)
  | lock env origin => exact Or.inr (Or.inr True.intro)
  | requestExit origin => exact Or.inr (Or.inr True.intro)
  | setStakeExempt origin who exempt => exact Or.inr (Or.inr True.intro)
  | noteOffline who => exact Or.inr (Or.inr True.intro)
  | noteEquivocation who => exact Or.inr (Or.inr True.intro)
  | newSession env => exact Or.inr (Or.inr True.intro)

omit [DecidableEq AccountId] in
theorem sweptAfter_of_withinBlock {label : Label AccountId}
    (hwithin : label.WithinBlock) (swept : Bool) :
    sweptAfter swept label = swept := by
  unfold sweptAfter
  split
  · cases hwithin
  · cases hwithin
  · rfl

omit [DecidableEq AccountId] in
theorem allowed_of_withinBlock {label : Label AccountId}
    (hwithin : label.WithinBlock) (s : State cfg) : Allowed s label := by
  unfold Allowed
  split
  · cases hwithin
  · exact True.intro

omit [DecidableEq AccountId] in
theorem allowed_of_consecutive {c : Clocked cfg} {label : Label AccountId}
    (h : Consecutive c label) : Allowed c.pallet label := by
  rcases label.cases_block with ⟨block, rfl⟩ | rfl | hwithin
  · have hnext := h.right.left
    have hfits := h.right.right.left
    constructor <;> lia
  · exact True.intro
  · exact allowed_of_withinBlock hwithin c.pallet

theorem ChainReachedBy.append {initialValidators : List AccountId}
    {labels later : List (Label AccountId)} {c d : Clocked cfg}
    (h : ChainReachedBy initialValidators labels c)
    (hlater : Run Consecutive tick c later d) :
    ChainReachedBy initialValidators (labels ++ later) d := by
  rcases h with ⟨g, hbuild, hrun⟩
  exact ⟨g, hbuild, hrun.append hlater⟩

theorem ChainReachedBy.pallet {initialValidators : List AccountId}
    {labels : List (Label AccountId)} {c : Clocked cfg}
    (h : ChainReachedBy initialValidators labels c) :
    ReachedBy initialValidators labels c.pallet := by
  rcases h with ⟨g, hbuild, hrun⟩
  exact ⟨g, hbuild, hrun.project Clocked.pallet
    (fun _ _ => allowed_of_consecutive) (fun _ _ => rfl)⟩

/-!
## The renewal window
-/

/-- How much of an `Active` lock has to be left.  Within a block the hook has
not swept yet, one block less will do. -/
structure Window (c : Clocked cfg) : Prop where
  unsaturated : c.pallet.block + cfg.lockDuration ≤ cfg.maxBlock
  expiry_le : forall who info, c.pallet.validatorLocks.get who = some info ->
    info.expiryBlock ≤ c.pallet.block + cfg.lockDuration
  active : forall who info, c.pallet.validatorLocks.get who = some info ->
    info.status = ValidatorStatus.active ->
    c.pallet.block + cfg.lockDuration + (if c.swept then 1 else 0) ≤
      info.expiryBlock + cfg.renewInterval

theorem Window.live {c : Clocked cfg} (hc : Window c)
    (hlt : cfg.renewInterval < cfg.lockDuration) {who : AccountId}
    {info : LockInfo} (hget : c.pallet.validatorLocks.get who = some info)
    (hactive : info.status = ValidatorStatus.active) :
    c.pallet.block < info.expiryBlock := by
  have hwindow := hc.active who info hget hactive
  split at hwindow <;> lia

theorem genesis_window (hinterval : 0 < cfg.renewInterval) {g : State cfg}
    (hg : GenesisShape g) : Window { pallet := g, swept := true } := by
  have hseeded : (seededLock cfg).expiryBlock = cfg.lockDuration := by
    show satAdd cfg.maxBlock 0 cfg.lockDuration = cfg.lockDuration
    rw [satAdd_eq_add] <;> rw [Nat.zero_add]
    exact cfg.lockDuration_le
  constructor
  · rw [hg.block, Nat.zero_add]
    exact cfg.lockDuration_le
  · intro who info hget
    rw [((hg.record who info).mp hget).right, hseeded, hg.block, Nat.zero_add]
  · intro who info hget _
    rw [((hg.record who info).mp hget).right, hseeded, hg.block]
    simp only [if_true]
    lia

theorem step_block_of_withinBlock {label : Label AccountId}
    (hwithin : label.WithinBlock) (s : State cfg) :
    (step s label).block = s.block := by
  have hcase := step_cases (allowed_of_withinBlock hwithin s)
  generalize step s label = t at hcase ⊢
  cases hcase with
  | locked env who hguards => rfl
  | exited who info hget hactive => rfl
  | flagged who hactive => rfl
  | boundary env => exact (newSession_effect env s).block
  | swept => cases hwithin
  | advanced block hle hmax => cases hwithin
  | idle label t hsame => exact hsame.block

theorem freshLock_expiry_of_window {c : Clocked cfg} (hc : Window c)
    (who : AccountId) :
    (freshLock c.pallet who).expiryBlock =
      c.pallet.block + cfg.lockDuration := by
  have hfresh := satAdd_eq_add hc.unsaturated
  simp only [freshLock, lockTerms]
  cases hget : c.pallet.validatorLocks.get who with
  | none => exact hfresh
  | some previous =>
      have hle := hc.expiry_le who previous hget
      show max previous.expiryBlock _ = _
      rw [hfresh]
      exact max_eq_right hle

theorem tick_window_withinBlock {c : Clocked cfg} {label : Label AccountId}
    (hwithin : label.WithinBlock) (hinterval : 0 < cfg.renewInterval)
    (hc : Window c) : Window (tick c label) := by
  have hallowed := allowed_of_withinBlock hwithin c.pallet
  have hblock := step_block_of_withinBlock hwithin c.pallet
  have hswept : (tick c label).swept = c.swept :=
    sweptAfter_of_withinBlock hwithin c.swept
  have hrecord : forall who info,
      (step c.pallet label).validatorLocks.get who = some info ->
        info.expiryBlock ≤ c.pallet.block + cfg.lockDuration ∧
        (info.status = ValidatorStatus.active ->
          c.pallet.block + cfg.lockDuration + (if c.swept then 1 else 0) ≤
            info.expiryBlock + cfg.renewInterval) := by
    intro who info hget
    have hcase := step_record hallowed who
    rw [hget] at hcase
    generalize hafter : some info = after at hcase
    cases hcase with
    | kept label =>
        exact ⟨hc.expiry_le who info hafter.symm,
          hc.active who info hafter.symm⟩
    | locked env hguards =>
        cases hafter
        rw [freshLock_expiry_of_window hc who]
        refine ⟨Nat.le_refl _, ?_⟩
        intro _
        split <;> lia
    | exited before hbefore hactive =>
        cases hafter
        exact ⟨hc.expiry_le who before hbefore, fun h => by cases h⟩
    | swept =>
        cases hwithin
    | removed env before status hbefore hactive hstatus =>
        cases hafter
        exact ⟨hc.expiry_le who before hbefore, fun h => absurd h hstatus⟩
  constructor
  · show (step c.pallet label).block + _ ≤ _
    rw [hblock]
    exact hc.unsaturated
  · intro who info hget
    show _ ≤ (step c.pallet label).block + _
    rw [hblock]
    exact (hrecord who info hget).left
  · intro who info hget hactive
    show (step c.pallet label).block + _ + _ ≤ _
    rw [hblock, hswept]
    exact (hrecord who info hget).right hactive

theorem sweepLock_window {c : Clocked cfg} (hc : Window c)
    (hinterval : 0 < cfg.renewInterval)
    (hlt : cfg.renewInterval < cfg.lockDuration) {who : AccountId}
    {before : LockInfo}
    (hget : c.pallet.validatorLocks.get who = some before)
    (hactive : before.status = ValidatorStatus.active) :
    exists info, sweepLock cfg c.pallet.block before = some info ∧
      info.status = ValidatorStatus.active ∧
      info.expiryBlock ≤ c.pallet.block + cfg.lockDuration ∧
      c.pallet.block + cfg.lockDuration <
        info.expiryBlock + cfg.renewInterval := by
  have hlive := hc.live hlt hget hactive
  have hle := hc.expiry_le who before hget
  unfold sweepLock
  rw [if_neg (Nat.not_le.mpr hlive)]
  by_cases hdue : RenewalDue cfg c.pallet.block before
  · rw [if_pos hdue]
    have hrenewed : (renewed cfg c.pallet.block before).expiryBlock =
        c.pallet.block + cfg.lockDuration :=
      satAdd_eq_add hc.unsaturated
    refine ⟨_, rfl, hactive, Nat.le_of_eq hrenewed, ?_⟩
    rw [hrenewed]
    lia
  · rw [if_neg hdue]
    refine ⟨_, rfl, hactive, hle, ?_⟩
    -- not due although `Active` and live: the window has not been used up
    have hfresh : ¬ cfg.renewInterval ≤
        cfg.lockDuration - (before.expiryBlock - c.pallet.block) := by
      intro helapsed
      exact hdue ⟨hlive, by lia, hactive, helapsed⟩
    lia

theorem tick_window {c : Clocked cfg} {label : Label AccountId}
    (hconsecutive : Consecutive c label)
    (hinterval : 0 < cfg.renewInterval)
    (hlt : cfg.renewInterval < cfg.lockDuration) (hc : Window c) :
    Window (tick c label) := by
  rcases label.cases_block with ⟨block, rfl⟩ | rfl | hwithin
  · rcases hconsecutive with ⟨hswept, rfl, hfits, _⟩
    constructor
    · exact hfits
    · intro who info hget
      have hle := hc.expiry_le who info hget
      show info.expiryBlock ≤ c.pallet.block + 1 + cfg.lockDuration
      lia
    · intro who info hget hactive
      have hwindow := hc.active who info hget hactive
      rw [hswept] at hwindow
      simp only [if_true] at hwindow
      show c.pallet.block + 1 + cfg.lockDuration + 0 ≤ _
      lia
  · have hblock : (tick c Label.onInitialize).pallet.block =
        c.pallet.block :=
      (onInitialize_sameBesidesLocks c.pallet.block c.pallet).block
    constructor
    · rw [hblock]
      exact hc.unsaturated
    · intro who info hget
      rcases get_onInitialize_eq_some hget with ⟨before, hbefore, hafter⟩
      rw [hblock]
      rcases sweepLock_eq_some hafter with ⟨_, rfl | ⟨_, rfl⟩⟩
      · exact hc.expiry_le who _ hbefore
      · exact satAdd_le_add _ _ _
    · intro who info hget hactive
      rcases get_onInitialize_eq_some hget with ⟨before, hbefore, hafter⟩
      rcases sweepLock_window hc hinterval hlt hbefore
          ((sweepLock_status hafter).symm.trans hactive) with
        ⟨info', hinfo', _, _, hwindow⟩
      rw [hafter] at hinfo'
      cases hinfo'
      rw [hblock]
      exact hwindow
  · exact tick_window_withinBlock hwithin hinterval hc

theorem ChainReachedBy.window (hinterval : 0 < cfg.renewInterval)
    (hlt : cfg.renewInterval < cfg.lockDuration)
    {initialValidators : List AccountId} {labels : List (Label AccountId)}
    {c : Clocked cfg} (h : ChainReachedBy initialValidators labels c) :
    Window c := by
  rcases h with ⟨g, hbuild, hrun⟩
  exact hrun.preserves Window
    (fun _ _ hconsecutive => tick_window hconsecutive hinterval hlt)
    (genesis_window hinterval (build_genesisShape hbuild))

/-!
## Locks on their way out
-/

def SweptAt (e : Nat) (c : Clocked cfg) : Prop :=
  e < c.pallet.block ∨ (e = c.pallet.block ∧ c.swept = true)

instance (e : Nat) (c : Clocked cfg) : Decidable (SweptAt e c) :=
  inferInstanceAs (Decidable (_ ∨ _))

def LocksAgain (who : AccountId) (c : Clocked cfg)
    (label : Label AccountId) : Prop :=
  exists env t, label = Label.lock env (Origin.signed who) ∧
    lock env (Origin.signed who) c.pallet = Except.ok t

/-- The record `info` waits for its expiry block, on which the hook removes
it. -/
def Waiting (who : AccountId) (info : LockInfo) (c : Clocked cfg) : Prop :=
  c.pallet.validatorLocks.get who =
    if SweptAt info.expiryBlock c then none else some info

theorem sweptAt_advance {e : Nat} {c : Clocked cfg} (hswept : c.swept = true) :
    SweptAt e (tick c (Label.advance (c.pallet.block + 1))) <->
      SweptAt e c := by
  show e < c.pallet.block + 1 ∨ (e = c.pallet.block + 1 ∧ false = true) <-> _
  unfold SweptAt
  rw [hswept]
  simp only [Bool.false_eq_true, and_false, or_false, and_true]
  lia

omit [DecidableEq AccountId] in
theorem sweptAt_of_unswept {e : Nat} {c : Clocked cfg}
    (hswept : c.swept = false) : SweptAt e c <-> e < c.pallet.block := by
  unfold SweptAt
  rw [hswept]
  simp

theorem sweptAt_onInitialize {e : Nat} {c : Clocked cfg} :
    SweptAt e (tick c Label.onInitialize) <-> e ≤ c.pallet.block := by
  have hblock : (tick c Label.onInitialize).pallet.block = c.pallet.block :=
    (onInitialize_sameBesidesLocks c.pallet.block c.pallet).block
  have hswept : (tick c Label.onInitialize).swept = true := rfl
  unfold SweptAt
  rw [hblock, hswept]
  simp only [and_true]
  lia

theorem sweptAt_withinBlock {e : Nat} {c : Clocked cfg}
    {label : Label AccountId} (hwithin : label.WithinBlock) :
    SweptAt e (tick c label) <-> SweptAt e c := by
  have hblock : (tick c label).pallet.block = c.pallet.block :=
    step_block_of_withinBlock hwithin c.pallet
  have hswept : (tick c label).swept = c.swept :=
    sweptAfter_of_withinBlock hwithin c.swept
  unfold SweptAt
  rw [hblock, hswept]

/-- Nothing but its owner's `lock` and the hook of its expiry block touches a
record that has left `Active`. -/
theorem tick_waiting {c : Clocked cfg} {label : Label AccountId}
    (hconsecutive : Consecutive c label) {who : AccountId} {info : LockInfo}
    (hnolock : ¬ LocksAgain who c label)
    (hstatus : info.status ≠ ValidatorStatus.active)
    (hc : Waiting who info c) : Waiting who info (tick c label) := by
  have hnotActive : forall before,
      c.pallet.validatorLocks.get who = some before ->
        before.status ≠ ValidatorStatus.active := by
    intro before hbefore
    rw [hc] at hbefore
    split at hbefore
    · cases hbefore
    · cases hbefore
      exact hstatus
  rcases label.cases_block with ⟨block, rfl⟩ | rfl | hwithin
  · rcases hconsecutive with ⟨hswept, rfl, _, _⟩
    unfold Waiting
    simp only [sweptAt_advance hswept]
    exact hc
  · unfold Waiting
    simp only [sweptAt_onInitialize]
    refine (get_onInitialize c.pallet.block c.pallet who).trans ?_
    rw [hc]
    simp only [sweptAt_of_unswept hconsecutive]
    by_cases hpast : info.expiryBlock < c.pallet.block
    · rw [if_pos hpast, if_pos (Nat.le_of_lt hpast)]
      rfl
    · rw [if_neg hpast, Option.bind_some]
      unfold sweepLock
      by_cases hdue : info.expiryBlock ≤ c.pallet.block
      · rw [if_pos hdue, if_pos hdue]
      · rw [if_neg hdue, if_neg hdue]
        apply if_neg
        intro hrenew
        exact hstatus hrenew.right.right.left
  · have hallowed := allowed_of_withinBlock hwithin c.pallet
    have hcase := step_record hallowed who
    have hkept : (step c.pallet label).validatorLocks.get who =
        c.pallet.validatorLocks.get who := by
      generalize (step c.pallet label).validatorLocks.get who = after at hcase ⊢
      cases hcase with
      | kept label => rfl
      | locked env hguards =>
          exact absurd ⟨env, _, rfl,
            lock_eq_ok_iff.mpr ⟨who, rfl, hguards, rfl⟩⟩ hnolock
      | exited before hbefore hactive =>
          exact absurd hactive (hnotActive before hbefore)
      | swept => cases hwithin
      | removed env before status hbefore hactive _ =>
          exact absurd hactive (hnotActive before hbefore)
    unfold Waiting
    simp only [sweptAt_withinBlock hwithin]
    exact hkept.trans hc

theorem step_leaves_active {s : State cfg} {label : Label AccountId}
    (hallowed : Allowed s label) {who : AccountId} {info : LockInfo}
    (hget : s.validatorLocks.get who = some info)
    (hactive : info.status = ValidatorStatus.active)
    (hlive : s.block < info.expiryBlock)
    (hleft : (step s label).isActive who = false) :
    label.WithinBlock ∧
      exists status, status ≠ ValidatorStatus.active ∧
        (step s label).validatorLocks.get who =
          some { info with status := status } := by
  have hinactive : forall info',
      (step s label).validatorLocks.get who = some info' ->
        info'.status ≠ ValidatorStatus.active := by
    intro info' hget' hactive'
    have := State.isActive_eq_true.mpr ⟨info', hget', hactive'⟩
    rw [hleft] at this
    cases this
  have hcase := step_record hallowed who
  generalize (step s label).validatorLocks.get who = after
    at hcase hinactive ⊢
  cases hcase with
  | kept label =>
      exact absurd hactive (hinactive info hget)
  | locked env hguards =>
      exact absurd rfl (hinactive _ rfl)
  | exited before hbefore _ =>
      rw [hget] at hbefore
      cases hbefore
      exact ⟨True.intro, _, by simp, rfl⟩
  | swept =>
      exfalso
      rw [hget, Option.bind_some] at hinactive
      unfold sweepLock at hinactive
      rw [if_neg (Nat.not_le.mpr hlive)] at hinactive
      split at hinactive
      · exact hinactive _ rfl hactive
      · exact hinactive _ rfl hactive
  | removed env before status hbefore _ hstatus =>
      rw [hget] at hbefore
      cases hbefore
      exact ⟨True.intro, status, hstatus, rfl⟩

/-- Right after the hook an `Active` lock has between `LockDuration -
RenewInterval` (exclusive) and `LockDuration` blocks left, so the hook never
releases one.  A lock that leaves `Active` keeps amount and expiry until its
owner locks again or the hook of its expiry block removes it, together with the
balance lock. -/
theorem active_never_lapses_and_others_end_on_time
    (hlawful : cfg.currency.Lawful) (hinterval : 0 < cfg.renewInterval)
    (hlt : cfg.renewInterval < cfg.lockDuration)
    {initialValidators : List AccountId} {labels : List (Label AccountId)}
    {c : Clocked cfg} (hc : ChainReachedBy initialValidators labels c) :
    (c.swept = false ->
      (forall who info,
        (onInitialize c.pallet.block c.pallet).2.validatorLocks.get who =
          some info ->
        info.status = ValidatorStatus.active ->
        cfg.lockDuration - cfg.renewInterval <
            info.expiryBlock - c.pallet.block ∧
          info.expiryBlock - c.pallet.block ≤ cfg.lockDuration) ∧
      (forall who, c.pallet.isActive who = true ->
        (onInitialize c.pallet.block c.pallet).2.isActive who = true)) ∧
    (forall label, Consecutive c label ->
      forall who info, c.pallet.validatorLocks.get who = some info ->
        info.status = ValidatorStatus.active ->
        (tick c label).pallet.isActive who = false ->
        exists info', (tick c label).pallet.validatorLocks.get who =
            some info' ∧
          info'.amount = info.amount ∧
          info'.expiryBlock = info.expiryBlock ∧
          forall later d,
            Run (fun u next => Consecutive u next ∧ ¬ LocksAgain who u next)
              tick (tick c label) later d ->
            d.pallet.validatorLocks.get who =
                (if SweptAt info.expiryBlock d then none else some info') ∧
              cfg.currency.lockOf cfg.lockId who d.pallet.currency =
                heldLock
                  (if SweptAt info.expiryBlock d then none
                    else some info')) := by
  have hwindow := hc.window hinterval hlt
  constructor
  · intro _
    constructor
    · intro who info hget hactive
      rcases get_onInitialize_eq_some hget with ⟨before, hbefore, hafter⟩
      rcases sweepLock_window hwindow hinterval hlt hbefore
          ((sweepLock_status hafter).symm.trans hactive) with
        ⟨info', hinfo', _, hle, hgt⟩
      rw [hafter] at hinfo'
      cases hinfo'
      constructor <;> lia
    · intro who hactive
      rcases State.isActive_eq_true.mp hactive with ⟨before, hbefore, hstatus⟩
      rcases sweepLock_window hwindow hinterval hlt hbefore hstatus with
        ⟨info, hafter, hinfo, _, _⟩
      apply State.isActive_eq_true.mpr
      refine ⟨info, ?_, hinfo⟩
      rw [get_onInitialize, hbefore]
      exact hafter
  · intro label hconsecutive who info hget hactive hleft
    have hlive := hwindow.live hlt hget hactive
    rcases step_leaves_active (allowed_of_consecutive hconsecutive) hget hactive
        hlive hleft with ⟨hwithin, status, hstatus, hafter⟩
    refine ⟨_, hafter, rfl, rfl, ?_⟩
    intro later d hrun
    have hnotSwept : ¬ SweptAt info.expiryBlock (tick c label) := by
      rw [sweptAt_withinBlock hwithin]
      unfold SweptAt
      lia
    have hstart : Waiting who { info with status := status } (tick c label) := by
      unfold Waiting
      rw [if_neg hnotSwept]
      exact hafter
    have hwaiting : Waiting who { info with status := status } d :=
      hrun.preserves (Waiting who { info with status := status })
        (fun _ _ hnext => tick_waiting hnext.left hnext.right hstatus) hstart
    refine ⟨hwaiting, ?_⟩
    -- the balance lock follows the record by the bookkeeping invariant
    have htail : Run Consecutive tick (tick c label) later d :=
      hrun.mono (fun _ _ hnext => hnext.left)
    have hall := hc.append (Run.cons hconsecutive htail)
    rw [hall.pallet.bookkeeping hlawful who, hwaiting]

/-- Account 2 joins in block 0 and exits in block 1, before the hook runs: both
it and the sitting account 1 keep their locks through the hook. -/
theorem exit_before_hook_keeps_locks :
    let opened : Clocked mockConfig := tick (tick ⟨mockGenesis, true⟩
      (Label.lock mockEnvironment (Origin.signed 2))) (Label.advance 1)
    let exited := tick opened (Label.requestExit (Origin.signed 2))
    let swept := tick exited Label.onInitialize
    (onInitialize opened.pallet.block opened.pallet).2.isActive 1 = true ∧
      exists info', exited.pallet.validatorLocks.get 2 = some info' ∧
        info'.expiryBlock = 10 ∧
        swept.pallet.validatorLocks.get 2 = some info' := by
  intro opened exited swept
  have hreached : ChainReachedBy [1]
      [Label.lock mockEnvironment (Origin.signed 2), Label.advance 1] opened :=
    ⟨mockGenesis, build_mockGenesis,
      Run.cons True.intro (Run.single ⟨rfl, rfl, by decide, by decide⟩)⟩
  have hmain := active_never_lapses_and_others_end_on_time mapCurrency_lawful
    (by decide) (by decide) hreached
  have hget : opened.pallet.validatorLocks.get 2 =
      some ⟨1000, 0, 10, ValidatorStatus.active⟩ := by decide
  refine ⟨(hmain.left (by decide)).right 1 (by decide), ?_⟩
  rcases hmain.right (Label.requestExit (Origin.signed 2)) True.intro 2 _ hget
      rfl (by decide) with ⟨info', hexited, _, hexpiry, hlater⟩
  have hnolock : ¬ LocksAgain 2 exited Label.onInitialize := by
    rintro ⟨_, _, hlabel, _⟩
    cases hlabel
  have hrest := hlater [Label.onInitialize] swept
    (Run.single ⟨rfl, hnolock⟩)
  refine ⟨info', hexited, hexpiry, hrest.left.trans ?_⟩
  exact if_neg (by decide)

end Validator
end Numen
