import Numen.Validator.Transitions

/-!
# The stake behind a lock record

Two promises to whoever relies on a validator's stake: the balance lock in the
currency is the one on record, and a commitment of amount `a` until block `e`
is not weakened before block `e`, whatever happens in between.
-/

namespace Numen
namespace Validator

open Foundation

variable {AccountId Locks : Type} [DecidableEq AccountId]
variable {cfg : Config AccountId Locks}

/-!
## Records and balance locks
-/

def heldLock : Option LockInfo -> Option Nat
  | some info => if info.amount = 0 then none else some info.amount
  | none => none

def Bookkeeping (s : State cfg) : Prop :=
  forall who, cfg.currency.lockOf cfg.lockId who s.currency =
    heldLock (s.validatorLocks.get who)

theorem currency_foldl_renewLock (now : Nat) (renewals : List AccountId)
    (s : State cfg) :
    (renewals.foldl (renewLock now) s).currency = s.currency := by
  apply foldl_preserves (fun t : State cfg => t.currency = s.currency)
  · intro acc who _ hacc
    unfold renewLock
    cases acc.validatorLocks.get who with
    | none => exact hacc
    | some info => exact hacc
  · rfl

theorem lockOf_foldl_releaseLock (hlawful : cfg.currency.Lawful)
    (releases : List (AccountId × Nat)) (s : State cfg) (who : AccountId) :
    cfg.currency.lockOf cfg.lockId who
        (releases.foldl releaseLock s).currency =
      if who ∈ releases.map Prod.fst then none
      else cfg.currency.lockOf cfg.lockId who s.currency := by
  refine foldl_reaches Prod.fst who
    (fun t : State cfg => cfg.currency.lockOf cfg.lockId who t.currency)
    (fun _ => none) (fun _ => rfl) ?_ releases s
  intro t release
  by_cases hself : who = release.1
  · rw [if_pos hself, hself]
    exact hlawful.lockOf_removeLock _ _ _
  · rw [if_neg hself]
    exact hlawful.lockOf_removeLock_of_ne _ _ _ _ hself

theorem onInitialize_bookkeeping (hlawful : cfg.currency.Lawful) (now : Nat)
    {s : State cfg} (hs : Bookkeeping s) :
    Bookkeeping (onInitialize now s).2 := by
  intro who
  have hcurrency : cfg.currency.lockOf cfg.lockId who
      (onInitialize now s).2.currency =
        if who ∈ (scanLocks now s).toRelease.map Prod.fst then none
        else cfg.currency.lockOf cfg.lockId who s.currency := by
    show cfg.currency.lockOf cfg.lockId who
      ((scanLocks now s).toRenew.foldl (renewLock now)
        ((scanLocks now s).toRelease.foldl releaseLock s)).currency = _
    rw [currency_foldl_renewLock]
    exact lockOf_foldl_releaseLock hlawful _ s who
  rw [hcurrency, get_onInitialize, hs who]
  simp only [mem_toRelease_scanLocks]
  cases hget : s.validatorLocks.get who with
  | none =>
      simp [heldLock]
  | some info =>
      by_cases hexpired : info.expiryBlock ≤ now
      · simp [sweepLock, hexpired, heldLock]
      · by_cases hdue : RenewalDue cfg now info
        · simp [sweepLock, hexpired, hdue, heldLock, renewed]
        · simp [sweepLock, hexpired, hdue, heldLock]

theorem genesis_bookkeeping (hlawful : cfg.currency.Lawful) {g : State cfg}
    (hg : GenesisShape g) : Bookkeeping g := by
  intro who
  rw [hg.currency, hlawful.lockOf_genesis]
  cases hget : g.validatorLocks.get who with
  | none =>
      rfl
  | some info =>
      have hinfo := ((hg.record who info).mp hget).right
      rw [hinfo]
      rfl

theorem step_bookkeeping (hlawful : cfg.currency.Lawful) {s : State cfg}
    {label : Label AccountId} (hallowed : Allowed s label)
    (hs : Bookkeeping s) : Bookkeeping (step s label) := by
  have hcase := step_cases hallowed
  generalize step s label = t at hcase ⊢
  cases hcase with
  | locked env caller hguards =>
      intro who
      rw [get_commitLock]
      by_cases hself : who = caller
      · subst hself
        rw [if_pos rfl]
        exact hlawful.lockOf_setLock _ _ _ _
      · rw [if_neg hself, ← hs who]
        exact hlawful.lockOf_setLock_of_ne _ _ _ _ _ hself
  | exited caller info hget hactive =>
      intro who
      have hcurrency : (commitExit s caller info).currency = s.currency := rfl
      rw [get_commitExit, hcurrency, hs who]
      by_cases hself : who = caller
      · subst hself
        rw [if_pos rfl, hget]
        rfl
      · rw [if_neg hself]
  | flagged who hactive =>
      exact hs
  | boundary env =>
      intro who
      have heffect := newSession_effect env s
      rw [heffect.currency, hs who]
      rcases heffect.account who with
        (⟨hlock, _⟩ | ⟨info, hget, _, hkicked, _⟩) | ⟨_, info, hget, _, hdropped⟩
      · rw [hlock]
      · rw [hkicked, hget]
        rfl
      · rw [hdropped, hget]
        rfl
  | swept =>
      exact onInitialize_bookkeeping hlawful s.block hs
  | advanced block hle hmax =>
      exact hs
  | idle label t hsame =>
      intro who
      rw [hsame.currency, hsame.validatorLocks]
      exact hs who

/-!
## Commitments
-/

/-- No record runs longer than one lock duration from now.  This is what makes
every renewal an extension. -/
def ExpiryBounded (s : State cfg) : Prop :=
  forall who info, s.validatorLocks.get who = some info ->
    info.expiryBlock ≤ satAdd cfg.maxBlock s.block cfg.lockDuration

theorem genesis_expiryBounded {g : State cfg} (hg : GenesisShape g) :
    ExpiryBounded g := by
  intro who info hget
  have hinfo := ((hg.record who info).mp hget).right
  rw [hinfo, hg.block]
  exact Nat.le_refl _

theorem lockTerms_expiry_le {s : State cfg} (hs : ExpiryBounded s)
    (who : AccountId) :
    (lockTerms s who).2 ≤ satAdd cfg.maxBlock s.block cfg.lockDuration := by
  unfold lockTerms
  cases hget : s.validatorLocks.get who with
  | none => exact Nat.le_refl _
  | some previous => exact max_le (hs who previous hget) (Nat.le_refl _)

theorem step_expiryBounded {s : State cfg} {label : Label AccountId}
    (hallowed : Allowed s label) (hs : ExpiryBounded s) :
    ExpiryBounded (step s label) := by
  intro who info hget
  have hblock : satAdd cfg.maxBlock s.block cfg.lockDuration ≤
      satAdd cfg.maxBlock (step s label).block cfg.lockDuration :=
    satAdd_mono_left _ (block_le_step hallowed)
  refine Nat.le_trans ?_ hblock
  have hrecord := step_record hallowed who
  rw [hget] at hrecord
  generalize hafter : some info = after at hrecord
  cases hrecord with
  | kept label =>
      exact hs who info hafter.symm
  | locked env hguards =>
      cases hafter
      exact lockTerms_expiry_le hs who
  | exited before hbefore hactive =>
      cases hafter
      exact hs who before hbefore
  | swept =>
      rcases Option.bind_eq_some_iff.mp hafter.symm with
        ⟨before, hbefore, hsweep⟩
      rcases sweepLock_eq_some hsweep with ⟨_, rfl | ⟨_, rfl⟩⟩
      · exact hs who _ hbefore
      · exact Nat.le_refl _
  | removed env before status hbefore hactive hstatus =>
      cases hafter
      exact hs who before hbefore

/-- Until block `e`, `who` has at least `a` locked until at least `e`. -/
def Committed (who : AccountId) (a e : Nat) (s : State cfg) : Prop :=
  s.block < e ->
    exists info, s.validatorLocks.get who = some info ∧
      a ≤ info.amount ∧ e ≤ info.expiryBlock

theorem freshLock_keeps {s : State cfg} {who : AccountId} {info : LockInfo}
    (hget : s.validatorLocks.get who = some info) :
    info.amount ≤ (freshLock s who).amount ∧
      info.expiryBlock ≤ (freshLock s who).expiryBlock := by
  simp only [freshLock, lockTerms, hget]
  exact ⟨le_max_left _ _, le_max_left _ _⟩

theorem step_committed {s : State cfg} {label : Label AccountId}
    (hallowed : Allowed s label) (hbounded : ExpiryBounded s)
    {who : AccountId} {a e : Nat} (hs : Committed who a e s) :
    Committed who a e (step s label) := by
  intro hbefore
  have hblock := Nat.lt_of_le_of_lt (block_le_step hallowed) hbefore
  rcases hs hblock with ⟨info, hget, hamount, hexpiry⟩
  have hrecord := step_record hallowed who
  generalize (step s label).validatorLocks.get who = after at hrecord ⊢
  cases hrecord with
  | kept label =>
      exact ⟨info, hget, hamount, hexpiry⟩
  | locked env hguards =>
      have hkeeps := freshLock_keeps hget
      exact ⟨_, rfl, Nat.le_trans hamount hkeeps.left,
        Nat.le_trans hexpiry hkeeps.right⟩
  | exited info' hget' hactive =>
      rw [hget] at hget'
      cases hget'
      exact ⟨_, rfl, hamount, hexpiry⟩
  | swept =>
      have hlive : ¬ info.expiryBlock ≤ s.block := by lia
      rw [hget, Option.bind_some]
      unfold sweepLock
      rw [if_neg hlive]
      by_cases hdue : RenewalDue cfg s.block info
      · rw [if_pos hdue]
        exact ⟨_, rfl, hamount, Nat.le_trans hexpiry (hbounded who info hget)⟩
      · rw [if_neg hdue]
        exact ⟨_, rfl, hamount, hexpiry⟩
  | removed env info' status hget' hactive hstatus =>
      rw [hget] at hget'
      cases hget'
      exact ⟨_, rfl, hamount, hexpiry⟩

theorem ReachedBy.bookkeeping (hlawful : cfg.currency.Lawful)
    {initialValidators : List AccountId} {labels : List (Label AccountId)}
    {s : State cfg} (hs : ReachedBy initialValidators labels s) :
    Bookkeeping s :=
  hs.invariant Bookkeeping (fun _ => genesis_bookkeeping hlawful)
    (fun _ _ hallowed => step_bookkeeping hlawful hallowed)

/-- In every state a run from genesis reaches, the balance locks are those on
record, and every commitment on record outlasts whatever comes later. -/
theorem stake_never_returned_early (hlawful : cfg.currency.Lawful)
    {initialValidators : List AccountId} {labels : List (Label AccountId)}
    {s : State cfg} (hs : ReachedBy initialValidators labels s) :
    (forall who, cfg.currency.lockOf cfg.lockId who s.currency =
      heldLock (s.validatorLocks.get who)) ∧
    (forall who info, s.validatorLocks.get who = some info ->
      forall later t, Run Allowed step s later t ->
        t.block < info.expiryBlock ->
        exists info', t.validatorLocks.get who = some info' ∧
          info.amount ≤ info'.amount ∧ info.expiryBlock ≤ info'.expiryBlock) := by
  constructor
  · exact hs.bookkeeping hlawful
  · intro who info hget later t hrun hlive
    have hbounded : ExpiryBounded s :=
      hs.invariant ExpiryBounded (fun _ => genesis_expiryBounded)
        (fun _ _ => step_expiryBounded)
    have hcommitted : Committed who info.amount info.expiryBlock s := by
      intro _
      exact ⟨info, hget, Nat.le_refl _, Nat.le_refl _⟩
    have hlater : ExpiryBounded t ∧
        Committed who info.amount info.expiryBlock t :=
      hrun.preserves
        (fun u => ExpiryBounded u ∧
          Committed who info.amount info.expiryBlock u)
        (fun _ _ hallowed hu => ⟨step_expiryBounded hallowed hu.left,
          step_committed hallowed hu.left hu.right⟩)
        ⟨hbounded, hcommitted⟩
    exact hlater.right hlive

/-- Account 2 locks and exits: its 1000 units stay locked until block 10. -/
theorem stake_of_exiting_candidate_stays_locked :
    let locked := step mockGenesis
      (Label.lock mockEnvironment (Origin.signed 2))
    let exited := step locked (Label.requestExit (Origin.signed 2))
    mockConfig.currency.lockOf mockConfig.lockId 2 locked.currency =
        some 1000 ∧
      exists info', exited.validatorLocks.get 2 = some info' ∧
        1000 ≤ info'.amount ∧ 10 ≤ info'.expiryBlock := by
  intro locked exited
  have hreached : ReachedBy [1]
      [Label.lock mockEnvironment (Origin.signed 2)] locked :=
    ⟨mockGenesis, build_mockGenesis, Run.single True.intro⟩
  have hstake := stake_never_returned_early mapCurrency_lawful hreached
  have hget : locked.validatorLocks.get 2 =
      some ⟨1000, 0, 10, ValidatorStatus.active⟩ := by decide
  constructor
  · rw [hstake.left 2, hget]
    rfl
  · exact hstake.right 2 _ hget [Label.requestExit (Origin.signed 2)] exited
      (Run.single True.intro) (by decide)

end Validator
end Numen
