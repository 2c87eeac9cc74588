import Numen.Foundation.Folds
import Numen.Validator.Pallet

/-!
# What the block hook does to one account

`on_initialize` is a scan followed by two write loops.  Seen from a single
account it is one decision on the account's own record, `sweepLock`, because
every key comes up exactly once in the scan.
-/

namespace Numen
namespace Validator

open Foundation

variable {AccountId Locks : Type}
variable {cfg : Config AccountId Locks}

/-- Whether the scan puts a record on the renewal list. -/
def RenewalDue (cfg : Config AccountId Locks) (now : Nat)
    (info : LockInfo) : Prop :=
  now < info.expiryBlock ∧ cfg.renewInterval ≠ 0 ∧
    info.status = ValidatorStatus.active ∧
    cfg.renewInterval ≤ cfg.lockDuration - (info.expiryBlock - now)

instance (now : Nat) (info : LockInfo) : Decidable (RenewalDue cfg now info) :=
  inferInstanceAs (Decidable (_ ∧ _ ∧ _ ∧ _))

def renewed (cfg : Config AccountId Locks) (now : Nat)
    (info : LockInfo) : LockInfo :=
  { info with expiryBlock := satAdd cfg.maxBlock now cfg.lockDuration }

/-- What the hook leaves of one record: nothing once it has expired, the
renewed record when a renewal is due, and the record itself otherwise. -/
def sweepLock (cfg : Config AccountId Locks) (now : Nat)
    (info : LockInfo) : Option LockInfo :=
  if info.expiryBlock ≤ now then
    none
  else if RenewalDue cfg now info then
    some (renewed cfg now info)
  else
    some info

theorem sweepLock_eq_some {now : Nat} {before info : LockInfo}
    (h : sweepLock cfg now before = some info) :
    now < before.expiryBlock ∧
      (before = info ∨
        (RenewalDue cfg now before ∧ renewed cfg now before = info)) := by
  unfold sweepLock at h
  split at h
  · cases h
  · rename_i hlive
    refine ⟨Nat.not_le.mp hlive, ?_⟩
    split at h
    · rename_i hdue
      exact Or.inr ⟨hdue, Option.some.inj h⟩
    · exact Or.inl (Option.some.inj h)

theorem sweepLock_status {now : Nat} {before info : LockInfo}
    (h : sweepLock cfg now before = some info) :
    info.status = before.status := by
  rcases sweepLock_eq_some h with ⟨_, rfl | ⟨_, rfl⟩⟩
  · rfl
  · rfl

/-!
## The scan
-/

theorem mem_toRelease_scanLock (cfg : Config AccountId Locks) (now : Nat)
    (release : AccountId × Nat) (sweep : Sweep AccountId)
    (entry : AccountId × LockInfo) :
    release ∈ (scanLock cfg now sweep entry).toRelease <->
      release ∈ sweep.toRelease ∨
        (entry.2.expiryBlock ≤ now ∧ release = (entry.1, entry.2.amount)) := by
  unfold scanLock
  by_cases hexpired : entry.2.expiryBlock ≤ now
  · simp [hexpired]
  · simp only [hexpired, if_false, false_and, or_false]
    split
    · rfl
    · split <;> rfl

theorem mem_toRenew_scanLock (cfg : Config AccountId Locks) (now : Nat)
    (who : AccountId) (sweep : Sweep AccountId)
    (entry : AccountId × LockInfo) :
    who ∈ (scanLock cfg now sweep entry).toRenew <->
      who ∈ sweep.toRenew ∨ (RenewalDue cfg now entry.2 ∧ who = entry.1) := by
  unfold scanLock RenewalDue
  by_cases hexpired : entry.2.expiryBlock ≤ now
  · have hnot : ¬ now < entry.2.expiryBlock := Nat.not_lt.mpr hexpired
    simp [hexpired, hnot]
  · have hlt : now < entry.2.expiryBlock := Nat.not_le.mp hexpired
    by_cases hzero : cfg.renewInterval = 0
    · simp [hexpired, hzero]
    · by_cases hactive : entry.2.status = ValidatorStatus.active
      · by_cases hdue : cfg.renewInterval ≤
            cfg.lockDuration - (entry.2.expiryBlock - now)
        · simp [hexpired, hzero, hactive, hdue, hlt]
        · simp [hexpired, hzero, hactive, hdue]
      · simp [hexpired, hzero, hactive]

variable [DecidableEq AccountId]

theorem mem_toRelease_scanLocks (now : Nat) (s : State cfg) (who : AccountId) :
    who ∈ (scanLocks now s).toRelease.map Prod.fst <->
      exists info, s.validatorLocks.get who = some info ∧
        info.expiryBlock ≤ now := by
  have hcollect := fun release : AccountId × Nat => foldl_collects
    (fun sweep : Sweep AccountId => release ∈ sweep.toRelease)
    (fun entry : AccountId × LockInfo =>
      entry.2.expiryBlock ≤ now ∧ release = (entry.1, entry.2.amount))
    (mem_toRelease_scanLock cfg now release) s.validatorLocks.iter
    { scanned := 0, toRelease := [], toRenew := [] }
  rw [List.mem_map]
  constructor
  · rintro ⟨release, hmem, rfl⟩
    rcases (hcollect release).mp hmem with hnil | ⟨entry, hentry, hexpired, heq⟩
    · cases hnil
    · subst heq
      exact ⟨entry.2, StorageMap.mem_iter.mp hentry, hexpired⟩
  · rintro ⟨info, hget, hexpired⟩
    have hmem : (who, info.amount) ∈ (scanLocks now s).toRelease :=
      (hcollect (who, info.amount)).mpr
        (Or.inr ⟨(who, info), StorageMap.mem_iter.mpr hget, hexpired, rfl⟩)
    exact ⟨_, hmem, rfl⟩

theorem mem_toRenew_scanLocks (now : Nat) (s : State cfg) (who : AccountId) :
    who ∈ (scanLocks now s).toRenew <->
      exists info, s.validatorLocks.get who = some info ∧
        RenewalDue cfg now info := by
  have hcollect := foldl_collects
    (fun sweep : Sweep AccountId => who ∈ sweep.toRenew)
    (fun entry : AccountId × LockInfo =>
      RenewalDue cfg now entry.2 ∧ who = entry.1)
    (mem_toRenew_scanLock cfg now who) s.validatorLocks.iter
    { scanned := 0, toRelease := [], toRenew := [] }
  constructor
  · intro hmem
    rcases hcollect.mp hmem with hnil | ⟨entry, hentry, hdue, heq⟩
    · cases hnil
    · subst heq
      exact ⟨entry.2, StorageMap.mem_iter.mp hentry, hdue⟩
  · rintro ⟨info, hget, hdue⟩
    exact hcollect.mpr
      (Or.inr ⟨(who, info), StorageMap.mem_iter.mpr hget, hdue, rfl⟩)

/-!
## The write loops
-/

theorem get_foldl_releaseLock (releases : List (AccountId × Nat))
    (s : State cfg) (who : AccountId) :
    (releases.foldl releaseLock s).validatorLocks.get who =
      if who ∈ releases.map Prod.fst then none
      else s.validatorLocks.get who :=
  foldl_reaches Prod.fst who
    (fun t : State cfg => t.validatorLocks.get who) (fun _ => none)
    (fun _ => rfl) (fun _ _ => StorageMap.get_remove _ _ _) releases s

theorem get_renewLock (now : Nat) (s : State cfg) (other who : AccountId) :
    (renewLock now s other).validatorLocks.get who =
      if who = other then (s.validatorLocks.get who).map (renewed cfg now)
      else s.validatorLocks.get who := by
  unfold renewLock
  cases hget : s.validatorLocks.get other with
  | none =>
      by_cases hself : who = other
      · simp [hself, hget]
      · simp [hself]
  | some info =>
      refine (StorageMap.get_insert _ _ _ _).trans ?_
      by_cases hself : who = other
      · simp [hself, hget, renewed]
      · simp [hself]

theorem get_foldl_renewLock (now : Nat) (renewals : List AccountId)
    (s : State cfg) (who : AccountId) :
    (renewals.foldl (renewLock now) s).validatorLocks.get who =
      if who ∈ renewals then
        (s.validatorLocks.get who).map (renewed cfg now)
      else s.validatorLocks.get who := by
  -- renewing twice in one sweep is renewing once
  have hidem : forall lock : Option LockInfo,
      (lock.map (renewed cfg now)).map (renewed cfg now) =
        lock.map (renewed cfg now) := by
    intro lock
    cases lock with
    | none => rfl
    | some info => rfl
  have hfold := foldl_reaches id who
    (fun t : State cfg => t.validatorLocks.get who)
    (Option.map (renewed cfg now)) hidem
    (fun t other => get_renewLock now t other who) renewals s
  rw [List.map_id] at hfold
  exact hfold

theorem get_onInitialize (now : Nat) (s : State cfg) (who : AccountId) :
    (onInitialize now s).2.validatorLocks.get who =
      (s.validatorLocks.get who).bind (sweepLock cfg now) := by
  show ((scanLocks now s).toRenew.foldl (renewLock now)
    ((scanLocks now s).toRelease.foldl releaseLock s)).validatorLocks.get who = _
  rw [get_foldl_renewLock, get_foldl_releaseLock]
  simp only [mem_toRelease_scanLocks, mem_toRenew_scanLocks]
  cases hget : s.validatorLocks.get who with
  | none =>
      simp
  | some info =>
      by_cases hexpired : info.expiryBlock ≤ now
      · simp [sweepLock, hexpired]
      · by_cases hdue : RenewalDue cfg now info
        · simp [sweepLock, hexpired, hdue]
        · simp [sweepLock, hexpired, hdue]

theorem get_onInitialize_eq_some {now : Nat} {s : State cfg}
    {who : AccountId} {info : LockInfo}
    (h : (onInitialize now s).2.validatorLocks.get who = some info) :
    exists before, s.validatorLocks.get who = some before ∧
      sweepLock cfg now before = some info := by
  rw [get_onInitialize] at h
  exact Option.bind_eq_some_iff.mp h

/-!
## What the hook leaves alone
-/

theorem isActive_of_isActive_onInitialize {now : Nat} {s : State cfg}
    {who : AccountId} (hactive : (onInitialize now s).2.isActive who = true) :
    s.isActive who = true := by
  rcases State.isActive_eq_true.mp hactive with ⟨info, hget, hstatus⟩
  rcases get_onInitialize_eq_some hget with ⟨before, hbefore, hafter⟩
  exact State.isActive_eq_true.mpr
    ⟨before, hbefore, (sweepLock_status hafter).symm.trans hstatus⟩

/-- Equal storage apart from the lock records, the currency and the events. -/
structure SameBesidesLocks (s t : State cfg) : Prop where
  block : t.block = s.block
  pendingValidators : t.pendingValidators = s.pendingValidators
  desiredValidators : t.desiredValidators = s.desiredValidators
  stakeExemptAccounts : t.stakeExemptAccounts = s.stakeExemptAccounts
  rejoinCooldown : t.rejoinCooldown = s.rejoinCooldown
  offlineSessionCount : t.offlineSessionCount = s.offlineSessionCount
  offlineThisSession : t.offlineThisSession = s.offlineThisSession
  equivocationThisSession :
    t.equivocationThisSession = s.equivocationThisSession

omit [DecidableEq AccountId] in
theorem SameBesidesLocks.refl (s : State cfg) : SameBesidesLocks s s := by
  constructor <;> rfl

omit [DecidableEq AccountId] in
theorem SameBesidesLocks.trans {s t u : State cfg}
    (hst : SameBesidesLocks s t) (htu : SameBesidesLocks t u) :
    SameBesidesLocks s u where
  block := htu.block.trans hst.block
  pendingValidators := htu.pendingValidators.trans hst.pendingValidators
  desiredValidators := htu.desiredValidators.trans hst.desiredValidators
  stakeExemptAccounts := htu.stakeExemptAccounts.trans hst.stakeExemptAccounts
  rejoinCooldown := htu.rejoinCooldown.trans hst.rejoinCooldown
  offlineSessionCount := htu.offlineSessionCount.trans hst.offlineSessionCount
  offlineThisSession := htu.offlineThisSession.trans hst.offlineThisSession
  equivocationThisSession :=
    htu.equivocationThisSession.trans hst.equivocationThisSession

theorem renewLock_sameBesidesLocks (now : Nat) (s : State cfg)
    (who : AccountId) : SameBesidesLocks s (renewLock now s who) := by
  unfold renewLock
  cases s.validatorLocks.get who with
  | none => exact SameBesidesLocks.refl s
  | some info => constructor <;> rfl

theorem onInitialize_sameBesidesLocks (now : Nat) (s : State cfg) :
    SameBesidesLocks s (onInitialize now s).2 := by
  have hrelease : SameBesidesLocks s
      ((scanLocks now s).toRelease.foldl releaseLock s) := by
    apply foldl_related SameBesidesLocks SameBesidesLocks.refl
      (fun _ _ _ => SameBesidesLocks.trans)
    intro acc release _
    constructor <;> rfl
  have hrenew := foldl_related SameBesidesLocks SameBesidesLocks.refl
    (fun _ _ _ => SameBesidesLocks.trans) (scanLocks now s).toRenew
    (fun acc who _ => renewLock_sameBesidesLocks now acc who)
    ((scanLocks now s).toRelease.foldl releaseLock s)
  exact hrelease.trans hrenew

end Validator
end Numen
