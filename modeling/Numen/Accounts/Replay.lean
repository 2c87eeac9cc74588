import Numen.Accounts.CheckNonce
import Numen.Accounts.Reference
import Numen.Foundation.Runs

/-!
# Nonces never rewind

Accounts under signatures, claims, lifts and changes of balance.  Each step
keeps every nonce, raises one, or carries the nonce of an old account over to
the new one; the results about runs follow from that.
-/

namespace Numen
namespace Accounts

open Foundation

inductive Label where
  | sign (who : AccountId) (nonce : Nat)
  | claim (origin : Origin) (address : H160)
  | lift (who : AccountId)
  /-- Credits and debits that end in `after`. -/
  | balance (after : State)

section Runs

variable (pallets : Pallets) (inner : NonceCheck) (hasKey : AccountId -> Prop)

/-- A transaction or claim that fails leaves no trace. -/
def step (s : State) : Label -> State
  | Label.sign who nonce =>
      match CheckNonceKeepSigned.check pallets inner nonce
          (Origin.signed who) s with
      | Except.ok t => t
      | Except.error _ => s
  | Label.claim origin address =>
      match claim pallets origin address s with
      | Except.ok (_, t) => t
      | Except.error _ => s
  | Label.lift who => liftNonce pallets who s
  | Label.balance after => after

/-- Only holders of a key sign, and balances change as the balances pallet
changes them. -/
def Allowed (s : State) : Label -> Prop
  | Label.sign who _ => hasKey who
  | Label.balance after =>
      BalanceChange pallets.minimumBalance (fun _ => True) s after
  | _ => True

/-- What the hash is for: every H160 has a Frontier account of its own, which
is no account of pallet-revive and which nobody holds a key for. -/
structure FrontierAccounts : Prop where
  legacy_injective : forall a b,
    legacyAccount pallets a = legacyAccount pallets b -> a = b
  legacy_ne_revive : forall a b, legacyAccount pallets a ≠ reviveAccount b
  no_key : forall a, ¬ hasKey (legacyAccount pallets a)

end Runs

variable {pallets : Pallets} {inner : NonceCheck} {hasKey : AccountId -> Prop}

/-!
## One step
-/

inductive NonceCase (pallets : Pallets) (s t : State) : Prop where
  | kept : (forall who, t.nonce who = s.nonce who) -> NonceCase pallets s t
  | raised (who : AccountId) : Raised pallets who s t ->
      NonceCase pallets s t
  | carried (address : H160) : CarriedOver pallets address s t ->
      NonceCase pallets s t

theorem Raised.advance {who : AccountId} {s t : State}
    (h : Raised pallets who s t) :
    Raised pallets who s (Accounts.advance who t) where
  le := by
    rw [advance_nonce]
    exact Nat.le_succ_of_le h.le
  caught := by
    intro address heq hzero
    rw [advance_nonce]
    exact Nat.le_succ_of_le (h.caught address heq hzero)
  others := by
    intro other hne
    rw [advance_nonce_of_ne hne]
    exact h.others other hne

theorem Raised.nonce_le {signer : AccountId} {s t : State}
    (h : Raised pallets signer s t) (who : AccountId) :
    s.nonce who ≤ t.nonce who := by
  by_cases hself : who = signer
  · rw [hself]
    exact h.le
  · exact Nat.le_of_eq (h.others who hself).symm

theorem step_cases (hlawful : pallets.Lawful) (hinner : inner.Lawful)
    (hfrontier : FrontierAccounts pallets hasKey) {s : State} {label : Label}
    (hallowed : Allowed pallets hasKey s label)
    (hs : Anchored pallets.minimumBalance s) :
    Anchored pallets.minimumBalance (step pallets inner s label) ∧
      NonceCase pallets s (step pallets inner s label) := by
  cases label with
  | sign who nonce =>
      unfold step
      dsimp only
      split
      · rename_i t haccepted
        rw [(CheckNonceKeepSigned.check_ok hlawful hinner haccepted).right]
        exact ⟨advance_anchored who (liftNonce_anchored hlawful who hs),
          NonceCase.raised who (liftNonce_raised hlawful who s).advance⟩
      · exact ⟨hs, NonceCase.kept (fun _ => rfl)⟩
  | claim origin address =>
      unfold step
      dsimp only
      split
      · rename_i billed t hclaimed
        have hcarried := claim_carriedOver hlawful
          (hfrontier.legacy_ne_revive address address) hclaimed hs
        exact ⟨hcarried.left, NonceCase.carried address hcarried.right⟩
      · exact ⟨hs, NonceCase.kept (fun _ => rfl)⟩
  | lift who =>
      exact ⟨liftNonce_anchored hlawful who hs,
        NonceCase.raised who (liftNonce_raised hlawful who s)⟩
  | balance after =>
      have hkept := BalanceChange.keepsNonces hallowed hs
      exact ⟨hkept.left, NonceCase.kept hkept.right⟩

theorem NonceCase.nonce_le {who : AccountId}
    (hwho : forall address, who ≠ legacyAccount pallets address)
    {s t : State} (h : NonceCase pallets s t) :
    s.nonce who ≤ t.nonce who := by
  cases h with
  | kept hkept => exact Nat.le_of_eq (hkept who).symm
  | raised signer hraised => exact hraised.nonce_le who
  | carried address hcarried =>
      by_cases hself : who = reviveAccount address
      · rw [hself, hcarried.revive]
        exact Nat.le_max_right _ _
      · exact Nat.le_of_eq (hcarried.others who (hwho address) hself).symm

/-- The highest nonce an H160 reached, before or after its claim. -/
def highestNonce (pallets : Pallets) (address : H160) (s : State) : Nat :=
  max (s.nonce (legacyAccount pallets address))
    (s.nonce (reviveAccount address))

theorem reviveAccount_injective {a b : H160}
    (h : reviveAccount a = reviveAccount b) : a = b :=
  Bytes.append_left_injective reviveSuffix h

theorem CarriedOver.nonce_eq_of_ne (hfrontier : FrontierAccounts pallets hasKey)
    {address other : H160} (hne : other ≠ address) {s t : State}
    (h : CarriedOver pallets address s t) :
    t.nonce (legacyAccount pallets other) =
        s.nonce (legacyAccount pallets other) ∧
      t.nonce (reviveAccount other) = s.nonce (reviveAccount other) := by
  constructor
  · apply h.others
    · exact fun heq => hne (hfrontier.legacy_injective other address heq)
    · exact hfrontier.legacy_ne_revive other address
  · apply h.others
    · exact (hfrontier.legacy_ne_revive address other).symm
    · exact fun heq => hne (reviveAccount_injective heq)

theorem NonceCase.highestNonce_le (hfrontier : FrontierAccounts pallets hasKey)
    (address : H160) {s t : State} (h : NonceCase pallets s t) :
    highestNonce pallets address s ≤ highestNonce pallets address t := by
  unfold highestNonce
  cases h with
  | kept hkept => rw [hkept, hkept]
  | raised signer hraised =>
      exact max_le_max (hraised.nonce_le _) (hraised.nonce_le _)
  | carried claimed hcarried =>
      by_cases hself : address = claimed
      · rw [hself, hcarried.revive]
        exact Nat.le_max_right _ _
      · have heq := hcarried.nonce_eq_of_ne hfrontier hself
        rw [heq.left, heq.right]

/-- The new account is past `reached`, or at zero with the old one there. -/
def CaughtUp (pallets : Pallets) (address : H160) (reached : Nat)
    (s : State) : Prop :=
  reached ≤ s.nonce (reviveAccount address) ∨
    (s.nonce (reviveAccount address) = 0 ∧
      reached ≤ s.nonce (legacyAccount pallets address))

theorem NonceCase.caughtUp (hfrontier : FrontierAccounts pallets hasKey)
    {address : H160} {reached : Nat} {s t : State}
    (h : NonceCase pallets s t) (hs : CaughtUp pallets address reached s) :
    CaughtUp pallets address reached t := by
  unfold CaughtUp at hs ⊢
  cases h with
  | kept hkept =>
      rw [hkept, hkept]
      exact hs
  | raised signer hraised =>
      by_cases hsigner : signer = reviveAccount address
      · left
        rcases hs with hpast | ⟨hzero, hlegacy⟩
        · rw [← hsigner] at hpast ⊢
          exact Nat.le_trans hpast hraised.le
        · rw [← hsigner] at hzero ⊢
          exact Nat.le_trans hlegacy (hraised.caught address hsigner hzero)
      · rw [hraised.others _ (Ne.symm hsigner)]
        rcases hs with hpast | ⟨hzero, hlegacy⟩
        · exact Or.inl hpast
        · refine Or.inr ⟨hzero, ?_⟩
          exact Nat.le_trans hlegacy (hraised.nonce_le _)
  | carried claimed hcarried =>
      by_cases hself : address = claimed
      · left
        rw [hself] at hs ⊢
        rw [hcarried.revive]
        rcases hs with hpast | ⟨_, hlegacy⟩
        · exact Nat.le_trans hpast (Nat.le_max_right _ _)
        · exact Nat.le_trans hlegacy (Nat.le_max_left _ _)
      · have heq := hcarried.nonce_eq_of_ne hfrontier hself
        rw [heq.left, heq.right]
        exact hs

/-!
## Runs
-/

section

variable (hlawful : pallets.Lawful) (hinner : inner.Lawful)
  (hfrontier : FrontierAccounts pallets hasKey)

include hlawful hinner hfrontier

theorem run_preserves (Inv : State -> Prop)
    (hcase : forall s t, NonceCase pallets s t -> Inv s -> Inv t)
    {s t : State} {labels : List Label}
    (hrun : Run (Allowed pallets hasKey) (step pallets inner) s labels t)
    (hs : Anchored pallets.minimumBalance s) (hinv : Inv s) :
    Anchored pallets.minimumBalance t ∧ Inv t := by
  refine hrun.preserves
    (fun s => Anchored pallets.minimumBalance s ∧ Inv s) ?_ ⟨hs, hinv⟩
  intro s label hallowed hboth
  have hstep := step_cases hlawful hinner hfrontier hallowed hboth.left
  exact ⟨hstep.left, hcase s _ hstep.right hboth.right⟩

theorem run_nonce_le {who : AccountId}
    (hwho : forall address, who ≠ legacyAccount pallets address)
    {s t : State} {labels : List Label}
    (hrun : Run (Allowed pallets hasKey) (step pallets inner) s labels t)
    (hs : Anchored pallets.minimumBalance s) :
    s.nonce who ≤ t.nonce who :=
  (run_preserves hlawful hinner hfrontier (fun t => s.nonce who ≤ t.nonce who)
    (fun _ _ hcase hle => Nat.le_trans hle (hcase.nonce_le hwho)) hrun hs
    (Nat.le_refl _)).right

theorem run_highestNonce_le (address : H160) {s t : State}
    {labels : List Label}
    (hrun : Run (Allowed pallets hasKey) (step pallets inner) s labels t)
    (hs : Anchored pallets.minimumBalance s) :
    highestNonce pallets address s ≤ highestNonce pallets address t :=
  (run_preserves hlawful hinner hfrontier
    (fun t => highestNonce pallets address s ≤ highestNonce pallets address t)
    (fun _ _ hcase hle =>
      Nat.le_trans hle (hcase.highestNonce_le hfrontier address)) hrun hs
    (Nat.le_refl _)).right

theorem run_first_nonce (address : H160) {s t u : State} {nonce : Nat}
    {labels : List Label}
    (hrun : Run (Allowed pallets hasKey) (step pallets inner) s labels t)
    (hs : Anchored pallets.minimumBalance s)
    (hzero : s.nonce (reviveAccount address) = 0)
    (haccepted : CheckNonceKeepSigned.check pallets inner nonce
      (Origin.signed (reviveAccount address)) t = Except.ok u) :
    s.nonce (legacyAccount pallets address) ≤ nonce := by
  have hcaught : CaughtUp pallets address
      (s.nonce (legacyAccount pallets address)) t :=
    (run_preserves hlawful hinner hfrontier _
      (fun _ _ hcase hcaught => hcase.caughtUp hfrontier hcaught) hrun hs
      (Or.inr ⟨hzero, Nat.le_refl _⟩)).right
  have hraised := liftNonce_raised hlawful (reviveAccount address) t
  rw [(CheckNonceKeepSigned.check_ok hlawful hinner haccepted).left]
  rcases hcaught with hpast | ⟨hunsigned, hlegacy⟩
  · exact Nat.le_trans hpast hraised.le
  · exact Nat.le_trans hlegacy (hraised.caught address rfl hunsigned)

theorem run_no_replay {who : AccountId} (hkey : hasKey who) {nonce : Nat}
    {s u t v : State} {labels : List Label}
    (hs : Anchored pallets.minimumBalance s)
    (haccepted : CheckNonceKeepSigned.check pallets inner nonce
      (Origin.signed who) s = Except.ok u)
    (hrun : Run (Allowed pallets hasKey) (step pallets inner) u labels t) :
    CheckNonceKeepSigned.check pallets inner nonce (Origin.signed who) t ≠
      Except.ok v := by
  intro hagain
  rcases CheckNonceKeepSigned.check_ok hlawful hinner haccepted with
    ⟨hnonce, hstate⟩
  have hwho : forall address, who ≠ legacyAccount pallets address := by
    intro address heq
    rw [heq] at hkey
    exact hfrontier.no_key address hkey
  have hu : Anchored pallets.minimumBalance u := by
    rw [hstate]
    exact advance_anchored who (liftNonce_anchored hlawful who hs)
  have hnext : u.nonce who = nonce + 1 := by
    rw [hstate, advance_nonce, hnonce]
  have hlater := run_nonce_le hlawful hinner hfrontier hwho hrun hu
  have hlifted := (liftNonce_raised hlawful who t).le
  have hsecond :=
    (CheckNonceKeepSigned.check_ok hlawful hinner hagain).left
  lia

end

/-!
## The start

The migration from Frontier leaves the accounts anchored.
-/

/-- `pin_signers`, over the accounts the system pallet has a record of. -/
def pinSigners (pallets : Pallets) (accounts : List AccountId) (s : State) :
    State :=
  (accounts.filter (fun who => s.nonce who ≠ 0)).foldl
    (fun s who => pallets.incProviders who s) s

theorem foldl_incProviders (hlawful : pallets.Lawful)
    (signers : List AccountId) (s : State) (who : AccountId) :
    (signers.foldl (fun s who => pallets.incProviders who s) s).account who =
      { s.account who with
        providers := (s.account who).providers + signers.count who } := by
  induction signers generalizing s with
  | nil => rfl
  | cons signer rest ih =>
      rw [List.foldl_cons, ih, hlawful.incProviders_eq]
      by_cases hself : who = signer
      · rw [hself, State.account_setAccount_self, List.count_cons_self]
        simp only [AccountInfo.mk.injEq, true_and, and_true]
        lia
      · rw [State.account_setAccount_of_ne _ _ hself,
          List.count_cons_of_ne (Ne.symm hself)]

theorem pinSigners_anchored (hlawful : pallets.Lawful) {deposit : Nat}
    {accounts : List AccountId} {s : State}
    (hcomplete : forall who, s.nonce who ≠ 0 -> who ∈ accounts)
    (hbalance : forall who, ownProvider deposit (s.account who) ≤
      (s.account who).providers) :
    Anchored deposit (pinSigners pallets accounts s) := by
  intro who
  have hown := hbalance who
  unfold pinSigners
  rw [foldl_incProviders hlawful]
  unfold AccountInfo.Anchored
  change ownProvider deposit (s.account who) +
    (if s.nonce who = 0 then 0 else 1) ≤ _
  split
  · exact Nat.le_trans hown (Nat.le_add_right _ _)
  · rename_i hsigned
    have hpinned : who ∈ accounts.filter (fun who => s.nonce who ≠ 0) :=
      List.mem_filter.mpr ⟨hcomplete who hsigned, decide_eq_true hsigned⟩
    exact Nat.add_le_add hown (List.count_pos_iff.mpr hpinned)

/-!
## The reference ledger
-/

/-- The nonce check of the system pallet, run on the reference ledger. -/
def referenceCheck : NonceCheck where
  Error := String
  Val := Option (AccountId × Nat)
  validate := fun nonce origin s =>
    match origin.asSystemOriginSigner with
    | Option.none => Except.ok Option.none
    | some who =>
        if (s.account who).providers = 0 ∧
            (s.account who).sufficients = 0 then
          Except.error "Payment"
        else if nonce < s.nonce who then
          Except.error "Stale"
        else
          Except.ok (some (who, s.nonce who))
  prepare := fun nonce val _ s =>
    match val with
    | Option.none => Except.ok s
    | some (who, current) =>
        if current < nonce then
          Except.error "Future"
        else
          Except.ok
            (s.setAccount who { s.account who with nonce := current + 1 })

theorem referenceCheck_lawful : referenceCheck.Lawful where
  accepted := by
    intro nonce who s val t hvalidated hprepared
    unfold referenceCheck Origin.asSystemOriginSigner at hvalidated
    dsimp only at hvalidated
    split at hvalidated
    · cases hvalidated
    · split at hvalidated
      · cases hvalidated
      · rename_i hnotStale
        cases hvalidated
        unfold referenceCheck at hprepared
        dsimp only at hprepared
        split at hprepared
        · cases hprepared
        · rename_i hnotFuture
          cases hprepared
          have hnonce : nonce = s.nonce who := by lia
          rw [hnonce]
          exact ⟨rfl, rfl⟩

theorem reference_frontierAccounts (deposit claimFee : Nat) :
    FrontierAccounts (reference deposit claimFee)
      (fun who => exists address, who = reviveAccount address) := by
  have hne : forall a b, legacyAccount (reference deposit claimFee) a ≠
      reviveAccount b := by
    intro a b heq
    have hlast := congrArg (fun account => account.toList.getLast?) heq
    simp [legacyAccount, reviveAccount, reference, Bytes.append,
      Bytes.replicate, reviveSuffix] at hlast
  refine ⟨?_, hne, ?_⟩
  · intro a b heq
    exact Bytes.append_right_injective evmTag
      (Bytes.append_left_injective (Bytes.replicate 8 0) heq)
  · rintro a ⟨address, heq⟩
    exact hne a address heq

theorem firstState_anchored : Anchored 10 firstState := by
  intro who
  unfold AccountInfo.Anchored
  by_cases hself : who = legacyAccount (reference 10 5) firstAddress
  · have hrecord : firstState.account who = firstRecord := by
      simp [firstState, hself]
    rw [hrecord]
    decide
  · have hrecord : firstState.account who = {} := by
      simp [firstState, hself]
    rw [hrecord]
    decide

/-!
## No replay
-/

/-- Along every run from an anchored state: the nonce of an account that is no
Frontier account never falls; the higher of the two nonces of an H160 never
falls; a nonce the check accepted is never accepted again; and an Ethereum
signer that has not signed yet starts from the nonce of its Frontier
account. -/
theorem nonces_never_rewind (hlawful : pallets.Lawful)
    (hinner : inner.Lawful) (hfrontier : FrontierAccounts pallets hasKey)
    {start s : State} {before : List Label}
    (hanchored : Anchored pallets.minimumBalance start)
    (hreached :
      Run (Allowed pallets hasKey) (step pallets inner) start before s) :
    (forall labels t,
      Run (Allowed pallets hasKey) (step pallets inner) s labels t ->
        (forall who, (forall address, who ≠ legacyAccount pallets address) ->
          s.nonce who ≤ t.nonce who) ∧
        (forall address,
          max (s.nonce (legacyAccount pallets address))
              (s.nonce (reviveAccount address)) ≤
            max (t.nonce (legacyAccount pallets address))
              (t.nonce (reviveAccount address))) ∧
        forall address nonce u, s.nonce (reviveAccount address) = 0 ->
          CheckNonceKeepSigned.check pallets inner nonce
              (Origin.signed (reviveAccount address)) t = Except.ok u ->
            s.nonce (legacyAccount pallets address) ≤ nonce) ∧
      forall who nonce u labels t, hasKey who ->
        CheckNonceKeepSigned.check pallets inner nonce (Origin.signed who) s =
            Except.ok u ->
          Run (Allowed pallets hasKey) (step pallets inner) u labels t ->
            forall v, CheckNonceKeepSigned.check pallets inner nonce
              (Origin.signed who) t ≠ Except.ok v := by
  have hs : Anchored pallets.minimumBalance s :=
    (run_preserves hlawful hinner hfrontier (fun _ => True)
      (fun _ _ _ _ => trivial) hreached hanchored trivial).left
  constructor
  · intro labels t hrun
    refine ⟨?_, ?_, ?_⟩
    · intro who hwho
      exact run_nonce_le hlawful hinner hfrontier hwho hrun hs
    · intro address
      exact run_highestNonce_le hlawful hinner hfrontier address hrun hs
    · intro address nonce u hzero haccepted
      exact run_first_nonce hlawful hinner hfrontier address hrun hs hzero
        haccepted
  · intro who nonce u labels t hkey haccepted hrun v
    exact run_no_replay hlawful hinner hfrontier hkey hs haccepted hrun

theorem lifted_signer_cannot_replay :
    (CheckNonceKeepSigned.check (reference 10 5) referenceCheck 7
        (Origin.signed (reviveAccount firstAddress)) firstState).isOk = true ∧
      forall u v, CheckNonceKeepSigned.check (reference 10 5) referenceCheck 7
          (Origin.signed (reviveAccount firstAddress)) firstState =
            Except.ok u ->
        CheckNonceKeepSigned.check (reference 10 5) referenceCheck 7
          (Origin.signed (reviveAccount firstAddress))
          (step (reference 10 5) referenceCheck u
            (Label.claim Origin.authorized firstAddress)) ≠ Except.ok v := by
  refine ⟨by decide +kernel, ?_⟩
  intro u v haccepted
  have hallowed : Allowed (reference 10 5)
      (fun who => exists address, who = reviveAccount address) u
      (Label.claim Origin.authorized firstAddress) := trivial
  exact (nonces_never_rewind (reference_lawful (by decide) 5)
    referenceCheck_lawful (reference_frontierAccounts 10 5)
    firstState_anchored (Run.nil firstState)).right _ _ _ _ _
    ⟨firstAddress, rfl⟩ haccepted (Run.single hallowed) v

end Accounts
end Numen
