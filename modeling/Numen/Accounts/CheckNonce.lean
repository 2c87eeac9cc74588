import Numen.Accounts.Claims

/-!
# The nonce check

`CheckNonceKeepSigned` wraps the nonce check of the system pallet, which enters
as a parameter.  An account gets a provider of its own when its nonce leaves
zero.  Every operation on balances keeps that provider, and with it the nonce.
-/

namespace Numen
namespace Accounts

open Foundation

/-- `frame_system::CheckNonce`. -/
structure NonceCheck where
  Error : Type
  Val : Type
  validate : Nat -> Origin -> State -> Except Error Val
  prepare : Nat -> Val -> Origin -> State -> Except Error State

/-- A signed transaction that passes both stages has the nonce its signer is at,
which then moves on by one. -/
structure NonceCheck.Lawful (inner : NonceCheck) : Prop where
  accepted : forall nonce who s val t,
    inner.validate nonce (Origin.signed who) s = Except.ok val ->
      inner.prepare nonce val (Origin.signed who) s = Except.ok t ->
        nonce = s.nonce who ∧
        t = s.setAccount who { s.account who with nonce := nonce + 1 }

def Origin.asSystemOriginSigner : Origin -> Option AccountId
  | Origin.signed who => some who
  | _ => Option.none

namespace CheckNonceKeepSigned

variable (pallets : Pallets) (inner : NonceCheck)

/-- `validate`.  In a block its writes stay. -/
def validate (nonce : Nat) (origin : Origin) (s : State) :
    Except inner.Error ((Option AccountId × inner.Val) × State) := do
  let signer := origin.asSystemOriginSigner
  let lifted :=
    match signer with
    | some who => liftNonce pallets who s
    | Option.none => s
  let val <- inner.validate nonce origin lifted
  return ((signer, val), lifted)

/-- `prepare`.  A first signature gives the signer a provider. -/
def prepare (nonce : Nat) (val : Option AccountId × inner.Val)
    (origin : Origin) (s : State) : Except inner.Error State := do
  let first := val.1.filter (fun who => s.nonce who = 0)
  let prepared <- inner.prepare nonce val.2 origin s
  match first with
  | some who => return pallets.incProviders who prepared
  | Option.none => return prepared

/-- Both stages, as a transaction in a block goes through them. -/
def check (nonce : Nat) (origin : Origin) (s : State) :
    Except inner.Error State := do
  let validated <- validate pallets inner nonce origin s
  prepare pallets inner nonce validated.1 origin validated.2

end CheckNonceKeepSigned

/-!
## Anchored accounts
-/

/-- The balance holds its provider reference, and a nonzero nonce one more. -/
def AccountInfo.Anchored (deposit : Nat) (info : AccountInfo) : Prop :=
  ownProvider deposit info + (if info.nonce = 0 then 0 else 1) ≤
    info.providers

def Anchored (deposit : Nat) (s : State) : Prop :=
  forall who, (s.account who).Anchored deposit

theorem RecordChange.anchored {deposit : Nat} {before after : AccountInfo}
    (h : RecordChange deposit before after)
    (hbefore : before.Anchored deposit) :
    after.Anchored deposit ∧ after.nonce = before.nonce := by
  unfold RecordChange at h
  unfold AccountInfo.Anchored at hbefore ⊢
  split at h
  · rename_i hgone
    rcases h with ⟨hnonce, hproviders, _⟩
    have hzero : before.nonce = 0 := by
      by_contra hsigned
      rw [if_neg hsigned] at hbefore
      lia
    refine ⟨?_, hnonce.trans hzero.symm⟩
    rw [if_pos hnonce]
    lia
  · rcases h with ⟨hnonce, hproviders, _⟩
    refine ⟨?_, hnonce⟩
    rw [hnonce, hproviders]
    lia

/-- From anchored states, an operation that touches no nonce. -/
def KeepsNonces (deposit : Nat) (s t : State) : Prop :=
  Anchored deposit s ->
    Anchored deposit t ∧ forall who, t.nonce who = s.nonce who

theorem KeepsNonces.of_account_eq {deposit : Nat} {s t : State}
    (h : t.account = s.account) : KeepsNonces deposit s t := by
  intro hs
  unfold Anchored State.nonce
  rw [h]
  exact ⟨hs, fun _ => rfl⟩

theorem KeepsNonces.trans {deposit : Nat} {s t u : State}
    (hst : KeepsNonces deposit s t) (htu : KeepsNonces deposit t u) :
    KeepsNonces deposit s u := by
  intro hs
  rcases hst hs with ⟨ht, hfirst⟩
  rcases htu ht with ⟨hu, hsecond⟩
  exact ⟨hu, fun who => (hsecond who).trans (hfirst who)⟩

theorem BalanceChange.keepsNonces {deposit : Nat}
    {touched : AccountId -> Prop} {s t : State}
    (h : BalanceChange deposit touched s t) : KeepsNonces deposit s t := by
  intro hs
  exact ⟨fun who => ((h.record who).anchored (hs who)).left,
    fun who => ((h.record who).anchored (hs who)).right⟩

theorem VestingChange.keepsNonces {deposit : Nat} {who : AccountId}
    {s t : State} (h : VestingChange who s t) : KeepsNonces deposit s t := by
  intro hs
  constructor
  · intro other
    by_cases hself : other = who
    · have hanchored := hs who
      unfold AccountInfo.Anchored ownProvider at hanchored ⊢
      rw [hself, h.nonce, h.providers, h.free]
      exact hanchored
    · rw [(h.untouched other hself).left]
      exact hs other
  · intro other
    by_cases hself : other = who
    · rw [hself]
      exact h.nonce
    · exact State.nonce_congr (h.untouched other hself).left

/-!
## Claims on anchored accounts
-/

variable {pallets : Pallets}

theorem moveMovable_keepsNonces (hlawful : pallets.Lawful)
    {legacy account : AccountId} (hne : legacy ≠ account) {amount : Nat}
    {s t : State}
    (h : moveMovable pallets legacy account s = Except.ok (amount, t)) :
    KeepsNonces pallets.minimumBalance s t := by
  unfold moveMovable at h
  split at h
  · rcases (moveBalance_cases hlawful hne h).right with
      ⟨_, heq⟩ | ⟨_, cleared, opened, moved, hstages⟩
    · rw [heq]
      exact KeepsNonces.of_account_eq rfl
    · have hopen := openAccount_change hlawful hstages.opens
      have hmove := (hlawful.transfer_ok legacy account opened moved hne
        hstages.transfer).left
      exact ((hstages.clear.keepsNonces.trans hopen.keepsNonces).trans
        hmove.keepsNonces).trans hstages.vest.keepsNonces
  · cases h
    exact KeepsNonces.of_account_eq rfl

theorem payFee_keepsNonces (hlawful : pallets.Lawful) {account : AccountId}
    {fee : Nat} {credit : Option Nat} {s t : State}
    (h : payFee pallets account fee s = Except.ok (credit, t)) :
    KeepsNonces pallets.minimumBalance s t := by
  unfold payFee at h
  split at h
  · cases h
    exact KeepsNonces.of_account_eq rfl
  · rcases except_bind_eq_ok h with ⟨⟨paid, after⟩, hwithdrawn, h⟩
    cases h
    exact (hlawful.withdraw_ok account fee s paid _
      hwithdrawn).left.keepsNonces

theorem handOn_keepsNonces (hlawful : pallets.Lawful) (credit : Option Nat)
    (s : State) :
    KeepsNonces pallets.minimumBalance s (handOn pallets credit s) := by
  cases credit with
  | none => exact KeepsNonces.of_account_eq rfl
  | some paid => exact (hlawful.onClaimFee_change paid s).keepsNonces

theorem carryNonce_nonce (pallets : Pallets) (legacy account : AccountId)
    (s : State) :
    (carryNonce pallets legacy account s).2.nonce account =
      max (s.nonce legacy) (s.nonce account) := by
  unfold carryNonce
  dsimp only
  split
  · rename_i hle
    exact (Nat.max_eq_right hle).symm
  · rename_i hlt
    unfold State.nonce at hlt ⊢
    rw [State.account_setAccount_self]
    exact (Nat.max_eq_left (Nat.le_of_lt (Nat.not_le.mp hlt))).symm

theorem carryNonce_anchored (hlawful : pallets.Lawful)
    (legacy account : AccountId) {deposit : Nat} {s : State}
    (hs : Anchored deposit s) :
    Anchored deposit (carryNonce pallets legacy account s).2 := by
  intro who
  by_cases hself : who = account
  · have hanchored := hs account
    rw [hself]
    unfold carryNonce
    dsimp only
    split
    · exact hanchored
    · rw [State.account_setAccount_self]
      unfold AccountInfo.Anchored State.nonce at *
      split
      · rename_i hzero
        rw [if_pos hzero] at hanchored
        rw [hlawful.incProviders_eq, State.account_setAccount_self]
        change ownProvider deposit (s.account account) + _ ≤
          (s.account account).providers + 1
        split <;> lia
      · rename_i hsigned
        rw [if_neg hsigned] at hanchored
        change ownProvider deposit (s.account account) + _ ≤
          (s.account account).providers
        split <;> lia
  · rw [(carryNonce_change hlawful legacy account s).untouched who hself]
    exact hs who

theorem dropEmpty_anchored {deposit : Nat} (hdeposit : 0 < deposit)
    (legacy : AccountId) {s : State} (hs : Anchored deposit s) :
    Anchored deposit (dropEmpty legacy s) := by
  unfold dropEmpty
  split
  · intro who
    by_cases hself : who = legacy
    · rw [hself, State.account_setAccount_self]
      unfold AccountInfo.Anchored ownProvider
      rw [if_neg (Nat.not_le.mpr hdeposit)]
      exact Nat.le_refl 0
    · rw [State.account_setAccount_of_ne _ _ hself]
      exact hs who
  · exact hs

theorem dropEmpty_nonce_of_ne {legacy who : AccountId} (hne : who ≠ legacy)
    (s : State) : (dropEmpty legacy s).nonce who = s.nonce who := by
  unfold dropEmpty
  split
  · exact State.nonce_congr (State.account_setAccount_of_ne _ _ hne)
  · rfl

/-- The nonce of the old account arrived at the new one.  What the old account
is left with is not said: a claim may drop it. -/
structure CarriedOver (pallets : Pallets) (address : H160) (s t : State) :
    Prop where
  revive : t.nonce (reviveAccount address) =
    max (s.nonce (legacyAccount pallets address))
      (s.nonce (reviveAccount address))
  others : forall who, who ≠ legacyAccount pallets address ->
    who ≠ reviveAccount address -> t.nonce who = s.nonce who

theorem claim_carriedOver (hlawful : pallets.Lawful) {address : H160}
    (hne : legacyAccount pallets address ≠ reviveAccount address)
    {origin : Origin} {s t : State} {billed : Nat}
    (h : claim pallets origin address s = Except.ok (billed, t))
    (hs : Anchored pallets.minimumBalance s) :
    Anchored pallets.minimumBalance t ∧ CarriedOver pallets address s t := by
  rcases claim_calls h with ⟨amount, moved, credit, settled, hcalls⟩
  have hcarry := carryNonce_change hlawful (legacyAccount pallets address)
    (reviveAccount address) s
  have hnonce : _ = max (s.nonce (legacyAccount pallets address))
      (s.nonce (reviveAccount address)) :=
    carryNonce_nonce pallets _ _ s
  have hcarried := carryNonce_anchored hlawful
    (legacyAccount pallets address) (reviveAccount address) hs
  -- nothing after the drop touches a nonce
  rcases moveMovable_keepsNonces hlawful hne hcalls.move hcarried with
    ⟨hmovedAnchored, hmovedNonce⟩
  have hdropAnchored := dropEmpty_anchored hlawful.minimumBalance_pos
    (legacyAccount pallets address) hmovedAnchored
  have hrest := (payFee_keepsNonces hlawful hcalls.pay).trans
    (handOn_keepsNonces hlawful credit settled)
  rcases hrest hdropAnchored with ⟨hanchored, hrestNonce⟩
  rw [hcalls.hand]
  refine ⟨hanchored, ?_, ?_⟩
  · calc
      _ = (dropEmpty (legacyAccount pallets address) moved).nonce
            (reviveAccount address) := hrestNonce _
      _ = moved.nonce (reviveAccount address) :=
            dropEmpty_nonce_of_ne hne.symm moved
      _ = _ := (hmovedNonce _).trans hnonce
  · intro who hlegacy haccount
    calc
      _ = (dropEmpty (legacyAccount pallets address) moved).nonce who :=
            hrestNonce who
      _ = moved.nonce who := dropEmpty_nonce_of_ne hlegacy moved
      _ = _ := hmovedNonce who
      _ = s.nonce who :=
            State.nonce_congr (hcarry.untouched who haccount)

/-!
## Signing
-/

/-- Only the nonce of `who` changed, upwards, and an Ethereum signer at zero is
at least where its old account was. -/
structure Raised (pallets : Pallets) (who : AccountId) (s t : State) :
    Prop where
  le : s.nonce who ≤ t.nonce who
  caught : forall address, who = reviveAccount address -> s.nonce who = 0 ->
    s.nonce (legacyAccount pallets address) ≤ t.nonce who
  others : forall other, other ≠ who -> t.nonce other = s.nonce other

theorem liftNonce_raised (hlawful : pallets.Lawful) (who : AccountId)
    (s : State) : Raised pallets who s (liftNonce pallets who s) := by
  unfold liftNonce
  split
  · rename_i hstays
    refine ⟨Nat.le_refl _, ?_, fun _ _ => rfl⟩
    intro address heq hzero
    rcases hstays with hother | hsigned
    · rw [heq] at hother
      exact absurd (Bytes.rest_append address reviveSuffix) hother
    · exact absurd hzero hsigned
  · have hnonce := carryNonce_nonce pallets
      (legacyAccount pallets (Bytes.first (n := 12) 20 who)) who s
    have hcarry := carryNonce_change hlawful
      (legacyAccount pallets (Bytes.first (n := 12) 20 who)) who s
    refine ⟨?_, ?_, ?_⟩
    · rw [hnonce]
      exact Nat.le_max_right _ _
    · intro address heq _
      have hfirst : Bytes.first (n := 12) 20 who = address := by
        rw [heq]
        exact Bytes.first_append address reviveSuffix
      rw [hnonce, hfirst]
      exact Nat.le_max_left _ _
    · intro other hne
      exact State.nonce_congr (hcarry.untouched other hne)

theorem liftNonce_anchored (hlawful : pallets.Lawful) (who : AccountId)
    {deposit : Nat} {s : State} (hs : Anchored deposit s) :
    Anchored deposit (liftNonce pallets who s) := by
  unfold liftNonce
  split
  · exact hs
  · exact carryNonce_anchored hlawful _ who hs

variable {inner : NonceCheck}

/-- What a signature does to its signer: the nonce moves on by one, and leaving
zero gives a provider. -/
def advance (who : AccountId) (s : State) : State :=
  s.setAccount who
    { s.account who with
      nonce := s.nonce who + 1
      providers :=
        (s.account who).providers + if s.nonce who = 0 then 1 else 0 }

theorem advance_nonce (who : AccountId) (s : State) :
    (advance who s).nonce who = s.nonce who + 1 := by
  unfold advance State.nonce
  rw [State.account_setAccount_self]

theorem advance_nonce_of_ne {who other : AccountId} (hne : other ≠ who)
    (s : State) : (advance who s).nonce other = s.nonce other :=
  State.nonce_congr (State.account_setAccount_of_ne _ _ hne)

theorem advance_anchored (who : AccountId) {deposit : Nat} {s : State}
    (hs : Anchored deposit s) : Anchored deposit (advance who s) := by
  intro other
  by_cases hself : other = who
  · have hanchored := hs who
    unfold advance
    rw [hself, State.account_setAccount_self]
    unfold AccountInfo.Anchored at hanchored ⊢
    change ownProvider deposit (s.account who) + 1 ≤
      (s.account who).providers +
        if (s.account who).nonce = 0 then 1 else 0
    split at hanchored <;> lia
  · unfold advance
    rw [State.account_setAccount_of_ne _ _ hself]
    exact hs other

theorem CheckNonceKeepSigned.check_ok (hlawful : pallets.Lawful)
    (hinner : inner.Lawful) {nonce : Nat} {who : AccountId} {s t : State}
    (h : check pallets inner nonce (Origin.signed who) s = Except.ok t) :
    nonce = (liftNonce pallets who s).nonce who ∧
      t = advance who (liftNonce pallets who s) := by
  unfold check validate prepare at h
  rcases except_bind_eq_ok h with ⟨⟨⟨signer, val⟩, lifted⟩, hvalidated, h⟩
  rcases except_bind_eq_ok hvalidated with ⟨validated, hval, hreturn⟩
  cases hreturn
  rcases except_bind_eq_ok h with ⟨prepared, hprepared, h⟩
  rcases hinner.accepted nonce who (liftNonce pallets who s) _ prepared hval
    hprepared with ⟨hnonce, hprep⟩
  refine ⟨hnonce, ?_⟩
  change (match (some who).filter
      (fun signer => decide ((liftNonce pallets who s).nonce signer = 0)) with
    | some signer => Except.ok (pallets.incProviders signer prepared)
    | Option.none => Except.ok prepared) = Except.ok t at h
  unfold advance
  by_cases hfirst : (liftNonce pallets who s).nonce who = 0
  · rw [Option.filter_some, if_pos (decide_eq_true hfirst)] at h
    cases h
    rw [hlawful.incProviders_eq, hprep, hnonce, if_pos hfirst,
      State.setAccount_setAccount, State.account_setAccount_self]
  · rw [Option.filter_some,
      if_neg (fun h => hfirst (of_decide_eq_true h))] at h
    cases h
    rw [hprep, hnonce, if_neg hfirst]
    rfl

end Accounts
end Numen
