import Numen.Accounts.Curves
import Numen.Accounts.Replay

/-!
# Nothing is claimed twice

After a claim the old account has nothing that could be claimed: no balance that
may move and no nonce above the new account's.  Over any sequence of claims and
deposits, what was reported as claimed for an H160 and what its old account still
holds add up to what the account held and was paid.
-/

namespace Numen
namespace Accounts

open Foundation

variable {pallets : Pallets}

/-- The old and new accounts of all addresses are different accounts, and fees
go to none of the old ones. -/
structure Separated (pallets : Pallets) : Prop where
  legacy_injective : forall a b,
    legacyAccount pallets a = legacyAccount pallets b -> a = b
  legacy_ne_revive : forall a b, legacyAccount pallets a ≠ reviveAccount b
  onClaimFee_legacy : forall paid s address,
    (pallets.onClaimFee paid s).account (legacyAccount pallets address) =
      s.account (legacyAccount pallets address)

/-!
## Nonces
-/

theorem RecordChange.nonce_eq {deposit : Nat} {before after : AccountInfo}
    (h : RecordChange deposit before after)
    (hkept : deposit ≤ before.data.free -> deposit ≤ after.data.free) :
    after.nonce = before.nonce := by
  unfold RecordChange at h
  split at h
  · rename_i hgone
    rcases hgone with ⟨hbefore, hafter, _⟩
    unfold ownProvider at hbefore hafter
    lia
  · exact h.left

theorem RecordChange.nonce_le {deposit : Nat} {before after : AccountInfo}
    (h : RecordChange deposit before after) : after.nonce ≤ before.nonce := by
  unfold RecordChange at h
  split at h
  · rw [h.left]
    exact Nat.zero_le _
  · exact Nat.le_of_eq h.left

theorem MoveStages.nonces (hlawful : pallets.Lawful)
    {legacy account : AccountId} (hne : legacy ≠ account)
    {s cleared opened moved t : State}
    (h : MoveStages pallets legacy account s cleared opened moved t) :
    t.nonce account = s.nonce account ∧ t.nonce legacy ≤ s.nonce legacy := by
  have hopen := openAccount_change hlawful h.opens
  have hopenFree := (openAccount_ok hlawful h.opens).left
  rcases hlawful.transfer_ok legacy account opened moved hne h.transfer with
    ⟨hmove, _, hmoveFree, _⟩
  constructor
  · have hopened : opened.nonce account = cleared.nonce account := by
      refine (hopen.record account).nonce_eq ?_
      intro hfunded
      have hgrows : cleared.free account ≤ opened.free account := by lia
      exact Nat.le_trans hfunded hgrows
    have hmoved : moved.nonce account = opened.nonce account := by
      refine (hmove.record account).nonce_eq ?_
      intro hfunded
      have hgrows : opened.free account ≤ moved.free account := by lia
      exact Nat.le_trans hfunded hgrows
    calc
      t.nonce account = moved.nonce account := h.vest.nonce
      _ = cleared.nonce account := hmoved.trans hopened
      _ = s.nonce account :=
          State.nonce_congr (h.clear.untouched account hne.symm).left
  · calc
      t.nonce legacy = moved.nonce legacy :=
          State.nonce_congr (h.vest.untouched legacy hne).left
      _ ≤ opened.nonce legacy := (hmove.record legacy).nonce_le
      _ = cleared.nonce legacy := State.nonce_congr (hopen.untouched legacy hne)
      _ = s.nonce legacy := h.clear.nonce

theorem moveMovable_nonces (hlawful : pallets.Lawful)
    {legacy account : AccountId} (hne : legacy ≠ account) {amount : Nat}
    {s t : State}
    (h : moveMovable pallets legacy account s = Except.ok (amount, t)) :
    t.nonce account = s.nonce account ∧ t.nonce legacy ≤ s.nonce legacy := by
  unfold moveMovable at h
  split at h
  · rcases (moveBalance_cases hlawful hne h).right with
      ⟨_, heq⟩ | ⟨_, cleared, opened, moved, hstages⟩
    · rw [heq]
      exact ⟨rfl, Nat.le_refl _⟩
    · exact hstages.nonces hlawful hne
  · cases h
    exact ⟨rfl, Nat.le_refl _⟩

theorem payFee_nonce (hpallets : pallets.Documented) {account : AccountId}
    {fee : Nat} {credit : Option Nat} {s t : State}
    (h : payFee pallets account fee s = Except.ok (credit, t)) :
    t.nonce account = s.nonce account := by
  unfold payFee at h
  split at h
  · cases h
    rfl
  · rcases except_bind_eq_ok h with ⟨⟨paid, after⟩, hwithdrawn, h⟩
    cases h
    have hchange := (hpallets.withdraw_ok _ _ _ _ _ hwithdrawn).left
    refine (hchange.record account).nonce_eq ?_
    intro hfunded
    exact hpallets.withdraw_preserves _ _ _ _ _ hfunded hwithdrawn

theorem handOn_nonce (hpallets : pallets.Documented) (credit : Option Nat)
    (s : State) (who : AccountId) :
    (handOn pallets credit s).nonce who = s.nonce who := by
  cases credit with
  | none => rfl
  | some paid =>
      refine ((hpallets.onClaimFee_change paid s).record who).nonce_eq ?_
      intro hfunded
      exact Nat.le_trans hfunded (hpallets.onClaimFee_le paid s who)

theorem handOn_legacy (hseparated : Separated pallets) (credit : Option Nat)
    (s : State) (address : H160) :
    (handOn pallets credit s).account (legacyAccount pallets address) =
      s.account (legacyAccount pallets address) := by
  cases credit with
  | none => rfl
  | some paid => exact hseparated.onClaimFee_legacy paid s address

/-!
## What a claim leaves
-/

/-- A balance that can move has moved, and no nonce moved down. -/
structure MovedOut (legacy account : AccountId) (s t : State) : Prop where
  funds : movable t legacy = true -> t.free legacy = 0
  account_nonce : t.nonce account = s.nonce account
  legacy_nonce : t.nonce legacy ≤ s.nonce legacy
  events : t.events = s.events

theorem moveMovable_movedOut (hpallets : pallets.Documented)
    {legacy account : AccountId} (hne : legacy ≠ account) {amount : Nat}
    {s t : State}
    (h : moveMovable pallets legacy account s = Except.ok (amount, t)) :
    MovedOut legacy account s t := by
  rcases moveMovable_nonces hpallets.toLawful hne h with ⟨haccount, hlegacy⟩
  unfold moveMovable at h
  split at h
  · rcases (moveBalance_calls h).right with
      ⟨hzero, heq⟩ | ⟨_, cleared, opened, moved, hcalls⟩
    · refine ⟨fun _ => ?_, haccount, hlegacy, by rw [heq]⟩
      rw [heq]
      exact hzero
    · have hstages := hcalls.stages hpallets.toLawful hne
      refine ⟨fun _ => ?_, haccount, hlegacy,
        (hcalls.curvesMoved hpallets hne).events⟩
      have hfree := (hstages.moved hpallets.toLawful hne).legacy_free
      lia
  · rename_i hfixed
    cases h
    exact ⟨fun hmovable => absurd hmovable hfixed, haccount, hlegacy, rfl⟩

theorem movable_dropEmpty (legacy : AccountId) (s : State) :
    movable (dropEmpty legacy s) legacy = movable s legacy := by
  unfold dropEmpty
  split
  · rename_i hempty
    have hreserved : (s.account legacy).data.reserved = 0 :=
      (Nat.add_eq_zero_iff.mp hempty.right).right
    unfold movable
    rw [State.account_setAccount_self, hreserved]
    rfl
  · rfl

theorem dropEmpty_nonce_le (legacy : AccountId) (s : State) :
    (dropEmpty legacy s).nonce legacy ≤ s.nonce legacy := by
  unfold dropEmpty
  split
  · unfold State.nonce
    rw [State.account_setAccount_self]
    exact Nat.zero_le _
  · exact Nat.le_refl _

theorem dropEmpty_of_dropped {legacy : AccountId} {s t : State}
    (h : t.account legacy = (dropEmpty legacy s).account legacy) :
    dropEmpty legacy t = t := by
  unfold dropEmpty at h
  unfold dropEmpty State.totalBalance
  split at h
  · rw [State.account_setAccount_self] at h
    have hsame : t.setAccount legacy {} = t := by
      unfold State.setAccount
      rw [← h, Function.update_eq_self]
    rw [hsame]
    exact ite_self t
  · rename_i hkept
    rw [h]
    exact if_neg hkept

structure Spent (pallets : Pallets) (address : H160) (t : State) : Prop where
  funds : movable t (legacyAccount pallets address) = true ->
    t.free (legacyAccount pallets address) = 0
  nonce : t.nonce (legacyAccount pallets address) ≤
    t.nonce (reviveAccount address)
  dropped : dropEmpty (legacyAccount pallets address) t = t

theorem ClaimCalls.spent (hpallets : pallets.Documented)
    (hseparated : Separated pallets) {address : H160} {amount : Nat}
    {credit : Option Nat} {s moved paid t : State}
    (h : ClaimCalls pallets address s amount moved credit paid t) :
    Spent pallets address t := by
  have hne := hseparated.legacy_ne_revive address address
  have hcarry := carryNonce_change hpallets.toLawful
    (legacyAccount pallets address) (reviveAccount address) s
  have hmoved := moveMovable_movedOut hpallets hne h.move
  have hrest := h.accountsOnly hpallets
  have hrecord : t.account (legacyAccount pallets address) =
      (dropEmpty (legacyAccount pallets address) moved).account
        (legacyAccount pallets address) := by
    rw [h.hand, handOn_legacy hseparated]
    exact (payFee_ok hpallets.toLawful h.pay).right.right.left _ hne
  have hdrop := dropEmpty_accountsOnly (legacyAccount pallets address) moved
  constructor
  · intro hmovable
    have hsame : movable t (legacyAccount pallets address) =
        movable (dropEmpty (legacyAccount pallets address) moved)
          (legacyAccount pallets address) :=
      movable_congr hrecord hrest.locks hrest.freezes
    rw [hsame, movable_dropEmpty] at hmovable
    rw [State.free_congr hrecord, dropEmpty_free]
    exact hmoved.funds hmovable
  · calc
      t.nonce (legacyAccount pallets address) =
          (dropEmpty (legacyAccount pallets address) moved).nonce
            (legacyAccount pallets address) := State.nonce_congr hrecord
      _ ≤ moved.nonce (legacyAccount pallets address) :=
          dropEmpty_nonce_le _ moved
      _ ≤ s.nonce (legacyAccount pallets address) := by
          rw [← State.nonce_congr (hcarry.untouched _ hne)]
          exact hmoved.legacy_nonce
      _ ≤ moved.nonce (reviveAccount address) := by
          rw [hmoved.account_nonce, carryNonce_nonce]
          exact Nat.le_max_left _ _
      _ = (report pallets address s amount moved).nonce
            (reviveAccount address) :=
          (dropEmpty_nonce_of_ne hne.symm moved).symm
      _ = t.nonce (reviveAccount address) := by
          rw [h.hand, handOn_nonce hpallets, payFee_nonce hpallets h.pay]
  · exact dropEmpty_of_dropped hrecord

section Spent

variable {address : H160} {t : State}

theorem Spent.claimable_eq (h : Spent pallets address t) :
    claimable pallets address t = false := by
  unfold claimable
  dsimp only
  rw [Bool.or_eq_false_iff, Bool.and_eq_false_imp]
  refine ⟨?_, decide_eq_false (Nat.not_lt.mpr h.nonce)⟩
  intro hmovable
  exact decide_eq_false (not_not_intro (h.funds hmovable))

theorem Spent.authorizeClaim_eq (hlawful : pallets.Lawful)
    (h : Spent pallets address t) :
    authorizeClaim pallets address t = Except.error nothingToClaim := by
  have hfunds : (movable t (legacyAccount pallets address) &&
      decide (pallets.claimFee <
        spendable pallets t (legacyAccount pallets address))) = false := by
    rw [Bool.and_eq_false_imp]
    intro hmovable
    have hle : spendable pallets t (legacyAccount pallets address) ≤
        t.free (legacyAccount pallets address) :=
      hlawful.reducibleBalance_le _ _ _ _
    rw [h.funds hmovable] at hle
    exact decide_eq_false (by lia)
  have hnonce : decide (t.nonce (reviveAccount address) <
      t.nonce (legacyAccount pallets address)) = false :=
    decide_eq_false (Nat.not_lt.mpr h.nonce)
  unfold authorizeClaim
  dsimp only
  rw [hnonce, hfunds]
  rfl

theorem Spent.moveLegacy_eq (h : Spent pallets address t) :
    moveLegacy pallets address t =
      Except.ok { t with events := t.events ++
        [⟨address, reviveAccount address, 0,
          t.nonce (reviveAccount address)⟩] } := by
  have hcarry : carryNonce pallets (legacyAccount pallets address)
      (reviveAccount address) t = (t.nonce (reviveAccount address), t) :=
    if_pos h.nonce
  have hmove : moveMovable pallets (legacyAccount pallets address)
      (reviveAccount address) t = Except.ok (0, t) := by
    unfold moveMovable
    split
    · rename_i hmovable
      have hzero := h.funds hmovable
      unfold moveBalance
      rw [hzero]
      rfl
    · rfl
  unfold moveLegacy
  dsimp only
  rw [hcarry]
  dsimp only
  rw [hmove, except_ok_bind]
  dsimp only
  rw [h.dropped]
  rfl

end Spent

/-!
## Claims and deposits
-/

inductive Payment where
  | claim (origin : Origin) (address : H160)
  /-- A deposit to the old account of `address` that ends in `after`. -/
  | deposit (address : H160) (amount : Nat) (after : State)

namespace Payment

/-- A claim that fails leaves no trace. -/
def step (pallets : Pallets) (s : State) : Payment -> State
  | claim origin address =>
      match Accounts.claim pallets origin address s with
      | Except.ok (_, t) => t
      | Except.error _ => s
  | deposit _ _ after => after

def Allowed (pallets : Pallets) (s : State) : Payment -> Prop
  | claim _ _ => True
  | deposit address amount after =>
      after.events = s.events ∧
        after.free (legacyAccount pallets address) =
          s.free (legacyAccount pallets address) + amount ∧
        forall other, other ≠ address ->
          after.free (legacyAccount pallets other) =
            s.free (legacyAccount pallets other)

/-- What a payment deposits to the old account of `address`. -/
def deposited (address : H160) : Payment -> Nat
  | claim _ _ => 0
  | deposit target amount _ => if target = address then amount else 0

end Payment

/-- Everything the payments deposit to the old account of `address`. -/
def totalDeposited (address : H160) (payments : List Payment) : Nat :=
  (payments.map (Payment.deposited address)).sum

def totalClaimed (address : H160) (events : List Claimed) : Nat :=
  (events.map fun event =>
    if event.address = address then event.amount else 0).sum

theorem totalClaimed_append (address : H160) (first second : List Claimed) :
    totalClaimed address (first ++ second) =
      totalClaimed address first + totalClaimed address second := by
  unfold totalClaimed
  rw [List.map_append, List.sum_append]

theorem ClaimCalls.balanced (hpallets : pallets.Documented)
    (hseparated : Separated pallets) {target : H160} {amount : Nat}
    {credit : Option Nat} {s moved paid t : State}
    (h : ClaimCalls pallets target s amount moved credit paid t)
    (address : H160) :
    exists reported, t.events = s.events ++ reported ∧
      totalClaimed address reported + t.free (legacyAccount pallets address) =
        s.free (legacyAccount pallets address) := by
  have hne := hseparated.legacy_ne_revive target target
  have hcarry := carryNonce_change hpallets.toLawful
    (legacyAccount pallets target) (reviveAccount target) s
  have hdrop := dropEmpty_accountsOnly (legacyAccount pallets target) moved
  have hevents : t.events = s.events ++ [⟨target, reviveAccount target, amount,
      (carryNonce pallets (legacyAccount pallets target)
        (reviveAccount target) s).1⟩] := by
    rw [(h.accountsOnly hpallets).events]
    change (dropEmpty (legacyAccount pallets target) moved).events ++ _ = _
    rw [hdrop.events, (moveMovable_movedOut hpallets hne h.move).events,
      (carryNonce_accountsOnly hpallets _ _ s).events]
  refine ⟨_, hevents, ?_⟩
  have hfree : t.free (legacyAccount pallets address) =
      moved.free (legacyAccount pallets address) := by
    have hpaid := (payFee_ok hpallets.toLawful h.pay).right.right.left _
      (hseparated.legacy_ne_revive address target)
    rw [h.hand, State.free_congr (handOn_legacy hseparated credit paid address),
      State.free_congr hpaid]
    exact dropEmpty_free _ moved _
  have hbefore := State.free_congr (hcarry.untouched _
    (hseparated.legacy_ne_revive address target))
  rcases moveMovable_ok hpallets.toLawful hne h.move with ⟨_, hmoved⟩
  rw [hfree, ← hbefore]
  unfold totalClaimed
  rw [List.map_singleton, List.sum_singleton]
  dsimp only
  by_cases hsame : target = address
  · rw [if_pos hsame, Nat.add_comm, ← hsame]
    exact hmoved.legacy_free
  · have hother : legacyAccount pallets address ≠
        legacyAccount pallets target := by
      intro heq
      exact hsame (hseparated.legacy_injective _ _ heq).symm
    rw [if_neg hsame, Nat.zero_add]
    exact State.free_congr (hmoved.others _ hother
      (hseparated.legacy_ne_revive address target)).left

theorem Payment.step_balanced (hpallets : pallets.Documented)
    (hseparated : Separated pallets) (address : H160) (s : State)
    (payment : Payment) (hallowed : Payment.Allowed pallets s payment) :
    exists reported,
      (Payment.step pallets s payment).events = s.events ++ reported ∧
      totalClaimed address reported +
          (Payment.step pallets s payment).free
            (legacyAccount pallets address) =
        s.free (legacyAccount pallets address) + payment.deposited address := by
  cases payment with
  | claim origin target =>
      unfold Payment.step Payment.deposited
      dsimp only
      cases hclaim : Accounts.claim pallets origin target s with
      | error error => exact ⟨[], (List.append_nil _).symm, Nat.zero_add _⟩
      | ok result =>
          rcases claim_calls hclaim with ⟨_, _, _, _, hcalls⟩
          exact hcalls.balanced hpallets hseparated address
  | deposit target amount after =>
      rcases hallowed with ⟨hevents, htarget, hothers⟩
      refine ⟨[], hevents.trans (List.append_nil _).symm, ?_⟩
      change 0 + after.free _ = _ + if target = address then amount else 0
      rw [Nat.zero_add]
      by_cases hsame : target = address
      · rw [if_pos hsame, ← hsame]
        exact htarget
      · rw [if_neg hsame]
        exact hothers address (Ne.symm hsame)

/-- Along a run, what is claimed and what is left add up to what was there and
what was deposited. -/
theorem run_balanced (hpallets : pallets.Documented)
    (hseparated : Separated pallets) (address : H160) {s t : State}
    {payments : List Payment}
    (hrun : Run (Payment.Allowed pallets) (Payment.step pallets) s payments
      t) :
    exists reported, t.events = s.events ++ reported ∧
      totalClaimed address reported + t.free (legacyAccount pallets address) =
        s.free (legacyAccount pallets address) +
          totalDeposited address payments := by
  induction hrun with
  | nil s => exact ⟨[], (List.append_nil _).symm, Nat.zero_add _⟩
  | cons hallowed _ ih =>
      rename_i s t payment payments _
      rcases Payment.step_balanced hpallets hseparated address s payment
        hallowed with ⟨first, hfirst, hfirstSum⟩
      rcases ih with ⟨second, hsecond, hsecondSum⟩
      refine ⟨first ++ second, ?_, ?_⟩
      · rw [hsecond, hfirst, List.append_assoc]
      · rw [totalClaimed_append]
        unfold totalDeposited at hsecondSum ⊢
        rw [List.map_cons, List.sum_cons]
        lia

/-- After a claim the pool refuses another, nothing is claimable, and moving the
account again changes nothing but the list of events; and along every run of
claims and deposits, what is reported as claimed for an H160 is never more than
its old account held at the start and was paid. -/
theorem nothing_is_claimed_twice (hpallets : pallets.Documented)
    (hseparated : Separated pallets) :
    (forall origin address s billed t,
      claim pallets origin address s = Except.ok (billed, t) ->
        authorizeClaim pallets address t = Except.error nothingToClaim ∧
          claimable pallets address t = false ∧
          exists nonce, moveLegacy pallets address t =
            Except.ok { t with events := t.events ++
              [⟨address, reviveAccount address, 0, nonce⟩] }) ∧
      forall address s payments t,
        Run (Payment.Allowed pallets) (Payment.step pallets) s payments t ->
          exists reported, t.events = s.events ++ reported ∧
            totalClaimed address reported ≤
              s.free (legacyAccount pallets address) +
                totalDeposited address payments := by
  constructor
  · intro origin address s billed t h
    rcases claim_calls h with ⟨_, _, _, _, hcalls⟩
    have hspent := hcalls.spent hpallets hseparated
    exact ⟨hspent.authorizeClaim_eq hpallets.toLawful, hspent.claimable_eq,
      _, hspent.moveLegacy_eq⟩
  · intro address s payments t hrun
    rcases run_balanced hpallets hseparated address hrun with
      ⟨reported, hevents, hsum⟩
    exact ⟨reported, hevents, by lia⟩

theorem reference_separated (deposit claimFee : Nat) :
    Separated (reference deposit claimFee) := by
  have hfrontier := reference_frontierAccounts deposit claimFee
  exact ⟨hfrontier.legacy_injective, hfrontier.legacy_ne_revive,
    fun _ _ _ => rfl⟩

theorem claimed_account_is_spent :
    (claim (reference 10 5) Origin.authorized firstAddress
        firstState).isOk = true ∧
      (forall billed t, claim (reference 10 5) Origin.authorized firstAddress
          firstState = Except.ok (billed, t) ->
        authorizeClaim (reference 10 5) firstAddress t =
          Except.error nothingToClaim) ∧
      exists reported,
        (Payment.step (reference 10 5) firstState
          (Payment.claim Origin.authorized firstAddress)).events = reported ∧
        totalClaimed firstAddress reported ≤ 100 := by
  have hall := nothing_is_claimed_twice (reference_documented (by decide) 5)
    (reference_separated 10 5)
  refine ⟨by decide +kernel, ?_, ?_⟩
  · intro billed t h
    exact (hall.left _ _ _ _ _ h).left
  · have hallowed : Payment.Allowed (reference 10 5) firstState
        (Payment.claim Origin.authorized firstAddress) := trivial
    rcases hall.right firstAddress _ _ _ (Run.single hallowed) with
      ⟨reported, hevents, hle⟩
    exact ⟨reported, hevents, Nat.le_trans hle (by decide +kernel)⟩

end Accounts
end Numen
