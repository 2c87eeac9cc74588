import Numen.Accounts.Reference

/-!
# A claim conserves money

What the old account loses arrives at the new one, less the fee.  The only
money a claim creates is the existential deposit of an account it has to open,
and that deposit is inactive from the start.
-/

namespace Numen
namespace Accounts

open Foundation

variable {pallets : Pallets}

/-- Accounts other than the two a claim is about keep record and vesting. -/
def OthersUntouched (legacy account : AccountId) (s t : State) : Prop :=
  forall who, who ≠ legacy -> who ≠ account ->
    t.account who = s.account who ∧ t.vesting who = s.vesting who

theorem OthersUntouched.trans {legacy account : AccountId} {s t u : State}
    (hst : OthersUntouched legacy account s t)
    (htu : OthersUntouched legacy account t u) :
    OthersUntouched legacy account s u := by
  intro who hlegacy haccount
  have hfirst := hst who hlegacy haccount
  have hsecond := htu who hlegacy haccount
  exact ⟨hsecond.left.trans hfirst.left, hsecond.right.trans hfirst.right⟩

theorem BalanceChange.othersUntouched {deposit : Nat}
    {touched : AccountId -> Prop} {legacy account : AccountId} {s t : State}
    (h : BalanceChange deposit touched s t)
    (hpair : forall who, touched who -> who = legacy ∨ who = account) :
    OthersUntouched legacy account s t := by
  intro who hlegacy haccount
  refine ⟨h.untouched who ?_, congrArg (fun vesting => vesting who) h.vesting⟩
  intro htouched
  rcases hpair who htouched with heq | heq
  · exact hlegacy heq
  · exact haccount heq

theorem VestingChange.free_eq {who : AccountId} {s t : State}
    (h : VestingChange who s t) (other : AccountId) :
    t.free other = s.free other := by
  by_cases hself : other = who
  · rw [hself]
    exact h.free
  · exact State.free_congr (h.untouched other hself).left

theorem VestingChange.totalBalance_eq {who : AccountId} {s t : State}
    (h : VestingChange who s t) (other : AccountId) :
    t.totalBalance other = s.totalBalance other := by
  unfold State.totalBalance
  by_cases hself : other = who
  · rw [hself, h.free, h.reserved]
  · rw [(h.untouched other hself).left]

theorem VestingChange.activeIssuance_eq {who : AccountId} {s t : State}
    (h : VestingChange who s t) : t.activeIssuance = s.activeIssuance := by
  unfold State.activeIssuance
  rw [h.totalIssuance, h.inactiveIssuance]

/-!
## Opening the new account
-/

/-- The existential deposit an account without balance needs. -/
def openingDeposit (pallets : Pallets) (s : State) (account : AccountId) :
    Nat :=
  if s.totalBalance account = 0 then pallets.minimumBalance else 0

theorem openAccount_ok (hlawful : pallets.Lawful) {account : AccountId}
    {s t : State} (h : openAccount pallets account s = Except.ok t) :
    t.free account = s.free account + openingDeposit pallets s account ∧
      t.totalIssuance =
        s.totalIssuance + openingDeposit pallets s account ∧
      t.activeIssuance = s.activeIssuance := by
  unfold openAccount at h
  unfold openingDeposit
  split at h
  · rename_i hempty
    rw [if_pos hempty]
    rcases except_bind_eq_ok h with ⟨minted, hminted, hreturn⟩
    rw [hlawful.deactivate_eq] at hreturn
    cases hreturn
    rcases hlawful.mintInto_ok account _ s minted hminted with
      ⟨_, hfree, htotal, hinactive⟩
    refine ⟨hfree, htotal, ?_⟩
    show minted.totalIssuance -
      min (minted.inactiveIssuance + _) minted.totalIssuance = _
    unfold State.activeIssuance
    rw [htotal, hinactive]
    lia
  · rename_i hfunded
    rw [if_neg hfunded]
    cases h
    exact ⟨rfl, rfl, rfl⟩

/-!
## Moving the balance
-/

/-- What moving `amount` from `legacy` to `account` does to the money. -/
structure Moved (legacy account : AccountId) (amount deposit : Nat)
    (s t : State) : Prop where
  legacy_free : t.free legacy + amount = s.free legacy
  account_free : t.free account = s.free account + amount + deposit
  totalIssuance : t.totalIssuance = s.totalIssuance + deposit
  activeIssuance : t.activeIssuance = s.activeIssuance
  others : OthersUntouched legacy account s t

theorem MoveStages.moved (hlawful : pallets.Lawful)
    {legacy account : AccountId} (hne : legacy ≠ account)
    {s cleared opened moved t : State}
    (h : MoveStages pallets legacy account s cleared opened moved t) :
    Moved legacy account (s.free legacy) (openingDeposit pallets s account)
      s t := by
  have hopen := openAccount_change hlawful h.opens
  rcases openAccount_ok hlawful h.opens with
    ⟨hopenFree, hopenTotal, hopenActive⟩
  have hdeposit : openingDeposit pallets cleared account =
      openingDeposit pallets s account := by
    unfold openingDeposit
    rw [h.clear.totalBalance_eq]
  rcases hlawful.transfer_ok legacy account opened moved hne h.transfer with
    ⟨hchange, hsource, htarget, htotal, hinactive⟩
  constructor
  · rw [h.vest.free_eq, hsource, Nat.zero_add]
  · rw [h.vest.free_eq, htarget, hopenFree, h.clear.free_eq, hdeposit,
      h.legacy_free]
    lia
  · rw [h.vest.totalIssuance, htotal, hopenTotal, h.clear.totalIssuance,
      hdeposit]
  · have hmovedActive : moved.activeIssuance = opened.activeIssuance := by
      unfold State.activeIssuance
      rw [htotal, hinactive]
    rw [h.vest.activeIssuance_eq, hmovedActive, hopenActive,
      h.clear.activeIssuance_eq]
  · have hfirst : OthersUntouched legacy account s cleared :=
      fun who hlegacy _ => h.clear.untouched who hlegacy
    have hsecond : OthersUntouched legacy account cleared opened :=
      hopen.othersUntouched (fun _ htouched => Or.inr htouched)
    have hthird : OthersUntouched legacy account opened moved :=
      hchange.othersUntouched (fun _ htouched => htouched)
    have hfourth : OthersUntouched legacy account moved t :=
      fun who _ haccount => h.vest.untouched who haccount
    exact ((hfirst.trans hsecond).trans hthird).trans hfourth

/-- The deposit it takes to move `amount` to `account`. -/
def movingDeposit (pallets : Pallets) (s : State) (account : AccountId)
    (amount : Nat) : Nat :=
  if 0 < amount ∧ s.totalBalance account = 0 then pallets.minimumBalance
  else 0

theorem Moved.refl (legacy account : AccountId) (s : State) :
    Moved legacy account 0 (movingDeposit pallets s account 0) s s :=
  ⟨rfl, rfl, rfl, rfl, fun _ _ _ => ⟨rfl, rfl⟩⟩

theorem moveBalance_ok (hlawful : pallets.Lawful) {legacy account : AccountId}
    (hne : legacy ≠ account) {amount : Nat} {s t : State}
    (h : moveBalance pallets legacy account s = Except.ok (amount, t)) :
    amount = s.free legacy ∧
      Moved legacy account amount (movingDeposit pallets s account amount)
        s t := by
  rcases moveBalance_cases hlawful hne h with ⟨hamount, hcase⟩
  refine ⟨hamount, ?_⟩
  rw [hamount]
  rcases hcase with ⟨hzero, heq⟩ | ⟨hpositive, _, _, _, hstages⟩
  · rw [hzero, heq]
    exact Moved.refl legacy account s
  · have hdeposit : movingDeposit pallets s account (s.free legacy) =
        openingDeposit pallets s account := by
      unfold movingDeposit openingDeposit
      simp [Nat.pos_of_ne_zero hpositive]
    rw [hdeposit]
    exact hstages.moved hlawful hne

def claimedAmount (s : State) (legacy : AccountId) : Nat :=
  if movable s legacy then s.free legacy else 0

theorem moveMovable_ok (hlawful : pallets.Lawful) {legacy account : AccountId}
    (hne : legacy ≠ account) {amount : Nat} {s t : State}
    (h : moveMovable pallets legacy account s = Except.ok (amount, t)) :
    amount = claimedAmount s legacy ∧
      Moved legacy account amount (movingDeposit pallets s account amount)
        s t := by
  unfold moveMovable at h
  unfold claimedAmount
  by_cases hmovable : movable s legacy = true
  · rw [if_pos hmovable] at h ⊢
    exact moveBalance_ok hlawful hne h
  · rw [if_neg hmovable] at h ⊢
    cases h
    exact ⟨rfl, Moved.refl legacy account s⟩

theorem dropEmpty_free (legacy : AccountId) (s : State) (who : AccountId) :
    (dropEmpty legacy s).free who = s.free who := by
  unfold dropEmpty
  split
  · rename_i hempty
    by_cases hself : who = legacy
    · have hzero : s.free legacy + (s.account legacy).data.reserved = 0 :=
        hempty.right
      unfold State.free at hzero ⊢
      rw [hself, State.account_setAccount_self]
      show 0 = _
      lia
    · exact State.free_congr (State.account_setAccount_of_ne _ _ hself)
  · rfl

theorem dropEmpty_moved (legacy account : AccountId) (s : State) :
    Moved legacy account 0 0 s (dropEmpty legacy s) := by
  refine ⟨dropEmpty_free legacy s legacy, dropEmpty_free legacy s account,
    ?_, ?_, ?_⟩
  · unfold dropEmpty
    split <;> rfl
  · unfold dropEmpty
    split <;> rfl
  · intro who hlegacy _
    unfold dropEmpty
    split
    · exact ⟨State.account_setAccount_of_ne _ _ hlegacy, rfl⟩
    · exact ⟨rfl, rfl⟩

theorem Moved.trans {legacy account : AccountId}
    {amount deposit amount' deposit' : Nat} {s t u : State}
    (hst : Moved legacy account amount deposit s t)
    (htu : Moved legacy account amount' deposit' t u) :
    Moved legacy account (amount + amount') (deposit + deposit') s u where
  legacy_free := by
    have hfirst := hst.legacy_free
    have hsecond := htu.legacy_free
    lia
  account_free := by
    rw [htu.account_free, hst.account_free]
    lia
  totalIssuance := by
    rw [htu.totalIssuance, hst.totalIssuance, Nat.add_assoc]
  activeIssuance := htu.activeIssuance.trans hst.activeIssuance
  others := hst.others.trans htu.others

theorem NonceChange.moved {legacy account : AccountId} {s t : State}
    (h : NonceChange account s t) (hne : legacy ≠ account) :
    Moved legacy account 0 0 s t := by
  refine ⟨?_, ?_, h.totalIssuance, ?_, ?_⟩
  · exact State.free_congr (h.untouched legacy hne)
  · exact congrArg AccountData.free h.data
  · unfold State.activeIssuance
    rw [h.totalIssuance, h.inactiveIssuance]
  · intro who _ haccount
    exact ⟨h.untouched who haccount,
      congrArg (fun vesting => vesting who) h.vesting⟩

theorem moveLegacy_ok (hlawful : pallets.Lawful) {address : H160}
    (hne : legacyAccount pallets address ≠ reviveAccount address)
    {s t : State} (h : moveLegacy pallets address s = Except.ok t) :
    Moved (legacyAccount pallets address) (reviveAccount address)
      (claimedAmount s (legacyAccount pallets address))
      (movingDeposit pallets s (reviveAccount address)
        (claimedAmount s (legacyAccount pallets address))) s t := by
  rcases moveLegacy_calls h with ⟨amount, moved, hmoved, heq⟩
  subst heq
  have hcarry := carryNonce_change hlawful (legacyAccount pallets address)
    (reviveAccount address) s
  rcases moveMovable_ok hlawful hne hmoved with ⟨hamount, hmove⟩
  -- carrying the nonce changes none of the numbers the move depends on
  have hsame := hcarry.untouched _ hne
  have hclaimed : amount =
      claimedAmount s (legacyAccount pallets address) := by
    rw [hamount]
    unfold claimedAmount
    rw [movable_congr hsame hcarry.locks hcarry.freezes,
      State.free_congr hsame]
  have hdeposit : movingDeposit pallets (carryNonce pallets
        (legacyAccount pallets address) (reviveAccount address) s).2
        (reviveAccount address) amount =
      movingDeposit pallets s (reviveAccount address) amount := by
    unfold movingDeposit State.totalBalance
    rw [hcarry.data]
  rw [hdeposit, hclaimed] at hmove
  have hall := ((hcarry.moved hne).trans hmove).trans
    (dropEmpty_moved (legacyAccount pallets address) (reviveAccount address)
      moved)
  rw [Nat.zero_add, Nat.zero_add, Nat.add_zero, Nat.add_zero] at hall
  exact ⟨hall.legacy_free, hall.account_free, hall.totalIssuance,
    hall.activeIssuance, hall.others⟩

/-!
## The fee
-/

theorem payFee_ok (hlawful : pallets.Lawful) {account : AccountId} {fee : Nat}
    {s t : State} {credit : Option Nat}
    (h : payFee pallets account fee s = Except.ok (credit, t)) :
    credit.getD 0 ≤ fee ∧ t.free account + credit.getD 0 = s.free account ∧
      (forall who, who ≠ account -> t.account who = s.account who) ∧
      t.vesting = s.vesting ∧ t.totalIssuance = s.totalIssuance ∧
      t.activeIssuance = s.activeIssuance := by
  unfold payFee at h
  split at h
  · cases h
    exact ⟨Nat.zero_le fee, rfl, fun _ _ => rfl, rfl, rfl, rfl⟩
  · rcases except_bind_eq_ok h with ⟨⟨paid, after⟩, hwithdrawn, h⟩
    cases h
    rcases hlawful.withdraw_ok account fee s paid _ hwithdrawn with
      ⟨hchange, hle, hfree, htotal, hinactive⟩
    refine ⟨hle, hfree, hchange.untouched, hchange.vesting, htotal, ?_⟩
    unfold State.activeIssuance
    rw [htotal, hinactive]

theorem feeDue_le (hlawful : pallets.Lawful) (s : State)
    (legacy : AccountId) :
    feeDue pallets s legacy ≤ pallets.claimFee ∧
      feeDue pallets s legacy ≤ spendable pallets s legacy ∧
      feeDue pallets s legacy ≤ claimedAmount s legacy := by
  have hspendable : spendable pallets s legacy ≤ s.free legacy :=
    hlawful.reducibleBalance_le _ _ _ _
  unfold feeDue claimedAmount
  split
  · refine ⟨Nat.min_le_left _ _, Nat.min_le_right _ _, ?_⟩
    exact Nat.le_trans (Nat.min_le_right _ _) hspendable
  · exact ⟨Nat.zero_le _, Nat.zero_le _, Nat.le_refl 0⟩

/-- Every successful claim settles in a state `t`, just before its fee is
handed on, in which the money adds up: the fee is at most `ClaimFee` and what
the old account could spend; the old account lost exactly the amount moved; the
new one gained it and a deposit if it had to be opened, less the fee; only that
deposit was issued, and none of it is active; and nobody else was touched. -/
theorem claim_conserves_money (hlawful : pallets.Lawful) {address : H160}
    (hne : legacyAccount pallets address ≠ reviveAccount address)
    {origin : Origin} {s after : State} {billed : Nat}
    (h : claim pallets origin address s = Except.ok (billed, after)) :
    exists credit t, settleClaim pallets address s = Except.ok (credit, t) ∧
      after = handOn pallets credit t ∧
      let legacy := legacyAccount pallets address
      let account := reviveAccount address
      let amount := if movable s legacy then s.free legacy else 0
      let deposit :=
        if 0 < amount ∧ s.totalBalance account = 0 then
          pallets.minimumBalance
        else 0
      let paid := credit.getD 0
      paid ≤ pallets.claimFee ∧ paid ≤ spendable pallets s legacy ∧
        t.free legacy + amount = s.free legacy ∧
        t.free account + paid = s.free account + amount + deposit ∧
        s.free account ≤ t.free account ∧
        t.totalIssuance = s.totalIssuance + deposit ∧
        t.activeIssuance = s.activeIssuance ∧
        forall who, who ≠ legacy -> who ≠ account ->
          t.account who = s.account who ∧ t.vesting who = s.vesting who := by
  unfold claim at h
  dsimp only at h
  rcases except_bind_eq_ok h with ⟨_, _, h⟩
  rcases except_bind_eq_ok h with ⟨⟨credit, t⟩, hsettled, h⟩
  cases h
  refine ⟨credit, t, hsettled, rfl, ?_⟩
  intro legacy account amount deposit paid
  unfold settleClaim at hsettled
  rcases except_bind_eq_ok hsettled with ⟨moved, hmoved, hpaid⟩
  have hmove := moveLegacy_ok hlawful hne hmoved
  have hfee := feeDue_le hlawful s legacy
  rcases payFee_ok hlawful hpaid with
    ⟨hpaidLe, hpaidFree, hpaidOthers, hpaidVesting, hpaidTotal, hpaidActive⟩
  have haccountFree : moved.free account = s.free account + amount + deposit :=
    hmove.account_free
  have hpaidAmount : paid ≤ amount := Nat.le_trans hpaidLe hfee.right.right
  have hpaidAccount : t.free account + paid = moved.free account := hpaidFree
  refine ⟨Nat.le_trans hpaidLe hfee.left,
    Nat.le_trans hpaidLe hfee.right.left, ?_, ?_, ?_, ?_, ?_, ?_⟩
  · have hsame : t.free legacy = moved.free legacy :=
      State.free_congr (hpaidOthers legacy hne)
    rw [hsame]
    exact hmove.legacy_free
  · rw [hpaidAccount, haccountFree]
  · lia
  · exact hpaidTotal.trans hmove.totalIssuance
  · exact hpaidActive.trans hmove.activeIssuance
  · intro who hlegacy haccount
    have hothers := hmove.others who hlegacy haccount
    rw [hpaidOthers who haccount, hpaidVesting]
    exact hothers

theorem claim_of_vesting_account_conserves_money :
    (claim (reference 10 5) Origin.authorized firstAddress
        firstState).isOk = true ∧
      exists credit t,
        settleClaim (reference 10 5) firstAddress firstState =
          Except.ok (credit, t) ∧
        t.free (legacyAccount (reference 10 5) firstAddress) = 0 ∧
        t.free (reviveAccount firstAddress) + credit.getD 0 = 110 ∧
        t.totalIssuance = 110 ∧ t.activeIssuance = 100 := by
  have hok : (claim (reference 10 5) Origin.authorized firstAddress
      firstState).isOk = true := by
    decide +kernel
  refine ⟨hok, ?_⟩
  rcases except_of_isOk hok with ⟨⟨billed, after⟩, hclaim⟩
  rcases claim_conserves_money (reference_lawful (by decide) 5)
    (by decide +kernel) hclaim with
    ⟨credit, t, hsettled, _, _, _, hlegacy, haccount, _, htotal, hactive, _⟩
  have hamount : (if movable firstState
      (legacyAccount (reference 10 5) firstAddress) = true then
      firstState.free (legacyAccount (reference 10 5) firstAddress)
      else 0) = 100 := by
    decide +kernel
  have hempty : firstState.totalBalance (reviveAccount firstAddress) = 0 := by
    decide +kernel
  have hfree : firstState.free
      (legacyAccount (reference 10 5) firstAddress) = 100 := by
    decide +kernel
  have hnew : firstState.free (reviveAccount firstAddress) = 0 := by
    decide +kernel
  rw [hamount] at hlegacy haccount htotal
  rw [if_pos ⟨by decide, hempty⟩] at haccount htotal
  rw [hfree] at hlegacy
  rw [hnew] at haccount
  exact ⟨credit, t, hsettled, by lia, haccount, htotal, hactive⟩

end Accounts
end Numen
