import Numen.Erc20.Token

/-!
# What a call does

The effect of a successful call on the storage, read off the precompile once.
The meter only decides whether a call succeeds.
-/

namespace Numen
namespace Erc20

open Foundation
open Accounts

/-!
## Hashes without the meter
-/

def separatorOf (host : Host) : Bytes 32 :=
  host.keccak256 (domainBuffer
    (host.keccak256 (ascii ("EIP712Domain(string name," ++
      "string version,uint256 chainId,address verifyingContract)")))
    (host.keccak256 (ascii "Numen")) (host.keccak256 (ascii "1"))
    host.chainId).toList

/-- The buffer whose hash stands for a permit in the digest. -/
def structBufferOf (host : Host) (permit : Permit) (nonce : U256) :
    Bytes 192 :=
  permitBuffer (host.keccak256 (ascii ("Permit(address owner," ++
    "address spender,uint256 value,uint256 nonce,uint256 deadline)")))
    permit nonce

def digestBufferOf (host : Host) (permit : Permit) (nonce : U256) :
    Bytes 66 :=
  digestBuffer (separatorOf host)
    (host.keccak256 (structBufferOf host permit nonce).toList)

def digestOf (host : Host) (permit : Permit) (nonce : U256) : Bytes 32 :=
  host.keccak256 (digestBufferOf host permit nonce).toList

def signerOf (host : Host) (digest : Bytes 32) (v : UInt8) (r s : Bytes 32) :
    Option H160 :=
  (recoveryId v).bind (fun id =>
    (host.ecdsaRecover (signatureBuffer r s id) digest).bind
      host.ecdsaToEthAddress)

def World.log (w : World) (event : Event) : World :=
  { w with logs := w.logs ++ [event] }

def World.setLedger (w : World) (ledger : State) : World :=
  { w with ledger := ledger }

/-!
## Helpers
-/

section Helpers

variable {host : Host} {env env' : Env}

theorem charge_ok {cost : Cost} (h : charge host cost env = Except.ok env') :
    env'.toWorld = env.toWorld := by
  unfold charge at h
  split at h
  · cases h
    rfl
  · cases h

theorem emit_ok {event : Event} (h : emit host event env = Except.ok env') :
    env'.toWorld = env.toWorld.log event := by
  rcases except_bind_eq_ok h with ⟨charged, hcharge, h⟩
  cases h
  rw [← charge_ok hcharge]
  rfl

theorem caller_ok {frame : Frame} {account : AccountId} {address : H160}
    (h : caller host frame env = Except.ok ((account, address), env')) :
    frame.caller = some account ∧ address = host.toAddress account ∧
      env'.toWorld = env.toWorld := by
  rcases except_bind_eq_ok h with ⟨charged, hcharge, h⟩
  cases hcaller : frame.caller with
  | none =>
      rw [hcaller] at h
      cases h
  | some account' =>
      rw [hcaller] at h
      cases h
      exact ⟨rfl, rfl, charge_ok hcharge⟩

theorem accountOf_ok {address : H160} {account : AccountId}
    (h : accountOf host address env = Except.ok (account, env')) :
    account = host.toAccountId address ∧ env'.toWorld = env.toWorld := by
  rcases except_bind_eq_ok h with ⟨charged, hcharge, h⟩
  cases h
  exact ⟨rfl, charge_ok hcharge⟩

theorem keccak_ok {data : List UInt8} {hash : Bytes 32}
    (h : keccak host data env = Except.ok (hash, env')) :
    hash = host.keccak256 data ∧ env'.toWorld = env.toWorld := by
  rcases except_bind_eq_ok h with ⟨charged, hcharge, h⟩
  cases h
  exact ⟨rfl, charge_ok hcharge⟩

theorem domainSeparator_ok {separator : Bytes 32}
    (h : domainSeparator host env = Except.ok (separator, env')) :
    separator = separatorOf host ∧ env'.toWorld = env.toWorld := by
  rcases except_bind_eq_ok h with ⟨⟨typeHash, first⟩, htype, h⟩
  rcases except_bind_eq_ok h with ⟨⟨name, second⟩, hname, h⟩
  rcases except_bind_eq_ok h with ⟨⟨version, third⟩, hversion, h⟩
  rcases keccak_ok htype with ⟨rfl, hfirst⟩
  rcases keccak_ok hname with ⟨rfl, hsecond⟩
  rcases keccak_ok hversion with ⟨rfl, hthird⟩
  rcases keccak_ok h with ⟨rfl, hlast⟩
  exact ⟨rfl, by rw [hlast, hthird, hsecond, hfirst]⟩

theorem permitDigest_ok {permit : Permit} {nonce : U256} {digest : Bytes 32}
    (h : permitDigest host permit nonce env = Except.ok (digest, env')) :
    digest = digestOf host permit nonce ∧ env'.toWorld = env.toWorld := by
  rcases except_bind_eq_ok h with ⟨⟨typeHash, first⟩, htype, h⟩
  rcases except_bind_eq_ok h with ⟨⟨separator, second⟩, hseparator, h⟩
  rcases except_bind_eq_ok h with ⟨⟨structHash, third⟩, hstruct, h⟩
  rcases keccak_ok htype with ⟨rfl, hfirst⟩
  rcases domainSeparator_ok hseparator with ⟨rfl, hsecond⟩
  rcases keccak_ok hstruct with ⟨rfl, hthird⟩
  rcases keccak_ok h with ⟨rfl, hlast⟩
  exact ⟨rfl, by rw [hlast, hthird, hsecond, hfirst]⟩

theorem signer_ok {digest r s : Bytes 32} {v : UInt8} {found : Option H160}
    (h : signer host digest v r s env = Except.ok (found, env')) :
    found = signerOf host digest v r s ∧ env'.toWorld = env.toWorld := by
  unfold signer at h
  unfold signerOf
  cases hid : recoveryId v with
  | none =>
      rw [hid] at h
      cases h
      exact ⟨rfl, rfl⟩
  | some id =>
      rw [hid] at h
      rcases except_bind_eq_ok h with ⟨first, hfirst, h⟩
      rw [Option.bind_some]
      cases hpublic : host.ecdsaRecover (signatureBuffer r s id) digest with
      | none =>
          rw [hpublic] at h
          cases h
          exact ⟨rfl, charge_ok hfirst⟩
      | some publicKey =>
          rw [hpublic] at h
          rcases except_bind_eq_ok h with ⟨second, hsecond, h⟩
          cases h
          exact ⟨rfl, (charge_ok hsecond).trans (charge_ok hfirst)⟩

theorem toBalance_ok {value : U256} {amount : Nat}
    (h : toBalance value = Except.ok amount) :
    amount = value.toNat ∧ value.toNat < 2 ^ 128 := by
  unfold toBalance at h
  split at h
  · rename_i hlt
    cases h
    exact ⟨rfl, hlt⟩
  · cases h

theorem orRevert_ok {reason : String} {result : Except DispatchError State}
    {s : State} (h : orRevert reason result = Except.ok s) :
    result = Except.ok s := by
  unfold orRevert at h
  split at h
  · cases h
    rfl
  · cases h

theorem orFail_ok {result : Except DispatchError State} {s : State}
    (h : orFail result = Except.ok s) : result = Except.ok s := by
  unfold orFail at h
  split at h
  · cases h
    rfl
  · cases h

theorem checkedSub_eq_some {a b left : U256}
    (h : checkedSub a b = some left) : left.toNat + b.toNat = a.toNat := by
  unfold checkedSub at h
  split at h
  · rename_i hle
    cases h
    have hlt := a.isLt
    rw [BitVec.toNat_ofNat, Nat.mod_eq_of_lt (by lia)]
    lia
  · cases h

theorem toNat_saturatingAdd (a b : U256) :
    (saturatingAdd a b).toNat = satAdd u256Max a.toNat b.toNat := by
  have hle := satAdd_le_top u256Max a.toNat b.toNat
  unfold saturatingAdd
  rw [BitVec.toNat_ofNat]
  exact Nat.mod_eq_of_lt (Nat.lt_of_le_of_lt hle (by decide))

end Helpers

/-!
## One case per function
-/

inductive CallCase (host : Host) (frame : Frame) (w : World) :
    Call -> World -> Prop where
  | view {input : Call} :
      input.writes = false ->
      CallCase host frame w input w
  | approve {account : AccountId} {spender : H160} {value : U256} :
      frame.caller = some account ->
      CallCase host frame w (Call.approve spender value)
        ((w.setAllowance (host.toAddress account) spender value).log
          (Event.approval (host.toAddress account) spender value))
  | transfer {account : AccountId} {target : H160} {value : U256}
      {ledger : State} :
      frame.caller = some account ->
      moveFunds host account (host.toAccountId target) value w.ledger =
        Except.ok ledger ->
      CallCase host frame w (Call.transfer target value)
        ((w.setLedger ledger).log
          (Event.transfer (host.toAddress account) target value))
  /-- Spending one's own funds needs no allowance. -/
  | transferOwn {account : AccountId} {target : H160} {value : U256}
      {ledger : State} :
      frame.caller = some account ->
      moveFunds host (host.toAccountId (host.toAddress account))
        (host.toAccountId target) value w.ledger = Except.ok ledger ->
      CallCase host frame w
        (Call.transferFrom (host.toAddress account) target value)
        ((w.setLedger ledger).log
          (Event.transfer (host.toAddress account) target value))
  | transferFrom {account : AccountId} {source target : H160}
      {value left : U256} {ledger : State} :
      frame.caller = some account ->
      source ≠ host.toAddress account ->
      checkedSub (w.allowance source (host.toAddress account)) value =
        some left ->
      moveFunds host (host.toAccountId source) (host.toAccountId target)
        value w.ledger = Except.ok ledger ->
      CallCase host frame w (Call.transferFrom source target value)
        (((w.setAllowance source (host.toAddress account) left).setLedger
          ledger).log (Event.transfer source target value))
  | withdraw {account : AccountId} {dest : Bytes 32} {value : U256}
      {ledger : State} :
      frame.caller = some account ->
      moveFunds host account dest value w.ledger = Except.ok ledger ->
      CallCase host frame w (Call.withdraw dest value)
        ((w.setLedger ledger).log
          (Event.withdrawal (host.toAddress account) dest value))
  | deposit {account : AccountId} {ledger : State} :
      frame.caller = some account ->
      frame.value ≠ 0 ->
      host.pallets.transfer frame.accountId account frame.value.toNat
        Preservation.preserve w.ledger = Except.ok ledger ->
      CallCase host frame w Call.deposit
        ((w.setLedger ledger).log
          (Event.deposit (host.toAddress account) frame.value))
  | permit {permit : Permit} :
      frame.now.toNat ≤ permit.deadline.toNat ->
      signerOf host (digestOf host permit (w.nonce permit.owner)) permit.v
        permit.r permit.s = some permit.owner ->
      CallCase host frame w (Call.permit permit)
        (((w.setNonce permit.owner
          (saturatingAdd (w.nonce permit.owner) 1)).setAllowance permit.owner
            permit.spender permit.value).log
          (Event.approval permit.owner permit.spender permit.value))

section Cases

variable {host : Host} {frame : Frame} {env env' : Env} {output : Output}

theorem approve_cases {spender : H160} {value : U256}
    (h : approve host frame spender value env = Except.ok (output, env')) :
    CallCase host frame env.toWorld (Call.approve spender value)
      env'.toWorld := by
  rcases except_bind_eq_ok h with ⟨first, hcharge, h⟩
  rcases except_bind_eq_ok h with ⟨⟨⟨account, owner⟩, second⟩, hcaller, h⟩
  rcases except_bind_eq_ok h with ⟨third, hemit, h⟩
  cases h
  rcases caller_ok hcaller with ⟨hsender, rfl, hsecond⟩
  rw [emit_ok hemit, hsecond, charge_ok hcharge]
  exact CallCase.approve hsender

theorem transfer_cases {target : H160} {value : U256}
    (h : transfer host frame target value env = Except.ok (output, env')) :
    CallCase host frame env.toWorld (Call.transfer target value)
      env'.toWorld := by
  rcases except_bind_eq_ok h with ⟨first, hcharge, h⟩
  rcases except_bind_eq_ok h with ⟨⟨⟨account, source⟩, second⟩, hcaller, h⟩
  rcases except_bind_eq_ok h with ⟨⟨targetAccount, third⟩, htarget, h⟩
  rcases except_bind_eq_ok h with ⟨ledger, hmove, h⟩
  rcases except_bind_eq_ok h with ⟨fourth, hemit, h⟩
  cases h
  rcases caller_ok hcaller with ⟨hsender, rfl, hsecond⟩
  rcases accountOf_ok htarget with ⟨rfl, hthird⟩
  have hworld : third.toWorld = env.toWorld := by
    rw [hthird, hsecond, charge_ok hcharge]
  rw [emit_ok hemit]
  change moveFunds host account _ value third.toWorld.ledger = _ at hmove
  show CallCase _ _ _ _ ((third.toWorld.setLedger ledger).log _)
  rw [hworld] at hmove ⊢
  exact CallCase.transfer hsender hmove

theorem transferFrom_cases {source target : H160} {value : U256}
    (h : transferFrom host frame source target value env =
      Except.ok (output, env')) :
    CallCase host frame env.toWorld (Call.transferFrom source target value)
      env'.toWorld := by
  rcases except_bind_eq_ok h with ⟨first, hcharge, h⟩
  rcases except_bind_eq_ok h with ⟨⟨⟨account, spender⟩, second⟩, hcaller, h⟩
  rcases except_bind_eq_ok h with ⟨third, hspend, h⟩
  rcases except_bind_eq_ok h with ⟨⟨sourceAccount, fourth⟩, hsource, h⟩
  rcases except_bind_eq_ok h with ⟨⟨targetAccount, fifth⟩, htarget, h⟩
  rcases except_bind_eq_ok h with ⟨ledger, hmove, h⟩
  rcases except_bind_eq_ok h with ⟨sixth, hemit, h⟩
  cases h
  rcases caller_ok hcaller with ⟨hsender, rfl, hsecond⟩
  rcases accountOf_ok hsource with ⟨rfl, hfourth⟩
  rcases accountOf_ok htarget with ⟨rfl, hfifth⟩
  have hbefore : second.toWorld = env.toWorld := by
    rw [hsecond, charge_ok hcharge]
  have hafter : fifth.toWorld = third.toWorld := by
    rw [hfifth, hfourth]
  rw [emit_ok hemit]
  change moveFunds host _ _ value fifth.toWorld.ledger = _ at hmove
  show CallCase _ _ _ _ ((fifth.toWorld.setLedger ledger).log _)
  rw [hafter] at hmove ⊢
  unfold spendAllowance at hspend
  split at hspend
  · rename_i hother
    cases hsub : checkedSub
        (second.allowance source (host.toAddress account)) value with
    | none =>
        rw [hsub] at hspend
        cases hspend
    | some left =>
        rw [hsub] at hspend
        cases hspend
        change moveFunds host _ _ value second.toWorld.ledger = _ at hmove
        show CallCase _ _ _ _ (((second.toWorld.setAllowance _ _ _).setLedger
          ledger).log _)
        rw [hbefore] at hmove hsub ⊢
        exact CallCase.transferFrom hsender hother hsub hmove
  · rename_i hown
    cases hspend
    rw [Classical.not_not.mp hown]
    rw [Classical.not_not.mp hown, hbefore] at hmove
    rw [hbefore]
    exact CallCase.transferOwn hsender hmove

theorem withdraw_cases {dest : Bytes 32} {value : U256}
    (h : withdraw host frame dest value env = Except.ok (output, env')) :
    CallCase host frame env.toWorld (Call.withdraw dest value)
      env'.toWorld := by
  rcases except_bind_eq_ok h with ⟨first, hcharge, h⟩
  rcases except_bind_eq_ok h with ⟨⟨⟨account, source⟩, second⟩, hcaller, h⟩
  rcases except_bind_eq_ok h with ⟨ledger, hmove, h⟩
  rcases except_bind_eq_ok h with ⟨third, hemit, h⟩
  cases h
  rcases caller_ok hcaller with ⟨hsender, rfl, hsecond⟩
  have hworld : second.toWorld = env.toWorld := by
    rw [hsecond, charge_ok hcharge]
  rw [emit_ok hemit]
  change moveFunds host account _ value second.toWorld.ledger = _ at hmove
  show CallCase _ _ _ _ ((second.toWorld.setLedger ledger).log _)
  rw [hworld] at hmove ⊢
  exact CallCase.withdraw hsender hmove

theorem deposit_cases
    (h : deposit host frame env = Except.ok (output, env')) :
    CallCase host frame env.toWorld Call.deposit env'.toWorld := by
  rcases except_bind_eq_ok h with ⟨first, hcharge, h⟩
  dsimp only at h
  split at h
  · cases h
  · rename_i hvalue
    rcases except_bind_eq_ok h with ⟨⟨⟨account, target⟩, second⟩, hcaller, h⟩
    rcases except_bind_eq_ok h with ⟨amount, hamount, h⟩
    rcases except_bind_eq_ok h with ⟨ledger, htransfer, h⟩
    rcases except_bind_eq_ok h with ⟨third, hemit, h⟩
    cases h
    rcases caller_ok hcaller with ⟨hsender, rfl, hsecond⟩
    rcases toBalance_ok hamount with ⟨rfl, _⟩
    have hworld : second.toWorld = env.toWorld := by
      rw [hsecond, charge_ok hcharge]
    have hmove := orRevert_ok htransfer
    rw [emit_ok hemit]
    show CallCase _ _ _ _ ((second.toWorld.setLedger ledger).log _)
    rw [hworld] at hmove ⊢
    exact CallCase.deposit hsender hvalue hmove

theorem permit_cases {arguments : Permit}
    (h : permit host frame arguments env = Except.ok (output, env')) :
    CallCase host frame env.toWorld (Call.permit arguments)
      env'.toWorld := by
  rcases except_bind_eq_ok h with ⟨first, hcharge, h⟩
  dsimp only at h
  split at h
  · cases h
  · rename_i hlate
    rcases except_bind_eq_ok h with ⟨⟨digest, second⟩, hdigest, h⟩
    rcases except_bind_eq_ok h with ⟨⟨found, third⟩, hfound, h⟩
    dsimp only at h
    split at h
    · cases h
    · rename_i hsigner
      rcases except_bind_eq_ok h with ⟨fourth, hemit, h⟩
      cases h
      rcases permitDigest_ok hdigest with ⟨rfl, hsecond⟩
      rcases signer_ok hfound with ⟨rfl, hthird⟩
      have hfirst := charge_ok hcharge
      have hworld : third.toWorld = env.toWorld := by
        rw [hthird, hsecond, hfirst]
      have hsigned := Classical.not_not.mp hsigner
      rw [emit_ok hemit]
      show CallCase _ _ _ _ (((third.toWorld.setNonce _
        (saturatingAdd (first.toWorld.nonce _) 1)).setAllowance _ _ _).log _)
      rw [hworld, hfirst]
      rw [hfirst] at hsigned
      exact CallCase.permit (Nat.le_of_not_lt hlate) hsigned

end Cases

theorem call_cases {host : Host} {frame : Frame} {input : Call}
    {env env' : Env} {output : Output}
    (h : call host frame input env = Except.ok (output, env')) :
    (input = Call.deposit ∨ frame.value = 0) ∧
      CallCase host frame env.toWorld input env'.toWorld := by
  unfold call at h
  split at h
  · cases h
  split at h
  · cases h
  split at h
  · cases h
  · rename_i hpayable
    have hvalue : input = Call.deposit ∨ frame.value = 0 := by
      by_cases hdeposit : input = Call.deposit
      · exact Or.inl hdeposit
      · refine Or.inr (Classical.byContradiction ?_)
        intro hne
        exact hpayable ⟨hdeposit, hne⟩
    refine ⟨hvalue, ?_⟩
    cases input with
    | name =>
        cases h
        exact CallCase.view rfl
    | symbol =>
        cases h
        exact CallCase.view rfl
    | decimals =>
        cases h
        exact CallCase.view rfl
    | totalSupply =>
        rcases except_bind_eq_ok h with ⟨charged, hcharge, h⟩
        cases h
        rw [charge_ok hcharge]
        exact CallCase.view rfl
    | balanceOf owner =>
        rcases except_bind_eq_ok h with ⟨charged, hcharge, h⟩
        cases h
        rw [charge_ok hcharge]
        exact CallCase.view rfl
    | allowance owner spender =>
        rcases except_bind_eq_ok h with ⟨charged, hcharge, h⟩
        cases h
        rw [charge_ok hcharge]
        exact CallCase.view rfl
    | approve spender value =>
        exact approve_cases h
    | transfer target value =>
        exact transfer_cases h
    | transferFrom source target value =>
        exact transferFrom_cases h
    | withdraw dest value =>
        exact withdraw_cases h
    | deposit =>
        exact deposit_cases h
    | nonces owner =>
        rcases except_bind_eq_ok h with ⟨charged, hcharge, h⟩
        cases h
        rw [charge_ok hcharge]
        exact CallCase.view rfl
    | domainSeparator =>
        rcases except_bind_eq_ok h with ⟨charged, hcharge, h⟩
        rcases except_bind_eq_ok h with ⟨⟨separator, last⟩, hlast, h⟩
        cases h
        rw [(domainSeparator_ok hlast).right, charge_ok hcharge]
        exact CallCase.view rfl
    | permit arguments =>
        exact permit_cases h

/-- A successful call through the proxy: the value is handed over, and the call
does its part. -/
theorem transact_cases {host : Host} {tx : Transaction} {w after : World}
    {output : Output} (h : transact host tx w = Except.ok (output, after)) :
    exists ledger,
      host.transferValue tx.sender (proxyAccount host) tx.value w.ledger =
        Except.ok ledger ∧
      (tx.input = Call.deposit ∨ tx.value = 0) ∧
      CallCase host (tx.frame host) (w.setLedger ledger) tx.input after := by
  rcases except_bind_eq_ok h with ⟨ledger, hvalue, h⟩
  rcases except_bind_eq_ok h with ⟨⟨result, env⟩, hcall, h⟩
  cases h
  rcases call_cases hcall with ⟨hpayable, hcase⟩
  exact ⟨ledger, orFail_ok hvalue, hpayable, hcase⟩

theorem ledger_of_not_deposit {host : Host} (hlawful : host.Lawful)
    {tx : Transaction} {w : World} {ledger : State}
    (hvalue : host.transferValue tx.sender (proxyAccount host) tx.value
      w.ledger = Except.ok ledger)
    (hpayable : tx.input = Call.deposit ∨ tx.value = 0)
    (hinput : tx.input ≠ Call.deposit) : ledger = w.ledger := by
  rw [hpayable.resolve_left hinput] at hvalue
  exact hlawful.transferValue_zero _ _ _ _ hvalue

end Erc20
end Numen
