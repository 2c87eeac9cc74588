import Numen.Erc20.Effects
import Numen.Erc20.Reference

/-!
# Permits

A permit is signed over a digest that holds the nonce its owner has reached, and
using it raises that nonce.  The layout of the hashed buffers determines the
nonce, so one signature cannot serve two permits.
-/

namespace Numen
namespace Erc20

open Foundation
open Accounts

/-!
## The digest of a permit

The encoding of EIP-712, field after field.
-/

namespace Eip712

def addressWord (address : H160) : List UInt8 :=
  (Bytes.replicate 12 0).toList ++ address.toList

/-- The domain of the token on this chain. -/
def domainSeparator (host : Host) : Bytes 32 :=
  host.keccak256
    ((host.keccak256 (ascii ("EIP712Domain(string name," ++
        "string version,uint256 chainId,address verifyingContract)"))).toList ++
      ((host.keccak256 (ascii "Numen")).toList ++
        ((host.keccak256 (ascii "1")).toList ++
          ((toBigEndian (BitVec.ofNat 256 host.chainId.toNat)).toList ++
            addressWord address))))

def structEncoding (host : Host) (permit : Permit) (nonce : U256) :
    List UInt8 :=
  (host.keccak256 (ascii ("Permit(address owner," ++
      "address spender,uint256 value,uint256 nonce,uint256 deadline)"))).toList ++
    (addressWord permit.owner ++ (addressWord permit.spender ++
      ((toBigEndian permit.value).toList ++ ((toBigEndian nonce).toList ++
        (toBigEndian permit.deadline).toList))))

def digestEncoding (host : Host) (permit : Permit) (nonce : U256) :
    List UInt8 :=
  digestTag.toList ++ ((domainSeparator host).toList ++
    (host.keccak256 (structEncoding host permit nonce)).toList)

def digest (host : Host) (permit : Permit) (nonce : U256) : Bytes 32 :=
  host.keccak256 (digestEncoding host permit nonce)

end Eip712

/-!
## The buffers
-/

theorem permitBuffer_toList (typeHash : Bytes 32) (permit : Permit)
    (nonce : U256) :
    (permitBuffer typeHash permit nonce).toList =
      typeHash.toList ++ (Eip712.addressWord permit.owner ++
        (Eip712.addressWord permit.spender ++
          ((toBigEndian permit.value).toList ++ ((toBigEndian nonce).toList ++
            (toBigEndian permit.deadline).toList)))) := by
  have hblank : (Bytes.replicate 192 0).toList =
      (Bytes.replicate 32 0).toList ++ ((Bytes.replicate 12 0).toList ++
        ((Bytes.replicate 20 0).toList ++ ((Bytes.replicate 12 0).toList ++
          ((Bytes.replicate 20 0).toList ++ ((Bytes.replicate 32 0).toList ++
            ((Bytes.replicate 32 0).toList ++
              (Bytes.replicate 32 0).toList)))))) := by
    simp only [Bytes.replicate, List.replicate_append_replicate,
      Nat.reduceAdd]
  simp only [permitBuffer, Bytes.copyFromSlice, Eip712.addressWord, hblank,
    Bytes.length_eq, overwrite_first, overwrite_append, overwrite_whole,
    Nat.reduceLeDiff, Nat.reduceSub, List.append_assoc]

theorem domainBuffer_toList (typeHash name version : Bytes 32)
    (chainId : UInt64) :
    (domainBuffer typeHash name version chainId).toList =
      typeHash.toList ++ (name.toList ++ (version.toList ++
        ((toBigEndian (BitVec.ofNat 256 chainId.toNat)).toList ++
          Eip712.addressWord address))) := by
  have hblank : (Bytes.replicate 160 0).toList =
      (Bytes.replicate 32 0).toList ++ ((Bytes.replicate 32 0).toList ++
        ((Bytes.replicate 32 0).toList ++ ((Bytes.replicate 32 0).toList ++
          ((Bytes.replicate 12 0).toList ++
            (Bytes.replicate 20 0).toList)))) := by
    simp only [Bytes.replicate, List.replicate_append_replicate,
      Nat.reduceAdd]
  simp only [domainBuffer, Bytes.copyFromSlice, Eip712.addressWord, hblank,
    Bytes.length_eq, overwrite_first, overwrite_append, overwrite_whole,
    Nat.reduceLeDiff, Nat.reduceSub]

theorem digestBuffer_toList (separator structHash : Bytes 32) :
    (digestBuffer separator structHash).toList =
      digestTag.toList ++ (separator.toList ++ structHash.toList) := by
  have hblank : (Bytes.replicate 66 0).toList =
      (Bytes.replicate 2 0).toList ++ ((Bytes.replicate 32 0).toList ++
        (Bytes.replicate 32 0).toList) := by
    simp only [Bytes.replicate, List.replicate_append_replicate,
      Nat.reduceAdd]
  simp only [digestBuffer, Bytes.copyFromSlice, hblank, Bytes.length_eq,
    overwrite_first, overwrite_append, overwrite_whole, Nat.reduceLeDiff,
    Nat.reduceSub]

theorem digestOf_eq_digest (host : Host) (permit : Permit) (nonce : U256) :
    digestOf host permit nonce = Eip712.digest host permit nonce := by
  unfold digestOf digestBufferOf separatorOf structBufferOf
  rw [digestBuffer_toList, domainBuffer_toList, permitBuffer_toList]
  rfl

theorem toBigEndian_injective {a b : U256}
    (h : (toBigEndian a).toList = (toBigEndian b).toList) : a = b := by
  have hwidth : (2 : Nat) ^ 256 = 256 ^ 32 := by decide
  apply BitVec.eq_of_toNat_eq
  apply BigEndian.digits_injective (hwidth ▸ a.isLt) (hwidth ▸ b.isLt) h

theorem structEncoding_nonce {host : Host} {p q : Permit} {m n : U256}
    (h : Eip712.structEncoding host p m = Eip712.structEncoding host q n) :
    m = n := by
  have hword : forall address, (Eip712.addressWord address).length = 32 := by
    intro address
    unfold Eip712.addressWord
    rw [List.length_append, Bytes.length_eq, Bytes.length_eq]
  unfold Eip712.structEncoding at h
  have howner := List.append_cancel_left h
  have hspender := (List.append_inj howner (by rw [hword, hword])).right
  have hvalue := (List.append_inj hspender (by rw [hword, hword])).right
  have hnonce := (List.append_inj hvalue
    (by rw [Bytes.length_eq, Bytes.length_eq])).right
  exact toBigEndian_injective (List.append_inj hnonce
    (by rw [Bytes.length_eq, Bytes.length_eq])).left

theorem digestEncoding_structHash {host : Host} {p q : Permit} {m n : U256}
    (h : Eip712.digestEncoding host p m = Eip712.digestEncoding host q n) :
    host.keccak256 (Eip712.structEncoding host p m) =
      host.keccak256 (Eip712.structEncoding host q n) := by
  unfold Eip712.digestEncoding at h
  exact Bytes.ext_toList
    (List.append_cancel_left (List.append_cancel_left h))

/-!
## One call
-/

def UsesPermit (host : Host) (w : World) (tx : Transaction) (owner : H160) :
    Prop :=
  (transact host tx w).isOk = true ∧
    exists permit, tx.input = Call.permit permit ∧ permit.owner = owner

section OneCall

variable {host : Host} {tx : Transaction} {w after : World} {output : Output}

theorem transact_permit {permit : Permit}
    (hinput : tx.input = Call.permit permit)
    (h : transact host tx w = Except.ok (output, after)) :
    tx.now.toNat ≤ permit.deadline.toNat ∧
      signerOf host (Eip712.digest host permit (w.nonce permit.owner))
        permit.v permit.r permit.s = some permit.owner ∧
      forall owner, after.nonce owner =
        if owner = permit.owner then
          saturatingAdd (w.nonce permit.owner) 1
        else
          w.nonce owner := by
  rcases transact_cases h with ⟨ledger, _, _, hcase⟩
  rw [hinput] at hcase
  cases hcase with
  | view hview => cases hview
  | permit hnow hsigner =>
      change signerOf host (digestOf host permit (w.nonce permit.owner)) _ _
        _ = _ at hsigner
      rw [digestOf_eq_digest] at hsigner
      refine ⟨hnow, hsigner, ?_⟩
      intro owner
      exact World.nonce_setNonce (w.setLedger ledger) _ _ _

theorem transact_nonce_of_other
    (hinput : forall permit, tx.input ≠ Call.permit permit)
    (h : transact host tx w = Except.ok (output, after)) (owner : H160) :
    after.nonce owner = w.nonce owner := by
  rcases transact_cases h with ⟨ledger, _, _, hcase⟩
  generalize tx.input = input at hcase hinput
  cases hcase with
  | permit _ _ => exact absurd rfl (hinput _)
  | view _ => rfl
  | approve _ => rfl
  | transfer _ _ => rfl
  | transferOwn _ _ => rfl
  | transferFrom _ _ _ _ => rfl
  | withdraw _ _ => rfl
  | deposit _ _ _ => rfl

theorem isOk_of_ok (h : transact host tx w = Except.ok (output, after)) :
    (transact host tx w).isOk = true := by
  rw [h]
  rfl

/-- A nonce below the largest number rises by one with a permit of its owner,
and with nothing else. -/
theorem step_nonce {owner : H160} (hbelow : (w.nonce owner).toNat < u256Max) :
    (UsesPermit host w tx owner ->
      ((step host w tx).nonce owner).toNat = (w.nonce owner).toNat + 1) ∧
    (¬ UsesPermit host w tx owner ->
      (step host w tx).nonce owner = w.nonce owner) := by
  cases hresult : transact host tx w with
  | error _ =>
      rw [step_of_error hresult]
      refine ⟨?_, fun _ => rfl⟩
      intro huses
      have hok := huses.left
      rw [hresult] at hok
      cases hok
  | ok result =>
      rw [step_of_ok hresult]
      by_cases hpermit : exists permit, tx.input = Call.permit permit
      · rcases hpermit with ⟨permit, hinput⟩
        rcases transact_permit hinput hresult with ⟨_, _, hnonce⟩
        by_cases howner : owner = permit.owner
        · constructor
          · intro _
            rw [hnonce owner, if_pos howner, ← howner, toNat_saturatingAdd]
            exact satAdd_eq_add hbelow
          · intro hnot
            exact absurd ⟨isOk_of_ok hresult, permit, hinput, howner.symm⟩
              hnot
        · constructor
          · rintro ⟨_, other, hother, rfl⟩
            rw [hinput] at hother
            cases hother
            exact absurd rfl howner
          · intro _
            rw [hnonce owner, if_neg howner]
      · have hother : forall permit, tx.input ≠ Call.permit permit :=
          fun permit hinput => hpermit ⟨permit, hinput⟩
        constructor
        · rintro ⟨_, permit, hinput, _⟩
          exact absurd hinput (hother permit)
        · intro _
          exact transact_nonce_of_other hother hresult owner

end OneCall

/-!
## A sequence of calls
-/

/-- A permit that was used, and the nonce it was used with. -/
structure UsedPermit where
  permit : Permit
  nonce : U256

def usedPermit (host : Host) (w : World) (tx : Transaction) :
    Option UsedPermit :=
  match tx.input with
  | Call.permit permit =>
      if (transact host tx w).isOk then
        some { permit := permit, nonce := w.nonce permit.owner }
      else
        none
  | _ => none

def permitsOf (host : Host) : World -> List Transaction -> List UsedPermit
  | _, [] => []
  | w, tx :: rest =>
      (usedPermit host w tx).toList ++ permitsOf host (step host w tx) rest

/-- No nonce reaches the largest number before, during or after the calls. -/
def NoncesBelow (host : Host) (w : World) (txs : List Transaction) : Prop :=
  forall before rest, txs = before ++ rest ->
    forall owner, ((before.foldl (step host) w).nonce owner).toNat < u256Max

theorem NoncesBelow.head {host : Host} {w : World} {txs : List Transaction}
    (h : NoncesBelow host w txs) (owner : H160) :
    (w.nonce owner).toNat < u256Max :=
  h [] txs rfl owner

theorem NoncesBelow.tail {host : Host} {w : World} {tx : Transaction}
    {rest : List Transaction} (h : NoncesBelow host w (tx :: rest)) :
    NoncesBelow host (step host w tx) rest := by
  intro before after hsplit
  exact h (tx :: before) after (by rw [hsplit, List.cons_append])

theorem step_nonce_le_succ {host : Host} {w : World} {tx : Transaction}
    (owner : H160) :
    ((step host w tx).nonce owner).toNat ≤ (w.nonce owner).toNat + 1 := by
  cases hresult : transact host tx w with
  | error _ =>
      rw [step_of_error hresult]
      exact Nat.le_succ _
  | ok result =>
      rw [step_of_ok hresult]
      by_cases hpermit : exists permit, tx.input = Call.permit permit
      · rcases hpermit with ⟨permit, hinput⟩
        rw [(transact_permit hinput hresult).right.right owner]
        split
        · rename_i howner
          rw [howner, toNat_saturatingAdd]
          exact satAdd_le_add _ _ _
        · exact Nat.le_succ _
      · rw [transact_nonce_of_other
          (fun permit hinput => hpermit ⟨permit, hinput⟩) hresult]
        exact Nat.le_succ _

theorem noncesBelow_of_length {host : Host} {w : World}
    {txs : List Transaction}
    (h : forall owner, (w.nonce owner).toNat + txs.length < u256Max) :
    NoncesBelow host w txs := by
  induction txs generalizing w with
  | nil =>
      intro before rest hsplit owner
      rw [(List.append_eq_nil_iff.mp hsplit.symm).left]
      exact h owner
  | cons tx txs ih =>
      intro before rest hsplit owner
      cases before with
      | nil =>
          exact Nat.lt_of_le_of_lt (Nat.le_add_right _ _) (h owner)
      | cons first before =>
          cases hsplit
          refine ih ?_ before rest rfl owner
          intro other
          have hother := h other
          have hle : ((step host w tx).nonce other).toNat ≤
              (w.nonce other).toNat + 1 :=
            step_nonce_le_succ other
          rw [List.length_cons] at hother
          lia

theorem usedPermit_eq_some {host : Host} {w : World} {tx : Transaction}
    {used : UsedPermit} (h : usedPermit host w tx = some used) :
    tx.input = Call.permit used.permit ∧
      (transact host tx w).isOk = true ∧
      used.nonce = w.nonce used.permit.owner := by
  unfold usedPermit at h
  split at h
  · rename_i permit hinput
    split at h
    · rename_i hok
      cases h
      exact ⟨hinput, hok, rfl⟩
    · cases h
  · cases h

section Sequence

variable {host : Host}

theorem mem_permitsOf_cons {w : World} {tx : Transaction}
    {rest : List Transaction} {used : UsedPermit}
    (h : used ∈ permitsOf host w (tx :: rest)) :
    usedPermit host w tx = some used ∨
      used ∈ permitsOf host (step host w tx) rest := by
  rcases List.mem_append.mp h with hhead | htail
  · exact Or.inl (Option.mem_toList.mp hhead)
  · exact Or.inr htail

theorem permitsOf_signed {w : World} {txs : List Transaction}
    {used : UsedPermit} (h : used ∈ permitsOf host w txs) :
    signerOf host (Eip712.digest host used.permit used.nonce) used.permit.v
      used.permit.r used.permit.s = some used.permit.owner := by
  induction txs generalizing w with
  | nil =>
      cases h
  | cons tx rest ih =>
      rcases mem_permitsOf_cons h with hused | hrest
      · rcases usedPermit_eq_some hused with ⟨hinput, hok, hnonce⟩
        rcases transact_of_isOk hok with ⟨output, hresult⟩
        rw [hnonce]
        exact (transact_permit hinput hresult).right.left
      · exact ih hrest

theorem step_nonce_le {w : World} {tx : Transaction} {owner : H160}
    (hbelow : (w.nonce owner).toNat < u256Max) :
    (w.nonce owner).toNat ≤ ((step host w tx).nonce owner).toNat := by
  by_cases huses : UsesPermit host w tx owner
  · rw [(step_nonce hbelow).left huses]
    exact Nat.le_succ _
  · rw [(step_nonce hbelow).right huses]

theorem permitsOf_nonce_le {w : World} {txs : List Transaction}
    (hbelow : NoncesBelow host w txs) {used : UsedPermit}
    (h : used ∈ permitsOf host w txs) :
    (w.nonce used.permit.owner).toNat ≤ used.nonce.toNat := by
  induction txs generalizing w with
  | nil =>
      cases h
  | cons tx rest ih =>
      rcases mem_permitsOf_cons h with hused | hrest
      · rw [(usedPermit_eq_some hused).right.right]
      · exact Nat.le_trans (step_nonce_le (hbelow.head _))
          (ih hbelow.tail hrest)

theorem permitsOf_rising {w : World} {txs : List Transaction}
    (hbelow : NoncesBelow host w txs) :
    (permitsOf host w txs).Pairwise (fun p q =>
      p.permit.owner = q.permit.owner -> p.nonce.toNat < q.nonce.toNat) := by
  induction txs generalizing w with
  | nil =>
      exact List.Pairwise.nil
  | cons tx rest ih =>
      have hrest := ih hbelow.tail
      unfold permitsOf
      cases hused : usedPermit host w tx with
      | none =>
          exact hrest
      | some used =>
          rcases usedPermit_eq_some hused with ⟨hinput, hok, hnonce⟩
          refine List.Pairwise.cons ?_ hrest
          intro later hlater howner
          have hraised := (step_nonce (hbelow.head _)).left
            ⟨hok, used.permit, hinput, rfl⟩
          have hle := permitsOf_nonce_le hbelow.tail hlater
          rw [← howner, hraised] at hle
          rw [hnonce]
          exact hle

end Sequence

/-- The inputs of the hash function that a used permit stands for. -/
def UsedPermit.hashed (host : Host) (used : UsedPermit) : List (List UInt8) :=
  [Eip712.structEncoding host used.permit used.nonce,
    Eip712.digestEncoding host used.permit used.nonce]

def UsedPermit.digest (host : Host) (used : UsedPermit) : Bytes 32 :=
  Eip712.digest host used.permit used.nonce

/-- A permit works exactly once: it raises the nonce of its owner by one, it
needs the owner's signature of the digest with the current nonce and a deadline
that has not passed, and no signature is accepted twice. -/
theorem permit_works_exactly_once {host : Host} {w : World}
    {txs : List Transaction} (hbelow : NoncesBelow host w txs)
    (hkeccak : forall a b,
      a ∈ (permitsOf host w txs).flatMap (UsedPermit.hashed host) ->
      b ∈ (permitsOf host w txs).flatMap (UsedPermit.hashed host) ->
      host.keccak256 a = host.keccak256 b -> a = b)
    (hrecover : forall d d',
      d ∈ (permitsOf host w txs).map (UsedPermit.digest host) ->
      d' ∈ (permitsOf host w txs).map (UsedPermit.digest host) ->
      forall v r s signer, signerOf host d v r s = some signer ->
        signerOf host d' v r s = some signer -> d = d') :
    (forall before tx rest, txs = before ++ tx :: rest ->
      forall owner,
        (UsesPermit host (before.foldl (step host) w) tx owner ->
          ((step host (before.foldl (step host) w) tx).nonce owner).toNat =
            ((before.foldl (step host) w).nonce owner).toNat + 1) ∧
        (¬ UsesPermit host (before.foldl (step host) w) tx owner ->
          (step host (before.foldl (step host) w) tx).nonce owner =
            (before.foldl (step host) w).nonce owner)) ∧
    (forall before tx rest, txs = before ++ tx :: rest ->
      forall permit, tx.input = Call.permit permit ->
      (transact host tx (before.foldl (step host) w)).isOk = true ->
        signerOf host (Eip712.digest host permit
            ((before.foldl (step host) w).nonce permit.owner))
          permit.v permit.r permit.s = some permit.owner ∧
        tx.now.toNat ≤ permit.deadline.toNat) ∧
    (permitsOf host w txs).Pairwise (fun p q =>
      ¬ (p.permit.owner = q.permit.owner ∧ p.permit.v = q.permit.v ∧
        p.permit.r = q.permit.r ∧ p.permit.s = q.permit.s)) := by
  refine ⟨?_, ?_, ?_⟩
  · intro before tx rest hsplit owner
    exact step_nonce (hbelow before (tx :: rest) hsplit owner)
  · intro before tx rest _ permit hinput hok
    rcases transact_of_isOk hok with ⟨output, hresult⟩
    rcases transact_permit hinput hresult with ⟨hnow, hsigner, _⟩
    exact ⟨hsigner, hnow⟩
  · refine List.Pairwise.imp_of_mem ?_ (permitsOf_rising hbelow)
    rintro p q hp hq hrising ⟨howner, hv, hr, hs⟩
    have hsigned := permitsOf_signed hp
    have hsigned' := permitsOf_signed hq
    rw [← howner, ← hv, ← hr, ← hs] at hsigned'
    -- one signature by one owner: one digest, hence one nonce
    have hdigest : p.digest host = q.digest host :=
      hrecover _ _ (List.mem_map_of_mem hp) (List.mem_map_of_mem hq) _ _ _ _
        hsigned hsigned'
    have hmem : forall used, used ∈ permitsOf host w txs ->
        forall input, input ∈ used.hashed host ->
          input ∈ (permitsOf host w txs).flatMap (UsedPermit.hashed host) :=
      fun used hused input hinput =>
        List.mem_flatMap.mpr ⟨used, hused, hinput⟩
    have hencoding := hkeccak _ _
      (hmem p hp _ (List.mem_cons_of_mem _ (List.mem_singleton.mpr rfl)))
      (hmem q hq _ (List.mem_cons_of_mem _ (List.mem_singleton.mpr rfl)))
      hdigest
    have hstruct := hkeccak _ _ (hmem p hp _ List.mem_cons_self)
      (hmem q hq _ List.mem_cons_self)
      (digestEncoding_structHash hencoding)
    have hless := hrising howner
    rw [structEncoding_nonce hstruct] at hless
    exact Nat.lt_irrefl _ hless

theorem referenceHost_signer {deposit : Nat} {d d' r s : Bytes 32}
    {v : UInt8} {signer : H160}
    (h : signerOf (referenceHost deposit) d v r s = some signer)
    (h' : signerOf (referenceHost deposit) d' v r s = some signer) :
    d = d' := by
  unfold signerOf at h h'
  cases hid : recoveryId v with
  | none =>
      rw [hid] at h
      cases h
  | some id =>
      have hrecovers : forall digest : Bytes 32,
          ((recoveryId v).bind (fun id =>
            (recoverKey (signatureBuffer r s id) digest).bind
              (referenceHost deposit).ecdsaToEthAddress)) = some signer ->
          signedDigest (signatureBuffer r s id) = digest := by
        intro digest hdigest
        rw [hid, Option.bind_some] at hdigest
        unfold recoverKey at hdigest
        dsimp only at hdigest
        split at hdigest
        · assumption
        · cases hdigest
      exact (hrecovers d h).symm.trans (hrecovers d' h')

def alicePermit (nonce : U256) (value : U256) : Permit :=
  let blank : Permit :=
    { owner := aliceAddress
      spender := bobAddress
      value := value
      deadline := 5
      v := 27
      r := aliceAddress.append (Bytes.replicate 12 0)
      s := Bytes.replicate 32 0 }
  { blank with s := Eip712.digest (referenceHost 1) blank nonce }

/-- Bob uses two permits of Alice and tries the first one again in between. -/
def twoPermits : List Transaction :=
  [callBy bobAddress (Call.permit (alicePermit 0 10)),
    callBy bobAddress (Call.permit (alicePermit 0 10)),
    callBy bobAddress (Call.permit (alicePermit 1 20))]

theorem two_permits_of_alice :
    (permitsOf (referenceHost 1) (tokenWorld {}) twoPermits).length = 2 ∧
      (permitsOf (referenceHost 1) (tokenWorld {}) twoPermits).Pairwise
        (fun p q => ¬ (p.permit.owner = q.permit.owner ∧
          p.permit.v = q.permit.v ∧ p.permit.r = q.permit.r ∧
          p.permit.s = q.permit.s)) := by
  have hbelow : NoncesBelow (referenceHost 1) (tokenWorld {}) twoPermits :=
    noncesBelow_of_length
      (fun _ => show 0 + twoPermits.length < u256Max by decide)
  -- one evaluation of the history serves both facts
  have hruns : (permitsOf (referenceHost 1) (tokenWorld {})
        twoPermits).length = 2 ∧
      ∀ a ∈ (permitsOf (referenceHost 1) (tokenWorld {})
        twoPermits).flatMap (UsedPermit.hashed (referenceHost 1)),
      ∀ b ∈ (permitsOf (referenceHost 1) (tokenWorld {})
        twoPermits).flatMap (UsedPermit.hashed (referenceHost 1)),
        (referenceHost 1).keccak256 a = (referenceHost 1).keccak256 b ->
          a = b := by
    decide +kernel
  have honce := permit_works_exactly_once hbelow
    (fun a b ha hb => hruns.right a ha b hb)
    (fun d d' _ _ v r s signer h h' => referenceHost_signer h h')
  exact ⟨hruns.left, honce.right.right⟩

end Erc20
end Numen
