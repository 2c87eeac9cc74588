import Numen.Migration.Reference

/-!
# Contracts move whole or not at all

After the upgrade every contract either is pallet-revive's, with its code, its
slots, its nonce and its funds, and gone from Frontier, or is where and as it
was.  Which one it is depends on whether its move went through; no other
contract's move has a say in it.
-/

namespace Numen
namespace Migration

open Foundation
open Accounts

variable {pallets : Pallets} {revive : Revive} {Known : List UInt8 -> Prop}

def movedInfo (revive : Revive) (address : H160) (code : List UInt8)
    (s : Chain) : ContractInfo where
  trieId := revive.trieId address 0
  codeHash := revive.keccak code
  storageBytes := 64 * (liveSlots address s).length
  storageItems := (liveSlots address s).length

/-- The contract at `address` in `s` is pallet-revive's in `t`. -/
structure Moved (pallets : Pallets) (revive : Revive) (address : H160)
    (code : List UInt8) (s t : Chain) : Prop where
  contract : t.revive.contracts.get address =
    some (movedInfo revive address code s)
  code : t.revive.pristineCode.get (revive.keccak code) = some code
  /-- The trie has every slot that holds something, and nothing else. -/
  slots : forall key value,
    (t.revive.tries (revive.trieId address 0)).get key = some value <->
      exists slot word, (s.slots address).get slot = some word ∧
        word ≠ zeroWord ∧ revive.hashKey slot = key ∧ word.toList = value
  nonce : t.ledger.nonce (reviveAccount address) =
    max (max (s.ledger.nonce (legacyAccount pallets address))
      (s.ledger.nonce (reviveAccount address))) 1
  debited : t.ledger.free (legacyAccount pallets address) +
      claimedAmount s.ledger (legacyAccount pallets address) =
    s.ledger.free (legacyAccount pallets address)
  /-- Opening the account takes one deposit at most. -/
  credited : exists deposit, deposit ≤ pallets.minimumBalance ∧
    t.ledger.free (reviveAccount address) =
      s.ledger.free (reviveAccount address) +
        claimedAmount s.ledger (legacyAccount pallets address) + deposit
  goneCode : t.frontier.accountCodes.get address = none
  goneMetadata : t.frontier.accountCodesMetadata.get address = none
  goneSlots : forall slot, (t.slots address).get slot = none

structure Untouched (pallets : Pallets) (address : H160) (s t : Chain) :
    Prop where
  frontier : SameFrontier address s t
  balance : (t.ledger.account (legacyAccount pallets address)).data =
    (s.ledger.account (legacyAccount pallets address)).data
  nonce : t.ledger.nonce (legacyAccount pallets address) =
    s.ledger.nonce (legacyAccount pallets address)
  contract : t.revive.contracts.get address = none

theorem Kept.moved {address : H160} {code : List UInt8} {s t u : Chain}
    (hst : Kept pallets revive address s t)
    (htu : Moved pallets revive address code t u) :
    Moved pallets revive address code s u := by
  have hslots := hst.frontier.slots
  have hinfo : movedInfo revive address code t =
      movedInfo revive address code s := by
    unfold movedInfo liveSlots
    rw [hslots]
  have hclaimed := hst.accounts.legacy.claimedAmount
  refine ⟨?_, htu.code, ?_, ?_, ?_, ?_, htu.goneCode, htu.goneMetadata,
    htu.goneSlots⟩
  · rw [htu.contract, hinfo]
  · rw [← hslots]
    exact htu.slots
  · rw [htu.nonce, hst.accounts.legacy.nonce, hst.accounts.account.nonce]
  · rw [← hclaimed, ← hst.accounts.legacy.free]
    exact htu.debited
  · rw [← hclaimed, ← hst.accounts.account.free]
    exact htu.credited

theorem Moved.kept {address : H160} {code : List UInt8} {s t u : Chain}
    (hst : Moved pallets revive address code s t)
    (htu : Kept pallets revive address t u) :
    Moved pallets revive address code s u := by
  constructor
  · rw [htu.contract.contract]
    exact hst.contract
  · exact htu.contract.codes _ _ hst.code
  · rw [htu.contract.trie]
    exact hst.slots
  · rw [htu.accounts.account.nonce]
    exact hst.nonce
  · rw [htu.accounts.legacy.free]
    exact hst.debited
  · rw [htu.accounts.account.free]
    exact hst.credited
  · rw [htu.frontier.code]
    exact hst.goneCode
  · rw [htu.frontier.metadata]
    exact hst.goneMetadata
  · rw [htu.frontier.slots]
    exact hst.goneSlots

/-!
## One contract
-/

theorem writtenTrie_get (hhash : revive.CollisionFree Known) {address : H160}
    {s : Chain} {trie : StorageMap H256 (List UInt8)}
    (hempty : forall key, trie.get key = none) (key : H256)
    (value : List UInt8) :
    (writtenTrie revive (liveSlots address s) trie).get key = some value <->
      exists slot word, (s.slots address).get slot = some word ∧
        word ≠ zeroWord ∧ revive.hashKey slot = key ∧ word.toList = value := by
  let entries := (liveSlots address s).map fun slot =>
    (revive.hashKey slot.1, slot.2.toList)
  have hfold : writtenTrie revive (liveSlots address s) trie =
      entries.foldl (fun trie entry => trie.insert entry.1 entry.2) trie := by
    rw [List.foldl_map]
    rfl
  have hlive : ((liveSlots address s).map Prod.fst).Nodup :=
    (StorageMap.nodup_iter_keys (s.slots address)).sublist
      (List.filter_sublist.map _)
  have hnodup : (entries.map Prod.fst).Nodup := by
    have hkeys : entries.map Prod.fst =
        ((liveSlots address s).map Prod.fst).map revive.hashKey := by
      rw [List.map_map, List.map_map]
      rfl
    rw [hkeys]
    exact hlive.map (fun a b h => hhash.hashKey_injective a b h)
  rw [hfold, StorageMap.get_foldl_insert hnodup, hempty]
  constructor
  · rintro (hmem | ⟨_, hnone⟩)
    · rcases List.mem_map.mp hmem with ⟨⟨slot, word⟩, hslot, heq⟩
      rcases List.mem_filter.mp hslot with ⟨hiter, hword⟩
      cases heq
      exact ⟨slot, word, StorageMap.mem_iter.mp hiter,
        of_decide_eq_true hword, rfl, rfl⟩
    · cases hnone
  · rintro ⟨slot, word, hget, hword, rfl, rfl⟩
    refine Or.inl (List.mem_map.mpr ⟨(slot, word), ?_, rfl⟩)
    exact List.mem_filter.mpr
      ⟨StorageMap.mem_iter.mpr hget, decide_eq_true hword⟩

theorem installedInfo_eq {address : H160} {code : List UInt8} {s : Chain}
    (hslots : (s.slots address).iter.length < 2 ^ 26) :
    installedInfo revive address code (liveSlots address s) =
      movedInfo revive address code s := by
  have hlive : (liveSlots address s).length < 2 ^ 26 :=
    Nat.lt_of_le_of_lt (List.length_filter_le _ _) hslots
  unfold installedInfo movedInfo
  have hitems : (liveSlots address s).length % 2 ^ 32 =
      (liveSlots address s).length := Nat.mod_eq_of_lt (by lia)
  rw [hitems, Nat.mod_eq_of_lt (by lia)]

theorem deposits_le (hlawful : pallets.Lawful) {account : AccountId}
    {s t : State} (h : Opened pallets account s t) (amount : Nat) :
    (if accountExists s account then 0 else pallets.minimumBalance) +
      movingDeposit pallets t account amount ≤ pallets.minimumBalance := by
  have hfree := h.free
  have hpositive := hlawful.minimumBalance_pos
  unfold movingDeposit State.totalBalance
  unfold State.free at hfree
  split
  · split <;> lia
  · rename_i hnew
    rw [if_neg hnew] at hfree
    rw [if_neg (by lia)]
    exact Nat.le_refl _

section Contract

variable (hlawful : pallets.Lawful) (hlocal : pallets.Local)
  (hrevive : revive.Lawful pallets) (hhash : revive.CollisionFree Known)
  (hdistinct : Distinct pallets revive)

include hlawful hlocal hrevive hhash hdistinct

theorem moveContract_moved {address : H160} {code : List UInt8} {s t : Chain}
    (hs : Sound revive Known s) (hcode : Known code)
    (hcontract : isDelegation code = false)
    (hempty : forall key,
      (s.revive.tries (revive.trieId address 0)).get key = none)
    (hslots : (s.slots address).iter.length < 2 ^ 26)
    (h : moveContract pallets revive (address, code) s = Except.ok t) :
    Moved pallets revive address code s t := by
  rcases moveContract_calls h with
    ⟨installed, ledger, hinstalled, hledger, heq⟩
  rcases installContract_cases hinstalled with
    ⟨hdelegation, _⟩ | ⟨_, hinstalled⟩
  · dsimp only at hdelegation
    rw [hcontract] at hdelegation
    cases hdelegation
  have hinstall := install_ok hlawful hlocal hrevive hinstalled
  have hne := hdistinct.legacy_ne_revive address address
  have hlegacy := hinstall.ledger.sameHolding hne
  have hmoney := moveLegacy_ok hlawful hne hledger
  have hnonce := moveLegacy_nonce hlawful hne hledger
  have hclaimed := hlegacy.claimedAmount
  subst heq
  constructor
  · change installed.revive.contracts.get address = _
    rw [hinstall.contracts, StorageMap.get_insert_self,
      installedInfo_eq hslots]
  · exact hinstall.code_stored hhash hcode hs
  · change forall key value, (installed.revive.tries _).get key = _ <-> _
    rw [hinstall.tries, Function.update_self]
    exact writtenTrie_get hhash hempty
  · change ledger.nonce _ = _
    rw [hnonce, hlegacy.nonce, hinstall.ledger.nonce]
    lia
  · change ledger.free _ + _ = _
    rw [← hclaimed, ← hlegacy.free]
    exact hmoney.legacy_free
  · refine ⟨_, deposits_le hlawful hinstall.ledger
      (claimedAmount installed.ledger (legacyAccount pallets address)), ?_⟩
    change ledger.free _ = _
    rw [hmoney.account_free, hinstall.ledger.free, hclaimed]
    lia
  · exact StorageMap.get_remove_self _ _
  · exact StorageMap.get_remove_self _ _
  · intro slot
    unfold Chain.slots forget
    dsimp only
    rw [Function.update_self, hinstall.frontier]
    exact StorageMap.get_clear _ (Nat.le_trans (Nat.le_of_lt hslots)
      (by decide)) slot

end Contract

/-!
## All contracts
-/

section Sweep

variable (hlawful : pallets.Lawful) (hlocal : pallets.Local)
  (hrevive : revive.Lawful pallets) (hhash : revive.CollisionFree Known)
  {s : Chain} (hcodes : forall address code,
    s.frontier.accountCodes.get address = some code -> Known code)

include hlawful hlocal hrevive hhash hcodes

theorem moveListed_sound : ∀ contract ∈ s.frontier.accountCodes.iter,
    forall u v, Sound revive Known u ->
      moveContract pallets revive contract u = Except.ok v ->
      Sound revive Known v := by
  intro contract hlisted u v hu hv
  exact moveContract_sound hlawful hlocal hrevive hhash
    (hcodes _ _ (StorageMap.mem_iter.mp hlisted)) hu hv

variable (hs : Sound revive Known s)

include hs

theorem sweep_sound :
    Sound revive Known (sweep (moveContract pallets revive)
      s.frontier.accountCodes.iter s) :=
  sweep_preserves (Sound revive Known)
    (moveListed_sound hlawful hlocal hrevive hhash hcodes) hs

variable (hdistinct : Distinct pallets revive)

include hdistinct

omit hs in
theorem moveListed_kept {address : H160} {contract : H160 × List UInt8}
    (hlisted : contract ∈ s.frontier.accountCodes.iter)
    (hne : address ≠ contract.1) {u v : Chain} (hu : Sound revive Known u)
    (hv : moveContract pallets revive contract u = Except.ok v) :
    Kept pallets revive address u v :=
  moveContract_kept hlawful hlocal hrevive hhash hdistinct
    (hcodes _ _ (StorageMap.mem_iter.mp hlisted)) hne hu hv

/-- Whatever the sweep over all contracts does to the others, it moves a
contract or leaves it alone, as the attempt at its turn comes out. -/
theorem sweep_moved_or_kept {address : H160} {code : List UInt8}
    {before after : List (H160 × List UInt8)}
    (hsplit : s.frontier.accountCodes.iter = before ++ (address, code) :: after)
    (hcontract : isDelegation code = false)
    (hempty : forall key,
      (s.revive.tries (revive.trieId address 0)).get key = none)
    (hslots : (s.slots address).iter.length < 2 ^ 26) :
    let t := sweep (moveContract pallets revive) s.frontier.accountCodes.iter s
    let u := sweep (moveContract pallets revive) before s
    (moveContract pallets revive (address, code) u).isOk = true ∧
        Moved pallets revive address code s t ∨
      (moveContract pallets revive (address, code) u).isOk = false ∧
        Kept pallets revive address s t := by
  intro t u
  have hmem : (address, code) ∈ s.frontier.accountCodes.iter := by
    rw [hsplit]
    exact List.mem_append_right before List.mem_cons_self
  have hget := StorageMap.mem_iter.mp hmem
  rcases sweep_reaches (Sound revive Known)
    (moveListed_sound hlawful hlocal hrevive hhash hcodes)
    (Kept pallets revive address) (Kept.refl address)
    (fun _ _ _ => Kept.trans) hsplit ((StorageMap.nodup_iter_keys _).of_map _)
    (fun contract hlisted hne _ _ => moveListed_kept hlawful hlocal hrevive
      hhash hcodes hdistinct hlisted
      (StorageMap.fst_ne_of_mem_iter hmem hlisted hne)) hs with
    ⟨hu, hbefore, hafter⟩
  cases hmoved : moveContract pallets revive (address, code) u with
  | error error =>
      rw [attempt_of_error hmoved] at hafter
      exact Or.inr ⟨rfl, hbefore.trans hafter⟩
  | ok v =>
      rw [attempt_of_ok hmoved] at hafter
      have hstep := moveContract_moved hlawful hlocal hrevive hhash hdistinct
        hu (hcodes _ _ hget) hcontract
        (by rw [hbefore.contract.trie]; exact hempty)
        (by rw [hbefore.frontier.slots]; exact hslots) hmoved
      exact Or.inl ⟨rfl, (hbefore.moved hstep).kept hafter⟩

theorem sweep_kept {address : H160}
    (hnone : s.frontier.accountCodes.get address = none) :
    Kept pallets revive address s
      (sweep (moveContract pallets revive) s.frontier.accountCodes.iter s) := by
  refine sweep_keeps (Sound revive Known)
    (moveListed_sound hlawful hlocal hrevive hhash hcodes)
    (Kept pallets revive address) (Kept.refl address)
    (fun _ _ _ => Kept.trans) ?_ hs
  intro contract hlisted u v hu hv
  refine moveListed_kept hlawful hlocal hrevive hhash hcodes hdistinct hlisted
    ?_ hu hv
  intro heq
  have hget := StorageMap.mem_iter.mp hlisted
  rw [← heq, hnone] at hget
  cases hget

end Sweep

/-!
## The whole upgrade
-/

/-- pallet-revive has no contract yet: no trie has content, and no stored code
is in use. -/
structure Fresh (revive : Revive) (s : Chain) : Prop where
  contracts : forall address, s.revive.contracts.get address = none
  tries : forall address key,
    (s.revive.tries (revive.trieId address 0)).get key = none
  stored : forall codeHash info,
    s.revive.codeInfoOf.get codeHash = some info ->
      exists code, s.revive.pristineCode.get codeHash = some code
  hashed : forall codeHash code,
    s.revive.pristineCode.get codeHash = some code ->
      revive.keccak code = codeHash
  unused : forall codeHash, s.refcount codeHash = 0

/-- The codes the upgrade has to do with: those of Frontier's contracts, those
already stored, and the token proxy's. -/
inductive Involved (revive : Revive) (s : Chain) : List UInt8 -> Prop where
  | contract {address : H160} {code : List UInt8} :
      s.frontier.accountCodes.get address = some code ->
      Involved revive s code
  | stored {codeHash : H256} {code : List UInt8} :
      s.revive.pristineCode.get codeHash = some code -> Involved revive s code
  | proxy : Involved revive s (proxyCode revive)

theorem Fresh.sound {s : Chain} (hs : Fresh revive s) :
    Sound revive (Involved revive s) s :=
  ⟨hs.stored, hs.hashed, fun _ _ h => Involved.stored h⟩

def swept (pallets : Pallets) (revive : Revive) (s : Chain) : Chain :=
  sweep (moveContract pallets revive)
    (prepare pallets revive s).frontier.accountCodes.iter
    (prepare pallets revive s)

/-- How the attempt to move a contract comes out, after those listed `before`
it. -/
def moves (pallets : Pallets) (revive : Revive)
    (before : List (H160 × List UInt8)) (contract : H160 × List UInt8)
    (s : Chain) : Bool :=
  (moveContract pallets revive contract (sweep (moveContract pallets revive)
    before (prepare pallets revive s))).isOk

/-- The steps between the contracts and the clearing of Frontier's storage. -/
def finish (pallets : Pallets) (revive : Revive) (s : Chain) : Chain :=
  mapAccounts revive (sweep (moveAccount pallets) knownAddresses
    (attempt (deployTokenProxy revive) s))

theorem onRuntimeUpgrade_eq {s : Chain}
    (hschema : s.frontier.ethereumSchema = true) :
    onRuntimeUpgrade pallets revive s =
      clearFrontier (finish pallets revive (swept pallets revive s)) := by
  have hrun : ¬ (!s.frontier.ethereumSchema) = true := by
    rw [hschema]
    exact Bool.false_ne_true
  unfold onRuntimeUpgrade
  rw [if_neg hrun]
  rfl

theorem tokenAddress_known : Erc20.address ∈ knownAddresses := by
  have haddress : Erc20.address = h160 0x802 := by
    decide +kernel
  rw [haddress]
  exact List.mem_cons_of_mem _ List.mem_cons_self

theorem clearFrontier_ledger (s : Chain) :
    (clearFrontier s).ledger = s.ledger := by
  unfold clearFrontier
  dsimp only
  split <;> rfl

theorem clearFrontier_revive (s : Chain) :
    (clearFrontier s).revive = s.revive := by
  unfold clearFrontier
  dsimp only
  split <;> rfl

theorem clearFrontier_moved {address : H160} {code : List UInt8}
    {s t : Chain} (h : Moved pallets revive address code s t) :
    Moved pallets revive address code s (clearFrontier t) := by
  unfold clearFrontier
  dsimp only
  split
  · exact ⟨h.contract, h.code, h.slots, h.nonce, h.debited, h.credited,
      StorageMap.get_empty _, StorageMap.get_empty _,
      fun slot => StorageMap.get_empty slot⟩
  · exact ⟨h.contract, h.code, h.slots, h.nonce, h.debited, h.credited,
      h.goneCode, h.goneMetadata, h.goneSlots⟩

theorem clearFrontier_sameFrontier {address : H160} {code : List UInt8}
    {s : Chain} (h : s.frontier.accountCodes.get address = some code) :
    SameFrontier address s (clearFrontier s) := by
  have hlisted := StorageMap.mem_iter.mpr h
  unfold clearFrontier
  dsimp only
  split
  · rename_i hempty
    rw [List.isEmpty_iff.mp hempty] at hlisted
    cases hlisted
  · exact ⟨rfl, rfl, rfl⟩

section Upgrade

variable (hlawful : pallets.Lawful) (hlocal : pallets.Local)
  (hrevive : revive.Lawful pallets) (hhash : revive.CollisionFree Known)
  (hdistinct : Distinct pallets revive)

include hlawful hlocal hrevive hhash hdistinct

theorem finish_kept (hproxy : Known (proxyCode revive)) {s : Chain}
    (hs : Sound revive Known s) {address : H160}
    (hunknown : address ∉ knownAddresses) :
    Kept pallets revive address s (finish pallets revive s) := by
  have htoken : address ≠ Erc20.address := by
    intro heq
    rw [heq] at hunknown
    exact hunknown tokenAddress_known
  have hdeployed : Kept pallets revive address s
      (attempt (deployTokenProxy revive) s) :=
    attempt_induction (Kept pallets revive address s) (Kept.refl address s)
      (fun t ht => deployTokenProxy_kept hlawful hlocal hrevive hhash
        hdistinct hproxy htoken hs ht)
  have haccounts : Kept pallets revive address
      (attempt (deployTokenProxy revive) s)
      (sweep (moveAccount pallets) knownAddresses
        (attempt (deployTokenProxy revive) s)) := by
    refine sweep_keeps (fun _ => True) (fun _ _ _ _ _ _ => trivial)
      (Kept pallets revive address) (Kept.refl address)
      (fun _ _ _ => Kept.trans) ?_ trivial
    intro known hknown u v _ hv
    refine moveAccount_kept hlawful hlocal hdistinct ?_ hv
    intro heq
    rw [heq] at hunknown
    exact hunknown hknown
  exact (hdeployed.trans haccounts).trans
    ((mapAccounts_prepared hrevive _).kept address)

end Upgrade

theorem contract_unknown {s : Chain}
    (hknown : ∀ address ∈ knownAddresses,
      s.frontier.accountCodes.get address = none)
    {address : H160} {code : List UInt8}
    (hget : s.frontier.accountCodes.get address = some code) :
    address ∉ knownAddresses := by
  intro hmem
  rw [hknown address hmem] at hget
  cases hget

section Contract

variable (hlawful : pallets.Lawful) (hlocal : pallets.Local)
  (hrevive : revive.Lawful pallets) (hdistinct : Distinct pallets revive)
  {s : Chain}

theorem prepare_involved (hprepared : Prepared pallets revive s
      (prepare pallets revive s)) (address : H160) (code : List UInt8)
    (hget : (prepare pallets revive s).frontier.accountCodes.get address =
      some code) : Involved revive s code := by
  rw [hprepared.frontier] at hget
  exact Involved.contract hget

variable (hhash : revive.CollisionFree (Involved revive s))
  (hfresh : Fresh revive s)

include hlawful hlocal hrevive hdistinct hhash hfresh

theorem swept_sound :
    Sound revive (Involved revive s) (swept pallets revive s) := by
  have hprepared := prepare_prepared hlawful hlocal hdistinct s
  exact sweep_sound hlawful hlocal hrevive hhash (prepare_involved hprepared)
    (hfresh.sound.of_eq hprepared.infos hprepared.codes)

theorem swept_moved_or_kept {address : H160} {code : List UInt8}
    {before after : List (H160 × List UInt8)}
    (hsplit : s.frontier.accountCodes.iter = before ++ (address, code) :: after)
    (hcontract : isDelegation code = false)
    (hslots : (s.slots address).iter.length < 2 ^ 26) :
    moves pallets revive before (address, code) s = true ∧
        Moved pallets revive address code s (swept pallets revive s) ∨
      moves pallets revive before (address, code) s = false ∧
        Kept pallets revive address s (swept pallets revive s) := by
  have hprepared := prepare_prepared hlawful hlocal hdistinct s
  have hkept := hprepared.kept address
  rcases sweep_moved_or_kept hlawful hlocal hrevive hhash
    (prepare_involved hprepared)
    (hfresh.sound.of_eq hprepared.infos hprepared.codes) hdistinct
    (by rw [hprepared.frontier]; exact hsplit) hcontract
    (by rw [hkept.contract.trie]; exact hfresh.tries address)
    (by rw [hkept.frontier.slots]; exact hslots) with
    ⟨hok, hmoved⟩ | ⟨hfailed, hstays⟩
  · exact Or.inl ⟨hok, hkept.moved hmoved⟩
  · exact Or.inr ⟨hfailed, hkept.trans hstays⟩

theorem upgrade_moved_or_untouched
    (hschema : s.frontier.ethereumSchema = true)
    (hknown : ∀ address ∈ knownAddresses,
      s.frontier.accountCodes.get address = none)
    {address : H160} {code : List UInt8}
    {before after : List (H160 × List UInt8)}
    (hsplit : s.frontier.accountCodes.iter = before ++ (address, code) :: after)
    (hcontract : isDelegation code = false)
    (hslots : (s.slots address).iter.length < 2 ^ 26) :
    moves pallets revive before (address, code) s = true ∧
        Moved pallets revive address code s
          (onRuntimeUpgrade pallets revive s) ∨
      moves pallets revive before (address, code) s = false ∧
        Untouched pallets address s (onRuntimeUpgrade pallets revive s) := by
  have hget : s.frontier.accountCodes.get address = some code := by
    refine StorageMap.mem_iter.mp ?_
    rw [hsplit]
    exact List.mem_append_right before List.mem_cons_self
  have hfinish := finish_kept hlawful hlocal hrevive hhash hdistinct
    Involved.proxy
    (swept_sound hlawful hlocal hrevive hdistinct hhash hfresh)
    (contract_unknown hknown hget)
  rw [onRuntimeUpgrade_eq hschema]
  rcases swept_moved_or_kept hlawful hlocal hrevive hdistinct hhash hfresh
    hsplit hcontract hslots with ⟨hok, hmoved⟩ | ⟨hfailed, hstays⟩
  · exact Or.inl ⟨hok, clearFrontier_moved (hmoved.kept hfinish)⟩
  · have hall := hstays.trans hfinish
    have hclear := clearFrontier_sameFrontier (hall.frontier.code.trans hget)
    refine Or.inr ⟨hfailed, hall.frontier.trans hclear, ?_, ?_, ?_⟩
    · rw [clearFrontier_ledger]
      exact hall.accounts.legacy.data
    · rw [clearFrontier_ledger]
      exact hall.accounts.legacy.nonce
    · rw [clearFrontier_revive, hall.contract.contract]
      exact hfresh.contracts address

end Contract

/-!
## Reference counts
-/

/-- Whether `contract` has the code `codeHash` and is in pallet-revive. -/
def movedTo (revive : Revive) (codeHash : H256) (t : Chain)
    (contract : H160 × List UInt8) : Bool :=
  !isDelegation contract.2 && decide (revive.keccak contract.2 = codeHash) &&
    t.revive.contracts.containsKey contract.1

/-- How many contracts of `s` with the code `codeHash` are in pallet-revive
in `t`. -/
def movedWith (revive : Revive) (codeHash : H256) (s t : Chain) : Nat :=
  s.frontier.accountCodes.iter.countP (movedTo revive codeHash t)

/-- One if the token proxy is in place and has the code `codeHash`. -/
def proxyWith (revive : Revive) (codeHash : H256) (t : Chain) : Nat :=
  if revive.keccak (proxyCode revive) = codeHash ∧
      t.revive.contracts.containsKey Erc20.address = true then 1
  else 0

theorem movedTo_congr {codeHash : H256} {s t : Chain}
    {contract : H160 × List UInt8}
    (h : t.revive.contracts.get contract.1 =
      s.revive.contracts.get contract.1) :
    movedTo revive codeHash t contract = movedTo revive codeHash s contract := by
  unfold movedTo StorageMap.containsKey
  rw [h]

section Counts

variable (hlawful : pallets.Lawful) (hlocal : pallets.Local)
  (hrevive : revive.Lawful pallets)

include hlawful hlocal hrevive

theorem moveContract_refcount {codeHash : H256}
    {contract : H160 × List UInt8} {s t : Chain}
    (hbound : s.refcount codeHash ≤ u64Max)
    (h : moveContract pallets revive contract s = Except.ok t) :
    t.refcount codeHash = satAdd u64Max (s.refcount codeHash)
      (movedTo revive codeHash t contract).toNat := by
  rcases moveContract_calls h with ⟨installed, ledger, hinstalled, _, heq⟩
  subst heq
  have hsame : satAdd u64Max (s.refcount codeHash) 0 = s.refcount codeHash :=
    Nat.min_eq_left hbound
  unfold movedTo
  rcases installContract_cases hinstalled with
    ⟨hdelegation, rfl⟩ | ⟨hcontract, hinstalled⟩
  · rw [hdelegation]
    exact hsame.symm
  · have hinstall := install_ok hlawful hlocal hrevive hinstalled
    have hplaced : installed.revive.contracts.containsKey contract.1 =
        true := by
      unfold StorageMap.containsKey
      rw [hinstall.contracts, StorageMap.get_insert_self]
      rfl
    have hcount := hinstall.refcount codeHash
    change installed.refcount codeHash = satAdd u64Max _
      (_ && _ && installed.revive.contracts.containsKey contract.1).toNat
    rw [hcount, hplaced, hcontract]
    by_cases hhash : codeHash = revive.keccak contract.2
    · rw [if_pos hhash, decide_eq_true hhash.symm]
      rfl
    · rw [if_neg hhash, decide_eq_false (Ne.symm hhash)]
      exact hsame.symm

theorem deployTokenProxy_refcount {codeHash : H256} {s : Chain}
    (hbound : s.refcount codeHash ≤ u64Max)
    (hvacant : s.revive.contracts.get Erc20.address = none) :
    (attempt (deployTokenProxy revive) s).refcount codeHash =
      satAdd u64Max (s.refcount codeHash)
        (proxyWith revive codeHash (attempt (deployTokenProxy revive) s)) := by
  have hsame : satAdd u64Max (s.refcount codeHash) 0 = s.refcount codeHash :=
    Nat.min_eq_left hbound
  have hnone : s.revive.contracts.containsKey Erc20.address = false := by
    unfold StorageMap.containsKey
    rw [hvacant]
    rfl
  refine attempt_induction (fun t => t.refcount codeHash =
    satAdd u64Max (s.refcount codeHash) (proxyWith revive codeHash t)) ?_ ?_
  · unfold proxyWith
    rw [hnone, if_neg (fun hboth => Bool.false_ne_true hboth.right)]
    exact hsame.symm
  · intro t ht
    unfold deployTokenProxy at ht
    rw [hnone, if_neg Bool.false_ne_true] at ht
    have hinstall := install_ok hlawful hlocal hrevive ht
    have hplaced : t.revive.contracts.containsKey Erc20.address = true := by
      unfold StorageMap.containsKey
      rw [hinstall.contracts, StorageMap.get_insert_self]
      rfl
    unfold proxyWith
    rw [hinstall.refcount, hplaced]
    by_cases hhash : codeHash = revive.keccak (proxyCode revive)
    · rw [if_pos hhash, if_pos ⟨hhash.symm, rfl⟩]
    · rw [if_neg hhash, if_neg (fun hboth => hhash hboth.left.symm)]
      exact hsame.symm

end Counts

theorem sweep_moveAccount_revive (pallets : Pallets) (addresses : List H160)
    (s : Chain) : (sweep (moveAccount pallets) addresses s).revive =
      s.revive := by
  refine sweep_preserves (fun t : Chain => t.revive = s.revive) ?_ rfl
  intro address _ u v hu hv
  unfold moveAccount at hv
  split at hv
  · cases hv
    exact hu
  · rcases except_bind_eq_ok hv with ⟨ledger, _, hv⟩
    cases hv
    exact hu

theorem finish_revive (hrevive : revive.Lawful pallets) (s : Chain) :
    (forall codeHash, (finish pallets revive s).refcount codeHash =
      (attempt (deployTokenProxy revive) s).refcount codeHash) ∧
      forall address, (finish pallets revive s).revive.contracts.get address =
        (attempt (deployTokenProxy revive) s).revive.contracts.get address := by
  have haccounts := sweep_moveAccount_revive pallets knownAddresses
    (attempt (deployTokenProxy revive) s)
  have hmapped := mapAccounts_prepared hrevive
    (sweep (moveAccount pallets) knownAddresses
      (attempt (deployTokenProxy revive) s))
  constructor
  · intro codeHash
    unfold finish Chain.refcount
    rw [hmapped.infos, haccounts]
  · intro address
    unfold finish
    rw [(hmapped.kept address).contract.contract, haccounts]

theorem sweep_refcount (hlawful : pallets.Lawful) (hlocal : pallets.Local)
    (hrevive : revive.Lawful pallets) (hhash : revive.CollisionFree Known)
    (hdistinct : Distinct pallets revive) {s : Chain}
    (hs : Sound revive Known s)
    (hcodes : forall address code,
      s.frontier.accountCodes.get address = some code -> Known code)
    (hvacant : forall address, s.revive.contracts.get address = none)
    {codeHash : H256} (hbound : s.refcount codeHash ≤ u64Max) :
    let t := sweep (moveContract pallets revive) s.frontier.accountCodes.iter s
    t.refcount codeHash =
      satAdd u64Max (s.refcount codeHash) (movedWith revive codeHash s t) := by
  intro t
  have hkeys := StorageMap.nodup_iter_keys s.frontier.accountCodes
  have hcounts := sweep_counts
    (fun u : Chain => Sound revive Known u ∧ u.refcount codeHash ≤ u64Max)
    (fun contract hlisted u v hu hv => ⟨moveListed_sound hlawful hlocal hrevive
        hhash hcodes contract hlisted u v hu.left hv, by
      rw [moveContract_refcount hlawful hlocal hrevive hu.right hv]
      exact satAdd_le_top _ _ _⟩)
    (fun u => u.refcount codeHash)
    (fun contract u => (movedTo revive codeHash u contract).toNat)
    (hkeys.of_map _)
    (fun a ha b hb hne u v hu hv => congrArg Bool.toNat (movedTo_congr
      (moveListed_kept hlawful hlocal hrevive hhash hcodes hdistinct hb
        (StorageMap.fst_ne_of_mem_iter ha hb hne) hu.left hv).contract.contract))
    (fun contract _ u v hu hv =>
      moveContract_refcount hlawful hlocal hrevive hu.right hv)
    ⟨hs, hbound⟩
    (fun contract _ => by
      unfold movedTo StorageMap.containsKey
      rw [hvacant, Option.isSome_none, Bool.and_false]
      rfl)
    hbound
  rw [sum_map_toNat] at hcounts
  exact hcounts

section Upgrade

variable (hlawful : pallets.Lawful) (hlocal : pallets.Local)
  (hrevive : revive.Lawful pallets) (hdistinct : Distinct pallets revive)
  {s : Chain} (hhash : revive.CollisionFree (Involved revive s))
  (hfresh : Fresh revive s)
  (hknown : ∀ address ∈ knownAddresses,
    s.frontier.accountCodes.get address = none)

include hlawful hlocal hrevive hdistinct hhash hfresh

theorem swept_refcount (codeHash : H256) :
    (swept pallets revive s).refcount codeHash =
      min (movedWith revive codeHash s (swept pallets revive s)) u64Max := by
  have hprepared := prepare_prepared hlawful hlocal hdistinct s
  have hvacant : forall address,
      (prepare pallets revive s).revive.contracts.get address = none := by
    intro address
    rw [(hprepared.kept address).contract.contract]
    exact hfresh.contracts address
  have hzero : (prepare pallets revive s).refcount codeHash = 0 := by
    unfold Chain.refcount
    rw [hprepared.infos]
    exact hfresh.unused codeHash
  have hcounted := sweep_refcount hlawful hlocal hrevive hhash hdistinct
    (hfresh.sound.of_eq hprepared.infos hprepared.codes)
    (prepare_involved hprepared) hvacant
    (by rw [hzero]; exact Nat.zero_le u64Max)
  have hlisted : movedWith revive codeHash (prepare pallets revive s)
      (swept pallets revive s) =
        movedWith revive codeHash s (swept pallets revive s) := by
    unfold movedWith
    rw [hprepared.frontier]
  rw [← hlisted]
  refine hcounted.trans ?_
  rw [hzero]
  unfold satAdd
  rw [Nat.zero_add]
  rfl

include hknown

theorem movedWith_finish (codeHash : H256) :
    movedWith revive codeHash s
        (finish pallets revive (swept pallets revive s)) =
      movedWith revive codeHash s (swept pallets revive s) := by
  unfold movedWith
  refine List.countP_congr ?_
  intro contract hlisted
  have hkept := finish_kept hlawful hlocal hrevive hhash hdistinct
    Involved.proxy
    (swept_sound hlawful hlocal hrevive hdistinct hhash hfresh)
    (contract_unknown hknown (StorageMap.mem_iter.mp hlisted))
  rw [movedTo_congr hkept.contract.contract]

theorem swept_tokenAddress :
    (swept pallets revive s).revive.contracts.get Erc20.address = none := by
  have hprepared := prepare_prepared hlawful hlocal hdistinct s
  have hkept := sweep_kept hlawful hlocal hrevive hhash
    (prepare_involved hprepared)
    (hfresh.sound.of_eq hprepared.infos hprepared.codes) hdistinct (by
      rw [hprepared.frontier]
      exact hknown _ tokenAddress_known)
  unfold swept
  rw [((hprepared.kept Erc20.address).trans hkept).contract.contract]
  exact hfresh.contracts Erc20.address

theorem upgrade_refcount (hschema : s.frontier.ethereumSchema = true)
    (hlength : s.frontier.accountCodes.iter.length < u64Max)
    (codeHash : H256) :
    let t := onRuntimeUpgrade pallets revive s
    t.refcount codeHash = s.refcount codeHash +
      movedWith revive codeHash s t + proxyWith revive codeHash t := by
  intro t
  have hcounted := swept_refcount hlawful hlocal hrevive hdistinct hhash
    hfresh codeHash
  have hmoved := movedWith_finish hlawful hlocal hrevive hdistinct hhash
    hfresh hknown codeHash
  have hbound : (swept pallets revive s).refcount codeHash ≤ u64Max := by
    rw [hcounted]
    exact Nat.min_le_right _ _
  have hdeployed := deployTokenProxy_refcount hlawful hlocal hrevive hbound
    (swept_tokenAddress hlawful hlocal hrevive hdistinct hhash hfresh hknown)
  rcases finish_revive hrevive (swept pallets revive s) with
    ⟨hrefcount, hcontracts⟩
  have hproxy : proxyWith revive codeHash
      (finish pallets revive (swept pallets revive s)) =
        proxyWith revive codeHash (attempt (deployTokenProxy revive)
          (swept pallets revive s)) := by
    unfold proxyWith StorageMap.containsKey
    rw [hcontracts]
  have hcount : movedWith revive codeHash s (swept pallets revive s) ≤
      s.frontier.accountCodes.iter.length := List.countP_le_length
  have hone : proxyWith revive codeHash (attempt (deployTokenProxy revive)
      (swept pallets revive s)) ≤ 1 := by
    unfold proxyWith
    split <;> lia
  have hlast : t.revive =
      (finish pallets revive (swept pallets revive s)).revive :=
    (congrArg Chain.revive (onRuntimeUpgrade_eq hschema)).trans
      (clearFrontier_revive _)
  have hread : t.refcount codeHash = (attempt (deployTokenProxy revive)
      (swept pallets revive s)).refcount codeHash := by
    rw [← hrefcount]
    unfold Chain.refcount
    rw [hlast]
  have hmovedLast : movedWith revive codeHash s t =
      movedWith revive codeHash s (swept pallets revive s) := by
    rw [← hmoved]
    unfold movedWith movedTo
    rw [hlast]
  have hproxyLast : proxyWith revive codeHash t = proxyWith revive codeHash
      (attempt (deployTokenProxy revive) (swept pallets revive s)) := by
    rw [← hproxy]
    unfold proxyWith
    rw [hlast]
  rw [hread, hdeployed, hcounted, hfresh.unused codeHash, hmovedLast,
    hproxyLast]
  unfold satAdd
  lia

end Upgrade

theorem Moved.not_untouched {address : H160} {code : List UInt8}
    {s t : Chain} (h : Moved pallets revive address code s t) :
    ¬ Untouched pallets address s t := by
  intro huntouched
  cases h.contract.symm.trans huntouched.contract

/-- After the upgrade each contract that is no delegation has moved whole or is
untouched, and not both; it has moved exactly if its move succeeded when its turn
came, and is untouched exactly if that failed.  Every code counts the contracts
that moved with it, and the token proxy; and a second run changes nothing.  The
codes are collected in a `Vec`, which is shorter than `u64::MAX`. -/
theorem contracts_move_whole_or_not_at_all (hlawful : pallets.Lawful)
    (hlocal : pallets.Local) (hrevive : revive.Lawful pallets)
    (hdistinct : Distinct pallets revive) {s : Chain}
    (hhash : revive.CollisionFree (Involved revive s))
    (hschema : s.frontier.ethereumSchema = true) (hfresh : Fresh revive s)
    (hknown : ∀ address ∈ knownAddresses,
      s.frontier.accountCodes.get address = none)
    (hslots : forall address code,
      s.frontier.accountCodes.get address = some code ->
        (s.slots address).iter.length < 2 ^ 26)
    (hlength : s.frontier.accountCodes.iter.length < u64Max) :
    let t := onRuntimeUpgrade pallets revive s
    (forall address code,
      s.frontier.accountCodes.get address = some code ->
      isDelegation code = false ->
        (Moved pallets revive address code s t ∨
          Untouched pallets address s t) ∧
        ¬ (Moved pallets revive address code s t ∧
          Untouched pallets address s t) ∧
        forall before after,
          s.frontier.accountCodes.iter = before ++ (address, code) :: after ->
          (Moved pallets revive address code s t <->
            moves pallets revive before (address, code) s = true) ∧
          (Untouched pallets address s t <->
            moves pallets revive before (address, code) s = false)) ∧
      (forall codeHash, t.refcount codeHash = s.refcount codeHash +
        movedWith revive codeHash s t + proxyWith revive codeHash t) ∧
      onRuntimeUpgrade pallets revive t = t := by
  intro t
  refine ⟨?_, ?_, onRuntimeUpgrade_twice pallets revive s⟩
  · intro address code hget hcontract
    have houtcome : forall before after,
        s.frontier.accountCodes.iter = before ++ (address, code) :: after -> _ :=
      fun before after hsplit =>
        upgrade_moved_or_untouched hlawful hlocal hrevive hdistinct hhash
          hfresh hschema hknown hsplit hcontract (hslots address code hget)
    refine ⟨?_, fun hboth => hboth.left.not_untouched hboth.right, ?_⟩
    · rcases List.append_of_mem (StorageMap.mem_iter.mpr hget) with
        ⟨before, after, hsplit⟩
      exact (houtcome before after hsplit).imp And.right And.right
    · intro before after hsplit
      rcases houtcome before after hsplit with
        ⟨hok, hmoved⟩ | ⟨hfailed, huntouched⟩
      · rw [hok]
        exact ⟨iff_of_true hmoved rfl,
          iff_of_false hmoved.not_untouched (by decide)⟩
      · rw [hfailed]
        exact ⟨iff_of_false (fun h => h.not_untouched huntouched) (by decide),
          iff_of_true huntouched rfl⟩
  · exact upgrade_refcount hlawful hlocal hrevive hdistinct hhash hfresh
      hknown hschema hlength

theorem firstChain_fresh : Fresh firstRevive firstChain where
  contracts := fun _ => StorageMap.get_empty _
  tries := fun _ _ => StorageMap.get_empty _
  stored := by
    intro codeHash info h
    cases (StorageMap.get_empty codeHash).symm.trans h
  hashed := by
    intro codeHash code h
    cases (StorageMap.get_empty codeHash).symm.trans h
  unused := by
    intro codeHash
    unfold Chain.refcount
    change ((StorageMap.empty.get codeHash).map CodeInfo.refcount).getD 0 = 0
    rw [StorageMap.get_empty]
    rfl

theorem firstChain_collisionFree :
    firstRevive.CollisionFree (Involved firstRevive firstChain) := by
  refine referenceRevive_collisionFree 10 5 _
    [readerCode, oversizedCode, proxyCode firstRevive] ?_ (by decide +kernel)
  intro code hcode
  cases hcode with
  | contract hget =>
      have hall : ∀ contract ∈ firstChain.frontier.accountCodes.iter,
          contract.2 ∈
            [readerCode, oversizedCode, proxyCode firstRevive] := by
        decide +kernel
      exact hall _ (StorageMap.mem_iter.mpr hget)
  | stored hget => cases (StorageMap.get_empty _).symm.trans hget
  | proxy => exact List.mem_of_elem_eq_true (by decide +kernel)

theorem firstChain_slots (address : H160) :
    (firstChain.slots address).iter.length < 2 ^ 26 := by
  change (Function.update (fun _ => StorageMap.empty) firstAddress firstSlots
    address).iter.length < 2 ^ 26
  by_cases hfirst : address = firstAddress
  · rw [hfirst, Function.update_self]
    decide +kernel
  · rw [Function.update_of_ne hfirst]
    decide +kernel

theorem reader_moves_and_oversized_contract_stays :
    let t := onRuntimeUpgrade (reference 10 5) firstRevive firstChain
    Moved (reference 10 5) firstRevive firstAddress readerCode firstChain t ∧
      Untouched (reference 10 5) secondAddress firstChain t := by
  intro t
  have hall := (contracts_move_whole_or_not_at_all
    (reference_lawful (by decide) 5) (reference_local 10 5) firstRevive_lawful
    firstRevive_distinct firstChain_collisionFree rfl firstChain_fresh
    (by decide +kernel) (fun address _ _ => firstChain_slots address)
    (by decide +kernel)).left
  have hfirst := (hall firstAddress readerCode (by decide +kernel)
    (by decide +kernel)).left
  have hsecond := (hall secondAddress oversizedCode (by decide +kernel)
    (by decide +kernel)).left
  constructor
  · refine hfirst.resolve_right ?_
    intro hstays
    exact absurd (congrArg Option.isSome hstays.contract) (by decide +kernel)
  · refine hsecond.resolve_left ?_
    intro hmoved
    exact absurd (congrArg Option.isSome hmoved.contract) (by decide +kernel)

end Migration
end Numen
