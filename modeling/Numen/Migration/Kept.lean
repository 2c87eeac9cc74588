import Numen.Accounts.Locality
import Numen.Migration.Frontier

/-!
# What the steps of the upgrade leave alone

Everything the chain holds for one address: its part of Frontier's storage, its
contract in pallet-revive, and its old and new accounts.  No step of the upgrade
touches any of it, but the step that moves that address.
-/

namespace Numen
namespace Migration

open Foundation
open Accounts

variable {pallets : Pallets} {revive : Revive} {Known : List UInt8 -> Prop}

/-- The accounts that addresses stand for are different accounts, and none of
them is pallet-revive's own. -/
structure Distinct (pallets : Pallets) (revive : Revive) : Prop where
  legacy_injective : forall a b,
    legacyAccount pallets a = legacyAccount pallets b -> a = b
  legacy_ne_revive : forall a b, legacyAccount pallets a ≠ reviveAccount b
  pallet_ne_legacy : forall a, revive.accountId ≠ legacyAccount pallets a
  pallet_ne_revive : forall a, revive.accountId ≠ reviveAccount a

/-- Every code with a record is stored, under its own hash, and is one of those
`Known`. -/
structure Sound (revive : Revive) (Known : List UInt8 -> Prop) (s : Chain) :
    Prop where
  stored : forall codeHash info,
    s.revive.codeInfoOf.get codeHash = some info ->
      exists code, s.revive.pristineCode.get codeHash = some code
  hashed : forall codeHash code,
    s.revive.pristineCode.get codeHash = some code ->
      revive.keccak code = codeHash
  known : forall codeHash code,
    s.revive.pristineCode.get codeHash = some code -> Known code

structure SameFrontier (address : H160) (s t : Chain) : Prop where
  code : t.frontier.accountCodes.get address =
    s.frontier.accountCodes.get address
  metadata : t.frontier.accountCodesMetadata.get address =
    s.frontier.accountCodesMetadata.get address
  slots : t.slots address = s.slots address

theorem SameFrontier.of_eq {address : H160} {s t : Chain}
    (h : t.frontier = s.frontier) : SameFrontier address s t :=
  ⟨congrArg (fun frontier => frontier.accountCodes.get address) h,
    congrArg (fun frontier => frontier.accountCodesMetadata.get address) h,
    congrArg (fun frontier => frontier.accountStorages address) h⟩

theorem SameFrontier.trans {address : H160} {s t u : Chain}
    (hst : SameFrontier address s t) (htu : SameFrontier address t u) :
    SameFrontier address s u :=
  ⟨htu.code.trans hst.code, htu.metadata.trans hst.metadata,
    htu.slots.trans hst.slots⟩

/-- The contract at `address` is the same, and no stored code is lost. -/
structure SameContract (revive : Revive) (address : H160) (s t : Chain) :
    Prop where
  contract : t.revive.contracts.get address = s.revive.contracts.get address
  trie : t.revive.tries (revive.trieId address 0) =
    s.revive.tries (revive.trieId address 0)
  codes : forall codeHash code,
    s.revive.pristineCode.get codeHash = some code ->
      t.revive.pristineCode.get codeHash = some code

theorem SameContract.of_eq {address : H160} {s t : Chain}
    (hcontracts : t.revive.contracts = s.revive.contracts)
    (htries : t.revive.tries = s.revive.tries)
    (hcodes : t.revive.pristineCode = s.revive.pristineCode) :
    SameContract revive address s t := by
  constructor
  · rw [hcontracts]
  · rw [htries]
  · rw [hcodes]
    exact fun _ _ h => h

theorem SameContract.trans {address : H160} {s t u : Chain}
    (hst : SameContract revive address s t)
    (htu : SameContract revive address t u) :
    SameContract revive address s u :=
  ⟨htu.contract.trans hst.contract, htu.trie.trans hst.trie,
    fun codeHash code h => htu.codes codeHash code (hst.codes codeHash code h)⟩

/-- The holdings of both accounts of `address` are the same. -/
structure SameAccounts (pallets : Pallets) (address : H160) (s t : Chain) :
    Prop where
  legacy : SameHolding (legacyAccount pallets address) s.ledger t.ledger
  account : SameHolding (reviveAccount address) s.ledger t.ledger

theorem SameAccounts.of_eq {address : H160} {s t : Chain}
    (h : t.ledger = s.ledger) : SameAccounts pallets address s t := by
  constructor
  · rw [h]
    exact SameHolding.refl _ _
  · rw [h]
    exact SameHolding.refl _ _

theorem SameAccounts.trans {address : H160} {s t u : Chain}
    (hst : SameAccounts pallets address s t)
    (htu : SameAccounts pallets address t u) :
    SameAccounts pallets address s u :=
  ⟨hst.legacy.trans htu.legacy, hst.account.trans htu.account⟩

structure Kept (pallets : Pallets) (revive : Revive) (address : H160)
    (s t : Chain) : Prop where
  frontier : SameFrontier address s t
  contract : SameContract revive address s t
  accounts : SameAccounts pallets address s t

theorem Kept.refl (address : H160) (s : Chain) :
    Kept pallets revive address s s :=
  ⟨SameFrontier.of_eq rfl, SameContract.of_eq rfl rfl rfl,
    SameAccounts.of_eq rfl⟩

theorem Kept.trans {address : H160} {s t u : Chain}
    (hst : Kept pallets revive address s t)
    (htu : Kept pallets revive address t u) :
    Kept pallets revive address s u :=
  ⟨hst.frontier.trans htu.frontier, hst.contract.trans htu.contract,
    hst.accounts.trans htu.accounts⟩

theorem Kept.setLedger {address : H160} {s : Chain} {ledger : State}
    (hlegacy : SameHolding (legacyAccount pallets address) s.ledger ledger)
    (haccount : SameHolding (reviveAccount address) s.ledger ledger) :
    Kept pallets revive address s (s.setLedger ledger) :=
  ⟨SameFrontier.of_eq rfl, SameContract.of_eq rfl rfl rfl, hlegacy, haccount⟩

/-!
## Installing a contract
-/

structure Opened (pallets : Pallets) (account : AccountId) (s t : State) :
    Prop where
  others : forall who, who ≠ account -> t.account who = s.account who
  locks : t.locks = s.locks
  freezes : t.freezes = s.freezes
  free : t.free account = s.free account +
    if accountExists s account then 0 else pallets.minimumBalance
  nonce : t.nonce account = max (s.nonce account) 1

theorem initMissing_ok (hlawful : pallets.Lawful) (hlocal : pallets.Local)
    (hrevive : revive.Lawful pallets) {account : AccountId} {s t : State}
    (h : initMissing revive account s = Except.ok t) :
    (forall who, who ≠ account -> t.account who = s.account who) ∧
      t.locks = s.locks ∧ t.freezes = s.freezes ∧
      t.free account = s.free account +
        (if accountExists s account then 0 else pallets.minimumBalance) ∧
      t.nonce account = s.nonce account := by
  unfold initMissing at h
  split at h
  · rename_i hexists
    cases h
    rw [if_pos hexists]
    exact ⟨fun _ _ => rfl, rfl, rfl, rfl, rfl⟩
  · rename_i hnew
    rcases hrevive.initContract_ok account s t h with
      ⟨minted, hminted, hdeactivated⟩
    rw [hlawful.deactivate_eq] at hdeactivated
    rcases hlawful.mintInto_ok account _ s minted hminted with
      ⟨hchange, hfree, _⟩
    rcases hlocal.mintInto_locks account _ s minted hminted with
      ⟨hlocks, hfreezes⟩
    rw [hdeactivated, if_neg hnew]
    refine ⟨hchange.untouched, hlocks, hfreezes, hfree, ?_⟩
    refine (hchange.record account).nonce_eq ?_
    intro hfunded
    have hgrows : s.free account ≤ minted.free account := by lia
    exact Nat.le_trans hfunded hgrows

theorem openContractAccount_calls (hrevive : revive.Lawful pallets)
    {account : AccountId} {s t : State}
    (h : openContractAccount revive account s = Except.ok t) :
    exists opened info, initMissing revive account s = Except.ok opened ∧
      t = opened.setAccount account info ∧
      info.data = (opened.account account).data ∧
      info.nonce = max (opened.nonce account) 1 := by
  unfold openContractAccount at h
  rcases except_bind_eq_ok h with ⟨opened, hopened, h⟩
  rcases except_bind_eq_ok h with ⟨counted, hcounted, h⟩
  have heq := hrevive.incConsumers_ok account opened counted hcounted
  have hcountedNonce : counted.nonce account = opened.nonce account := by
    rw [heq]
    unfold State.nonce
    rw [State.account_setAccount_self]
  by_cases hzero : counted.nonce account = 0
  · rw [if_pos hzero] at h
    cases h
    refine ⟨opened, { counted.account account with
      nonce := counted.nonce account + 1 }, hopened, ?_, ?_, ?_⟩
    · unfold incAccountNonce
      rw [heq, State.setAccount_setAccount]
    · rw [heq, State.account_setAccount_self]
    · dsimp only
      lia
  · rw [if_neg hzero] at h
    cases h
    refine ⟨opened, _, hopened, heq, rfl, ?_⟩
    change opened.nonce account = _
    lia

theorem openContractAccount_ok (hlawful : pallets.Lawful)
    (hlocal : pallets.Local) (hrevive : revive.Lawful pallets)
    {account : AccountId} {s t : State}
    (h : openContractAccount revive account s = Except.ok t) :
    Opened pallets account s t := by
  rcases openContractAccount_calls hrevive h with
    ⟨opened, info, hopened, ht, hdata, hinfoNonce⟩
  rcases initMissing_ok hlawful hlocal hrevive hopened with
    ⟨hothers, hlocks, hfreezes, hfree, hnonce⟩
  subst ht
  constructor
  · intro who hne
    rw [State.account_setAccount_of_ne _ _ hne]
    exact hothers who hne
  · exact hlocks
  · exact hfreezes
  · rw [← hfree]
    unfold State.free
    rw [State.account_setAccount_self, hdata]
  · rw [← hnonce, ← hinfoNonce]
    unfold State.nonce
    rw [State.account_setAccount_self]

theorem Opened.sameHolding {account who : AccountId} {s t : State}
    (h : Opened pallets account s t) (hne : who ≠ account) :
    SameHolding who s t :=
  SameHolding.of_record (h.others who hne) (congrFun h.locks who)
    (congrFun h.freezes who)

def installedInfo (revive : Revive) (address : H160) (code : List UInt8)
    (storage : List (H256 × H256)) : ContractInfo where
  trieId := revive.trieId address 0
  codeHash := revive.keccak code
  storageBytes := 64 * (storage.length % 2 ^ 32) % 2 ^ 32
  storageItems := storage.length % 2 ^ 32

def writtenTrie (revive : Revive) (storage : List (H256 × H256))
    (trie : StorageMap H256 (List UInt8)) : StorageMap H256 (List UInt8) :=
  storage.foldl
    (fun trie slot => trie.insert (revive.hashKey slot.1) slot.2.toList) trie

theorem writeSlots_ok (hrevive : revive.Lawful pallets) {info : ContractInfo}
    (storage : List (H256 × H256)) {s t : Chain}
    (h : writeSlots revive info storage s = Except.ok t) :
    t = { s with revive := { s.revive with
      tries := Function.update s.revive.tries info.trieId
        (writtenTrie revive storage (s.revive.tries info.trieId)) } } := by
  induction storage generalizing s with
  | nil =>
      cases h
      unfold writtenTrie
      rw [List.foldl_nil, Function.update_eq_self]
  | cons slot rest ih =>
      rcases except_bind_eq_ok h with ⟨next, hwritten, hrest⟩
      have hnext := hrevive.write_ok info _ _ s next hwritten
      rw [ih hrest, hnext]
      unfold Chain.setTrie
      dsimp only
      rw [Function.update_self, Function.update_idem]
      rfl

structure Installed (pallets : Pallets) (revive : Revive) (address : H160)
    (code : List UInt8) (storage : List (H256 × H256)) (s t : Chain) :
    Prop where
  frontier : t.frontier = s.frontier
  contracts : t.revive.contracts = s.revive.contracts.insert address
    (installedInfo revive address code storage)
  tries : t.revive.tries = Function.update s.revive.tries
    (revive.trieId address 0)
    (writtenTrie revive storage (s.revive.tries (revive.trieId address 0)))
  codes : t.revive.pristineCode =
    if s.revive.codeInfoOf.containsKey (revive.keccak code) then
      s.revive.pristineCode
    else s.revive.pristineCode.insert (revive.keccak code) code
  infos : forall codeHash,
    (t.revive.codeInfoOf.get codeHash).isSome = true ->
      codeHash = revive.keccak code ∨
        (s.revive.codeInfoOf.get codeHash).isSome = true
  refcount : forall codeHash, t.refcount codeHash =
    if codeHash = revive.keccak code then
      satAdd u64Max (s.refcount codeHash) 1
    else s.refcount codeHash
  ledger : Opened pallets (reviveAccount address) s.ledger t.ledger

theorem refcount_setCodeInfo (s : Chain) (codeHash other : H256)
    (info : CodeInfo) : (s.setCodeInfo codeHash info).refcount other =
      if other = codeHash then info.refcount else s.refcount other := by
  unfold Chain.refcount Chain.setCodeInfo
  dsimp only
  rw [StorageMap.get_insert]
  split
  · rfl
  · rfl

/-- What storing a code and counting one more contract of it does. -/
structure Stored (blob : ContractBlob) (s t : Chain) : Prop where
  ledger : t.ledger = s.ledger
  frontier : t.frontier = s.frontier
  contracts : t.revive.contracts = s.revive.contracts
  tries : t.revive.tries = s.revive.tries
  codes : t.revive.pristineCode =
    if s.revive.codeInfoOf.containsKey blob.codeHash then
      s.revive.pristineCode
    else s.revive.pristineCode.insert blob.codeHash blob.code
  infos : forall codeHash,
    (t.revive.codeInfoOf.get codeHash).isSome = true ->
      codeHash = blob.codeHash ∨
        (s.revive.codeInfoOf.get codeHash).isSome = true
  refcount : forall codeHash, t.refcount codeHash =
    if codeHash = blob.codeHash then satAdd u64Max (s.refcount codeHash) 1
    else s.refcount codeHash

theorem refcount_store {blob : ContractBlob}
    (hzero : blob.codeInfo.refcount = 0) (s : Chain) (codeHash : H256) :
    (s.store blob).refcount codeHash = s.refcount codeHash := by
  unfold Chain.store
  split
  · rfl
  · rename_i hnew
    unfold Chain.refcount
    dsimp only
    rw [StorageMap.get_insert]
    split
    · rename_i hself
      rw [hself, Option.not_isSome_iff_eq_none.mp hnew]
      exact hzero
    · rfl

theorem get_store (blob : ContractBlob) (s : Chain) {codeHash : H256}
    (hne : codeHash ≠ blob.codeHash) :
    (s.store blob).revive.codeInfoOf.get codeHash =
      s.revive.codeInfoOf.get codeHash := by
  unfold Chain.store
  split
  · rfl
  · exact StorageMap.get_insert_of_ne _ _ hne

theorem store_apart (blob : ContractBlob) (s : Chain) :
    (s.store blob).ledger = s.ledger ∧ (s.store blob).frontier = s.frontier ∧
      (s.store blob).revive.contracts = s.revive.contracts ∧
      (s.store blob).revive.tries = s.revive.tries ∧
      (s.store blob).revive.pristineCode =
        if s.revive.codeInfoOf.containsKey blob.codeHash then
          s.revive.pristineCode
        else s.revive.pristineCode.insert blob.codeHash blob.code := by
  unfold Chain.store
  split
  · exact ⟨rfl, rfl, rfl, rfl, rfl⟩
  · exact ⟨rfl, rfl, rfl, rfl, rfl⟩

theorem countReference_store {blob : ContractBlob} {s t : Chain}
    (hzero : blob.codeInfo.refcount = 0)
    (h : countReference blob.codeHash (s.store blob) = Except.ok t) :
    Stored blob s t := by
  rcases store_apart blob s with
    ⟨hledger, hfrontier, hcontracts, htries, hcodes⟩
  unfold countReference at h
  cases hinfo : (s.store blob).revive.codeInfoOf.get blob.codeHash with
  | none =>
      rw [hinfo] at h
      cases h
  | some info =>
      rw [hinfo] at h
      cases h
      refine ⟨hledger, hfrontier, hcontracts, htries, hcodes, ?_, ?_⟩
      · intro codeHash hsome
        by_cases hself : codeHash = blob.codeHash
        · exact Or.inl hself
        · rw [← get_store blob s hself]
          change (((s.store blob).revive.codeInfoOf.insert _ _).get
            codeHash).isSome = true at hsome
          rw [StorageMap.get_insert_of_ne _ _ hself] at hsome
          exact Or.inr hsome
      · intro codeHash
        rw [refcount_setCodeInfo, ← refcount_store hzero s codeHash]
        split
        · rename_i hself
          unfold Chain.refcount
          rw [hself, hinfo]
          rfl
        · rfl

theorem install_calls (hrevive : revive.Lawful pallets) {address : H160}
    {code : List UInt8} {storage : List (H256 × H256)} {s t : Chain}
    (h : install revive address code storage s = Except.ok t) :
    exists counted ledger,
      Stored ⟨code, revive.keccak code,
        ⟨revive.accountId, 0, 0, code.length, BytecodeType.evm, 0⟩⟩ s
        counted ∧
      openContractAccount revive (reviveAccount address) s.ledger =
        Except.ok ledger ∧
      t = { counted with
        ledger := ledger
        revive := { counted.revive with
          contracts := counted.revive.contracts.insert address
            (installedInfo revive address code storage)
          tries := Function.update counted.revive.tries
            (revive.trieId address 0)
            (writtenTrie revive storage
              (counted.revive.tries (revive.trieId address 0))) } } := by
  unfold install at h
  rcases except_bind_eq_ok h with ⟨blob, hblob, h⟩
  rcases except_bind_eq_ok h with ⟨_, _, h⟩
  rcases except_bind_eq_ok h with ⟨stored, hstored, h⟩
  rcases except_bind_eq_ok h with ⟨counted, hcounted, h⟩
  rcases except_bind_eq_ok h with ⟨info, hinfo, h⟩
  rcases except_bind_eq_ok h with ⟨written, hwritten, h⟩
  rcases except_bind_eq_ok h with ⟨ledger, hledger, h⟩
  cases h
  have hblobEq := hrevive.fromEvmRuntimeCodeWithDeposit_ok _ _ _ _ _ hblob
  subst hblobEq
  have hstoredEq := hrevive.storeCode_ok _ _ _ hstored
  subst hstoredEq
  rcases hrevive.contractInfo_ok _ _ _ _ _ hinfo with ⟨_, hinfoEq⟩
  subst hinfoEq
  have hwrittenEq := writeSlots_ok hrevive storage hwritten
  subst hwrittenEq
  have hcount := countReference_store rfl hcounted
  change openContractAccount revive _ counted.ledger = _ at hledger
  rw [hcount.ledger] at hledger
  exact ⟨counted, ledger, hcount, hledger, rfl⟩

theorem install_ok (hlawful : pallets.Lawful) (hlocal : pallets.Local)
    (hrevive : revive.Lawful pallets) {address : H160} {code : List UInt8}
    {storage : List (H256 × H256)} {s t : Chain}
    (h : install revive address code storage s = Except.ok t) :
    Installed pallets revive address code storage s t := by
  rcases install_calls hrevive h with
    ⟨counted, ledger, hcount, hledger, heq⟩
  subst heq
  refine ⟨hcount.frontier, ?_, ?_, hcount.codes, hcount.infos,
    hcount.refcount, openContractAccount_ok hlawful hlocal hrevive hledger⟩
  · dsimp only
    rw [hcount.contracts]
  · dsimp only
    rw [hcount.tries]

theorem Sound.of_eq {s t : Chain} (hs : Sound revive Known s)
    (hinfos : t.revive.codeInfoOf = s.revive.codeInfoOf)
    (hcodes : t.revive.pristineCode = s.revive.pristineCode) :
    Sound revive Known t := by
  constructor
  · rw [hinfos, hcodes]
    exact hs.stored
  · rw [hcodes]
    exact hs.hashed
  · rw [hcodes]
    exact hs.known

section Installed

variable {address : H160} {code : List UInt8}
  {storage : List (H256 × H256)} {s t : Chain}

theorem Installed.codes_mono
    (h : Installed pallets revive address code storage s t)
    (hhash : revive.CollisionFree Known) (hcode : Known code)
    (hs : Sound revive Known s) {codeHash : H256} {stored : List UInt8}
    (hstored : s.revive.pristineCode.get codeHash = some stored) :
    t.revive.pristineCode.get codeHash = some stored := by
  rw [h.codes]
  split
  · exact hstored
  · rw [StorageMap.get_insert]
    split
    · rename_i hself
      have hkeccak := (hs.hashed _ _ hstored).trans hself
      rw [hhash.keccak_injective _ _ (hs.known _ _ hstored) hcode hkeccak]
    · exact hstored

theorem Installed.code_stored
    (h : Installed pallets revive address code storage s t)
    (hhash : revive.CollisionFree Known) (hcode : Known code)
    (hs : Sound revive Known s) :
    t.revive.pristineCode.get (revive.keccak code) = some code := by
  rw [h.codes]
  split
  · rename_i hcontains
    rcases Option.isSome_iff_exists.mp hcontains with ⟨info, hinfo⟩
    rcases hs.stored _ _ hinfo with ⟨stored, hstored⟩
    rw [hstored, hhash.keccak_injective _ _ (hs.known _ _ hstored) hcode
      (hs.hashed _ _ hstored)]
  · exact StorageMap.get_insert_self _ _ _

theorem Installed.sound (h : Installed pallets revive address code storage s t)
    (hhash : revive.CollisionFree Known) (hcode : Known code)
    (hs : Sound revive Known s) : Sound revive Known t := by
  have hcodes : forall codeHash stored,
      t.revive.pristineCode.get codeHash = some stored ->
        revive.keccak stored = codeHash ∧ Known stored := by
    intro codeHash stored hstored
    rw [h.codes] at hstored
    split at hstored
    · exact ⟨hs.hashed _ _ hstored, hs.known _ _ hstored⟩
    · rcases StorageMap.get_insert_cases hstored with
        ⟨hself, hnew⟩ | hold
      · rw [hself, hnew]
        exact ⟨rfl, hcode⟩
      · exact ⟨hs.hashed _ _ hold, hs.known _ _ hold⟩
  refine ⟨?_, fun _ _ hstored => (hcodes _ _ hstored).left,
    fun _ _ hstored => (hcodes _ _ hstored).right⟩
  intro codeHash info hinfo
  have hsome : (t.revive.codeInfoOf.get codeHash).isSome = true := by
    rw [hinfo]
    rfl
  rcases h.infos codeHash hsome with hself | hbefore
  · rw [hself]
    exact ⟨code, h.code_stored hhash hcode hs⟩
  · rcases Option.isSome_iff_exists.mp hbefore with ⟨before, hget⟩
    rcases hs.stored _ _ hget with ⟨stored, hstored⟩
    exact ⟨stored, h.codes_mono hhash hcode hs hstored⟩

theorem Installed.kept {other : H160}
    (h : Installed pallets revive other code storage s t)
    (hhash : revive.CollisionFree Known) (hcode : Known code)
    (hdistinct : Distinct pallets revive) (hs : Sound revive Known s)
    (hne : address ≠ other) : Kept pallets revive address s t := by
  refine ⟨SameFrontier.of_eq h.frontier, ⟨?_, ?_, ?_⟩, ?_, ?_⟩
  · rw [h.contracts, StorageMap.get_insert_of_ne _ _ hne]
  · have htrie : revive.trieId address 0 ≠ revive.trieId other 0 := by
      intro heq
      exact hne (hhash.trieId_injective _ _ heq)
    rw [h.tries, Function.update_of_ne htrie]
  · intro codeHash stored
    exact h.codes_mono hhash hcode hs
  · exact h.ledger.sameHolding (hdistinct.legacy_ne_revive address other)
  · refine h.ledger.sameHolding ?_
    intro heq
    exact hne (reviveAccount_injective heq)

end Installed

/-!
## Moving another address
-/

section Move

variable (hlawful : pallets.Lawful) (hlocal : pallets.Local)
  (hdistinct : Distinct pallets revive)

include hlawful hlocal hdistinct

theorem moveLegacy_sameAccounts {address other : H160}
    (hne : address ≠ other) {s t : State}
    (h : moveLegacy pallets other s = Except.ok t) :
    SameHolding (legacyAccount pallets address) s t ∧
      SameHolding (reviveAccount address) s t := by
  have hown := hdistinct.legacy_ne_revive other other
  constructor
  · refine moveLegacy_sameHolding hlawful hlocal hown h ?_
      (hdistinct.legacy_ne_revive address other)
    intro heq
    exact hne (hdistinct.legacy_injective _ _ heq)
  · refine moveLegacy_sameHolding hlawful hlocal hown h
      (hdistinct.legacy_ne_revive other address).symm ?_
    intro heq
    exact hne (reviveAccount_injective heq)

theorem moveAccount_kept {address other : H160} (hne : address ≠ other)
    {s t : Chain} (h : moveAccount pallets other s = Except.ok t) :
    Kept pallets revive address s t := by
  unfold moveAccount at h
  split at h
  · cases h
    exact Kept.refl address _
  · rcases except_bind_eq_ok h with ⟨ledger, hmoved, h⟩
    cases h
    rcases moveLegacy_sameAccounts hlawful hlocal hdistinct hne hmoved with
      ⟨hlegacy, haccount⟩
    exact Kept.setLedger hlegacy haccount

end Move

theorem installContract_cases {address : H160} {code : List UInt8}
    {s t : Chain} (h : installContract revive address code s = Except.ok t) :
    (isDelegation code = true ∧ t = s) ∨
      (isDelegation code = false ∧
        install revive address code (liveSlots address s) s =
          Except.ok t) := by
  unfold installContract at h
  split at h
  · rename_i hdelegation
    cases h
    exact Or.inl ⟨hdelegation, rfl⟩
  · rename_i hcontract
    exact Or.inr ⟨Bool.eq_false_iff.mpr hcontract, h⟩

theorem moveContract_calls {contract : H160 × List UInt8} {s t : Chain}
    (h : moveContract pallets revive contract s = Except.ok t) :
    exists installed ledger,
      installContract revive contract.1 contract.2 s = Except.ok installed ∧
      moveLegacy pallets contract.1 installed.ledger = Except.ok ledger ∧
      t = { installed with
        ledger := ledger
        frontier := forget contract.1 installed.frontier } := by
  unfold moveContract at h
  rcases except_bind_eq_ok h with ⟨installed, hinstalled, h⟩
  rcases except_bind_eq_ok h with ⟨ledger, hledger, h⟩
  cases h
  exact ⟨installed, ledger, hinstalled, hledger, rfl⟩

theorem forget_sameFrontier {address other : H160} (hne : address ≠ other)
    {s t : Chain} (h : t.frontier = forget other s.frontier) :
    SameFrontier address s t := by
  unfold forget at h
  constructor
  · rw [h]
    exact StorageMap.get_remove_of_ne _ hne
  · rw [h]
    exact StorageMap.get_remove_of_ne _ hne
  · unfold Chain.slots
    rw [h]
    exact Function.update_of_ne hne _ _

section MoveContract

variable (hlawful : pallets.Lawful) (hlocal : pallets.Local)
  (hrevive : revive.Lawful pallets) (hhash : revive.CollisionFree Known)

include hlawful hlocal hrevive hhash

theorem moveContract_sound {contract : H160 × List UInt8}
    (hcode : Known contract.2) {s t : Chain} (hs : Sound revive Known s)
    (h : moveContract pallets revive contract s = Except.ok t) :
    Sound revive Known t := by
  rcases moveContract_calls h with ⟨installed, ledger, hinstalled, _, heq⟩
  have hsound : Sound revive Known installed := by
    rcases installContract_cases hinstalled with ⟨_, rfl⟩ | ⟨_, hinstall⟩
    · exact hs
    · exact (install_ok hlawful hlocal hrevive hinstall).sound hhash hcode hs
  rw [heq]
  exact hsound.of_eq rfl rfl

theorem moveContract_kept (hdistinct : Distinct pallets revive)
    {contract : H160 × List UInt8} (hcode : Known contract.2)
    {address : H160} (hne : address ≠ contract.1) {s t : Chain}
    (hs : Sound revive Known s)
    (h : moveContract pallets revive contract s = Except.ok t) :
    Kept pallets revive address s t := by
  rcases moveContract_calls h with
    ⟨installed, ledger, hinstalled, hledger, heq⟩
  have hkept : Kept pallets revive address s installed := by
    rcases installContract_cases hinstalled with ⟨_, rfl⟩ | ⟨_, hinstall⟩
    · exact Kept.refl address _
    · exact (install_ok hlawful hlocal hrevive hinstall).kept hhash hcode
        hdistinct hs hne
  rcases moveLegacy_sameAccounts hlawful hlocal hdistinct hne hledger with
    ⟨hlegacy, haccount⟩
  subst heq
  exact hkept.trans ⟨forget_sameFrontier hne rfl,
    SameContract.of_eq rfl rfl rfl, hlegacy, haccount⟩

theorem deployTokenProxy_kept (hdistinct : Distinct pallets revive)
    (hcode : Known (proxyCode revive)) {address : H160}
    (hne : address ≠ Erc20.address) {s t : Chain}
    (hs : Sound revive Known s) (h : deployTokenProxy revive s = Except.ok t) :
    Kept pallets revive address s t := by
  unfold deployTokenProxy at h
  split at h
  · cases h
    exact Kept.refl address _
  · exact (install_ok hlawful hlocal hrevive h).kept hhash hcode hdistinct hs
      hne

end MoveContract

/-!
## The other steps
-/

theorem copyBlockHashes_eq (s : Chain) :
    exists blockHash, copyBlockHashes s =
      { s with revive := { s.revive with blockHash := blockHash } } := by
  unfold copyBlockHashes
  refine foldl_preserves (fun t => exists blockHash,
    t = { s with revive := { s.revive with blockHash := blockHash } }) _ ?_
    ⟨s.revive.blockHash, rfl⟩
  rintro t number _ ⟨blockHash, heq⟩
  subst heq
  unfold copyBlockHash
  split
  · exact ⟨_, rfl⟩
  · exact ⟨_, rfl⟩

theorem foldl_incProviders_locks (hlawful : pallets.Lawful)
    (signers : List AccountId) (s : State) :
    (signers.foldl (fun s who => pallets.incProviders who s) s).locks =
        s.locks ∧
      (signers.foldl (fun s who => pallets.incProviders who s) s).freezes =
        s.freezes := by
  refine foldl_preserves
    (fun t : State => t.locks = s.locks ∧ t.freezes = s.freezes) signers ?_
    ⟨rfl, rfl⟩
  intro t who _ ht
  rw [hlawful.incProviders_eq]
  exact ht

theorem pinSigners_sameHolding (hlawful : pallets.Lawful)
    (accounts : List AccountId) (s : State) (who : AccountId) :
    SameHolding who s (Accounts.pinSigners pallets accounts s) := by
  unfold Accounts.pinSigners
  rcases foldl_incProviders_locks hlawful
    (accounts.filter fun who => s.nonce who ≠ 0) s with ⟨hlocks, hfreezes⟩
  refine ⟨?_, ?_, congrFun hlocks who, congrFun hfreezes who⟩
  · rw [foldl_incProviders hlawful]
  · unfold State.nonce
    rw [foldl_incProviders hlawful]

/-- What comes before the contracts moves nothing of any address, and touches
neither Frontier's storage nor any code. -/
structure Prepared (pallets : Pallets) (revive : Revive) (s t : Chain) :
    Prop where
  frontier : t.frontier = s.frontier
  infos : t.revive.codeInfoOf = s.revive.codeInfoOf
  codes : t.revive.pristineCode = s.revive.pristineCode
  kept : forall address, Kept pallets revive address s t

theorem openPalletAccount_prepared (hlawful : pallets.Lawful)
    (hlocal : pallets.Local) (hdistinct : Distinct pallets revive)
    (s : Chain) :
    Prepared pallets revive s (openPalletAccount pallets revive s) := by
  unfold openPalletAccount
  split
  · exact ⟨rfl, rfl, rfl, fun address => Kept.refl address s⟩
  · split
    · rename_i minted hminted
      have hchange := (hlawful.mintInto_ok _ _ _ _ hminted).left
      rcases hlocal.mintInto_locks _ _ _ _ hminted with ⟨hlocks, hfreezes⟩
      rw [hlawful.deactivate_eq]
      refine ⟨rfl, rfl, rfl, fun address => Kept.setLedger ?_ ?_⟩
      · exact SameHolding.of_record
          (hchange.untouched _ (hdistinct.pallet_ne_legacy address).symm)
          (congrFun hlocks _) (congrFun hfreezes _)
      · exact SameHolding.of_record
          (hchange.untouched _ (hdistinct.pallet_ne_revive address).symm)
          (congrFun hlocks _) (congrFun hfreezes _)
    · exact ⟨rfl, rfl, rfl, fun address => Kept.refl address s⟩

/-- The three steps before the contracts. -/
def prepare (pallets : Pallets) (revive : Revive) (s : Chain) : Chain :=
  openPalletAccount pallets revive
    (pinSigners pallets revive (copyBlockHashes s))

theorem prepare_prepared (hlawful : pallets.Lawful) (hlocal : pallets.Local)
    (hdistinct : Distinct pallets revive) (s : Chain) :
    Prepared pallets revive s (prepare pallets revive s) := by
  rcases copyBlockHashes_eq s with ⟨blockHash, hcopied⟩
  have hopened := openPalletAccount_prepared hlawful hlocal hdistinct
    (pinSigners pallets revive (copyBlockHashes s))
  unfold prepare
  rw [hcopied] at hopened ⊢
  refine ⟨hopened.frontier, hopened.infos, hopened.codes, fun address => ?_⟩
  refine Kept.trans ?_ (hopened.kept address)
  exact ⟨SameFrontier.of_eq rfl, SameContract.of_eq rfl rfl rfl,
    pinSigners_sameHolding hlawful _ _ _,
    pinSigners_sameHolding hlawful _ _ _⟩

theorem mapAccounts_prepared (hrevive : revive.Lawful pallets) (s : Chain) :
    Prepared pallets revive s (mapAccounts revive s) := by
  unfold mapAccounts
  refine sweep_preserves (fun t => Prepared pallets revive s t) ?_
    ⟨rfl, rfl, rfl, fun address => Kept.refl address s⟩
  intro who _ u t hu ht
  have heq := hrevive.mapNoDepositUnchecked_ok who u t ht
  subst heq
  refine ⟨hu.frontier, hu.infos, hu.codes, fun address => ?_⟩
  exact (hu.kept address).trans ⟨SameFrontier.of_eq rfl,
    SameContract.of_eq rfl rfl rfl, SameAccounts.of_eq rfl⟩

end Migration
end Numen
