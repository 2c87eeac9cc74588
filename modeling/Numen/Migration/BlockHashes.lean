import Numen.Migration.Reference

/-!
# Block hashes across the upgrade

`BLOCKHASH` answers from pallet-revive's table after the upgrade.  The copy runs
first, so what it wrote has to survive everything the upgrade does afterwards,
and a second run of the upgrade must not start over.
-/

namespace Numen
namespace Migration

open Foundation
open Accounts

variable {pallets : Pallets} {revive : Revive}

/-!
## The copy
-/

theorem mem_recentBlocks {now number : Nat} :
    number ∈ recentBlocks now <-> now - 256 ≤ number ∧ number ≤ now := by
  unfold recentBlocks
  rw [List.mem_range']
  constructor
  · rintro ⟨i, hi, rfl⟩
    lia
  · rintro ⟨hlow, hhigh⟩
    exact ⟨number - (now - 256), by lia, by lia⟩

theorem copyBlockHash_frontier (s : Chain) (number : Nat) :
    (copyBlockHash s number).frontier = s.frontier := by
  unfold copyBlockHash
  split <;> rfl

theorem get_copyBlockHash (s : Chain) (number n : Nat) :
    (copyBlockHash s number).revive.blockHash.get n =
      if n = number then
        (s.frontier.blockHash.get n).or (s.revive.blockHash.get n)
      else
        s.revive.blockHash.get n := by
  unfold copyBlockHash
  by_cases hn : n = number
  · subst hn
    rw [if_pos rfl]
    split
    · rename_i hash hhash
      rw [hhash, StorageMap.get_insert_self]
      rfl
    · rename_i hnone
      rw [hnone]
      rfl
  · rw [if_neg hn]
    split
    · exact StorageMap.get_insert_of_ne _ _ hn
    · rfl

theorem foldl_copyBlockHash (numbers : List Nat) (s : Chain) (n : Nat) :
    (numbers.foldl copyBlockHash s).revive.blockHash.get n =
      if n ∈ numbers then
        (s.frontier.blockHash.get n).or (s.revive.blockHash.get n)
      else
        s.revive.blockHash.get n := by
  induction numbers generalizing s with
  | nil =>
      rfl
  | cons number rest ih =>
      rw [List.foldl_cons, ih, copyBlockHash_frontier, get_copyBlockHash]
      by_cases hn : n = number
      · subst hn
        rw [if_pos rfl, if_pos List.mem_cons_self]
        split
        · cases s.frontier.blockHash.get n <;> rfl
        · rfl
      · rw [if_neg hn]
        simp only [List.mem_cons, hn, false_or]

/-!
## Everything after the copy
-/

def SameHashes (s t : Chain) : Prop :=
  t.revive.blockHash = s.revive.blockHash

theorem store_sameHashes (s : Chain) (blob : ContractBlob) :
    SameHashes s (s.store blob) := by
  unfold SameHashes Chain.store
  split <;> rfl

theorem install_sameHashes (hrevive : revive.Lawful pallets) {address : H160}
    {code : List UInt8} {storage : List (H256 × H256)} {s t : Chain}
    (h : install revive address code storage s = Except.ok t) :
    SameHashes s t := by
  rcases except_bind_eq_ok h with ⟨blob, _, h⟩
  rcases except_bind_eq_ok h with ⟨_, _, h⟩
  rcases except_bind_eq_ok h with ⟨stored, hstored, h⟩
  rcases except_bind_eq_ok h with ⟨counted, hcounted, h⟩
  rcases except_bind_eq_ok h with ⟨info, _, h⟩
  rcases except_bind_eq_ok h with ⟨written, hwritten, h⟩
  rcases except_bind_eq_ok h with ⟨ledger, _, h⟩
  cases h
  have hstore : SameHashes s stored := by
    rw [hrevive.storeCode_ok _ _ _ hstored]
    exact store_sameHashes s blob
  have hcount : SameHashes stored counted := by
    unfold countReference at hcounted
    split at hcounted
    · cases hcounted
      rfl
    · cases hcounted
  have hwrite : SameHashes counted written := by
    rw [writeSlots_ok hrevive _ hwritten]
    rfl
  exact (hwrite.trans hcount).trans hstore

theorem moveContract_sameHashes (hrevive : revive.Lawful pallets)
    {contract : H160 × List UInt8} {s t : Chain}
    (h : moveContract pallets revive contract s = Except.ok t) :
    SameHashes s t := by
  rcases moveContract_calls h with ⟨installed, ledger, hinstalled, _, rfl⟩
  rcases installContract_cases hinstalled with ⟨_, rfl⟩ | ⟨_, hinstall⟩
  · rfl
  · have hsame := install_sameHashes hrevive hinstall
    exact hsame

theorem deployTokenProxy_sameHashes (hrevive : revive.Lawful pallets)
    {s t : Chain} (h : deployTokenProxy revive s = Except.ok t) :
    SameHashes s t := by
  unfold deployTokenProxy at h
  split at h
  · cases h
    rfl
  · exact install_sameHashes hrevive h

theorem moveAccount_sameHashes {address : H160} {s t : Chain}
    (h : moveAccount pallets address s = Except.ok t) : SameHashes s t := by
  unfold moveAccount at h
  split at h
  · cases h
    rfl
  · rcases except_bind_eq_ok h with ⟨ledger, _, h⟩
    cases h
    rfl

theorem openPalletAccount_sameHashes (s : Chain) :
    SameHashes s (openPalletAccount pallets revive s) := by
  unfold openPalletAccount
  split
  · rfl
  · split <;> rfl

theorem clearFrontier_sameHashes (s : Chain) :
    SameHashes s (clearFrontier s) := by
  unfold clearFrontier
  dsimp only
  split <;> rfl

theorem sweep_sameHashes {Key : Type} {f : Key -> Chain -> Except DispatchError Chain}
    (hf : forall key s t, f key s = Except.ok t -> SameHashes s t)
    (keys : List Key) (s : Chain) : SameHashes s (sweep f keys s) := by
  refine sweep_preserves (fun t => SameHashes s t) ?_ rfl
  intro key _ u t hu ht
  exact (hf key u t ht).trans hu

theorem onRuntimeUpgrade_sameHashes (hrevive : revive.Lawful pallets) {s : Chain}
    (hschema : s.frontier.ethereumSchema = true) :
    SameHashes (copyBlockHashes s) (onRuntimeUpgrade pallets revive s) := by
  unfold onRuntimeUpgrade
  rw [hschema]
  dsimp only
  rw [if_neg (by decide)]
  generalize hcopied : copyBlockHashes s = copied
  generalize hpinned : pinSigners pallets revive copied = pinned
  generalize hopened : openPalletAccount pallets revive pinned = opened
  generalize hmoved : sweep (moveContract pallets revive)
    opened.frontier.accountCodes.iter opened = moved
  generalize hdeployed : attempt (deployTokenProxy revive) moved = deployed
  generalize hknown : sweep (moveAccount pallets) knownAddresses deployed = known
  generalize hmapped : mapAccounts revive known = mapped
  have hpin : SameHashes copied pinned := by
    rw [← hpinned]
    rfl
  have hopen : SameHashes pinned opened := by
    rw [← hopened]
    exact openPalletAccount_sameHashes pinned
  have hmove : SameHashes opened moved := by
    rw [← hmoved]
    exact sweep_sameHashes (fun _ _ _ => moveContract_sameHashes hrevive) _ _
  have hdeploy : SameHashes moved deployed := by
    rw [← hdeployed]
    exact attempt_induction (SameHashes moved) rfl
      (fun _ => deployTokenProxy_sameHashes hrevive)
  have hknow : SameHashes deployed known := by
    rw [← hknown]
    exact sweep_sameHashes (fun _ _ _ => moveAccount_sameHashes) _ _
  have hmap : SameHashes known mapped := by
    rw [← hmapped]
    refine sweep_sameHashes ?_ _ _
    intro who u t ht
    rw [hrevive.mapNoDepositUnchecked_ok _ _ _ ht]
    rfl
  have hclear := clearFrontier_sameHashes mapped
  exact (((((hclear.trans hmap).trans hknow).trans hdeploy).trans hmove).trans
    hopen).trans hpin

/-- After the upgrade pallet-revive answers for the last 256 blocks and the
current one with Frontier's hash, wherever Frontier has one, and for every other
number as before; and running the upgrade a second time changes nothing. -/
theorem recent_block_hashes_carry_over (hrevive : revive.Lawful pallets)
    {s : Chain} (hschema : s.frontier.ethereumSchema = true) :
    (forall number, s.ledger.block - 256 ≤ number -> number ≤ s.ledger.block ->
      forall hash, s.frontier.blockHash.get number = some hash ->
        (onRuntimeUpgrade pallets revive s).revive.blockHash.get number =
          some hash) ∧
    (forall number, number < s.ledger.block - 256 ∨ s.ledger.block < number ∨
        s.frontier.blockHash.get number = none ->
      (onRuntimeUpgrade pallets revive s).revive.blockHash.get number =
        s.revive.blockHash.get number) ∧
    onRuntimeUpgrade pallets revive (onRuntimeUpgrade pallets revive s) =
      onRuntimeUpgrade pallets revive s := by
  have hsame := onRuntimeUpgrade_sameHashes hrevive hschema
  unfold SameHashes at hsame
  refine ⟨?_, ?_, onRuntimeUpgrade_twice pallets revive s⟩
  · intro number hlow hhigh hash hhash
    rw [hsame]
    unfold copyBlockHashes
    rw [foldl_copyBlockHash, if_pos (mem_recentBlocks.mpr ⟨hlow, hhigh⟩), hhash]
    rfl
  · intro number hother
    rw [hsame]
    unfold copyBlockHashes
    rw [foldl_copyBlockHash]
    split
    · rename_i hmem
      rcases mem_recentBlocks.mp hmem with ⟨hlow, hhigh⟩
      rcases hother with hbelow | habove | hnone
      · exact absurd hbelow (Nat.not_lt.mpr hlow)
      · exact absurd habove (Nat.not_lt.mpr hhigh)
      · rw [hnone]
        rfl
    · rfl

/-- Block 300 of `firstChain`.  Frontier has kept the hash of its parent and one
that is too old to be asked for. -/
def hashedChain : Chain :=
  { firstChain with
    ledger := { firstState with block := 300 }
    frontier := { firstChain.frontier with
      blockHash := (StorageMap.empty.insert 299 (Bytes.replicate 32 7)).insert 3
        (Bytes.replicate 32 8) } }

theorem parent_hash_carries_over :
    let t := onRuntimeUpgrade (reference 10 5) firstRevive hashedChain
    t.revive.blockHash.get 299 = some (Bytes.replicate 32 7) ∧
      t.revive.blockHash.get 3 = none ∧
      onRuntimeUpgrade (reference 10 5) firstRevive t = t := by
  have hparent : hashedChain.frontier.blockHash.get 299 =
      some (Bytes.replicate 32 7) := by
    decide +kernel
  rcases recent_block_hashes_carry_over firstRevive_lawful
    (rfl : hashedChain.frontier.ethereumSchema = true) with
    ⟨hrecent, hother, hagain⟩
  have hold := hother 3 (Or.inl (by decide))
  exact ⟨hrecent 299 (by decide) (by decide) _ hparent, hold, hagain⟩

end Migration
end Numen
