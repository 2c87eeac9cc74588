import Numen.Foundation.Runs

/-!
# What a delegate may do for an account

An account may let others act for it, each with a proxy type.  The runtime says
which calls each type lets through and which types it may hand on.  The rest is
up to pallets from elsewhere: the proxy pallet finds the delegations and puts a
filter on the origin, the utility pallet keeps that filter on the calls in a
batch.  Of these only what `ProxyPallet.Lawful` and `Allowed` say is used.

Whether a delegation has a delay, and whether a call under it was announced in
time, is left open: a delegate may use any delegation it holds.
-/

namespace Numen
namespace Governance

open Foundation

/-- Call classes a proxy delegation may be restricted to. -/
inductive ProxyType where
  | any
  | nonTransfer
  | governance
  deriving DecidableEq, Repr

/-- The calls of the runtime as the filter tells them apart, with the two by
which a delegation comes about. -/
inductive RuntimeCall (AccountId Args : Type) where
  | balances (args : Args)
  | revive (args : Args)
  | vestedTransfer (args : Args)
  | vesting (args : Args)
  | treasury (args : Args)
  | bounties (args : Args)
  | childBounties (args : Args)
  | convictionVoting (args : Args)
  | referenda (args : Args)
  | utility (args : Args)
  | addProxy (delegate : AccountId) (proxyType : ProxyType)
  | createPure (proxyType : ProxyType) (index : Nat)
  | elsewhere (args : Args)

namespace ProxyType

variable {AccountId Args : Type}

def filter (proxyType : ProxyType) (c : RuntimeCall AccountId Args) : Bool :=
  match proxyType with
  | any => true
  | nonTransfer =>
      match c with
      | RuntimeCall.balances _ => false
      | RuntimeCall.revive _ => false
      | RuntimeCall.vestedTransfer _ => false
      | _ => true
  | governance =>
      match c with
      | RuntimeCall.treasury _ => true
      | RuntimeCall.bounties _ => true
      | RuntimeCall.childBounties _ => true
      | RuntimeCall.convictionVoting _ => true
      | RuntimeCall.referenda _ => true
      | RuntimeCall.utility _ => true
      | _ => false

def isSuperset (proxyType o : ProxyType) : Bool :=
  if proxyType = o then
    true
  else
    match proxyType, o with
    | any, _ => true
    | _, any => false
    | nonTransfer, _ => true
    | _, _ => false

theorem isSuperset_refl (proxyType : ProxyType) :
    proxyType.isSuperset proxyType = true :=
  if_pos rfl

theorem isSuperset_trans {a b c : ProxyType} (hab : a.isSuperset b = true)
    (hbc : b.isSuperset c = true) : a.isSuperset c = true := by
  cases a with
  | any => cases c <;> rfl
  | nonTransfer =>
      cases c with
      | any =>
          cases b with
          | any => cases hab
          | _ => cases hbc
      | _ => rfl
  | governance =>
      cases b with
      | governance => exact hbc
      | _ => cases hab

theorem filter_of_isSuperset {wide narrow : ProxyType}
    (hsuper : wide.isSuperset narrow = true) {c : RuntimeCall AccountId Args}
    (hnarrow : narrow.filter c = true) : wide.filter c = true := by
  cases wide with
  | any => rfl
  | nonTransfer =>
      cases narrow with
      | any => cases hsuper
      | nonTransfer => exact hnarrow
      | governance =>
          cases c with
          | balances _ => cases hnarrow
          | revive _ => cases hnarrow
          | vestedTransfer _ => cases hnarrow
          | _ => rfl
  | governance =>
      cases narrow with
      | governance => exact hnarrow
      | _ => cases hsuper

end ProxyType

namespace Proxies

variable {AccountId Args Rest : Type} [DecidableEq AccountId]

/-!
## The proxy pallet
-/

structure Delegation (AccountId : Type) where
  real : AccountId
  delegate : AccountId
  proxyType : ProxyType
  deriving DecidableEq

/-- The proxy pallet among the other pallets.  `admits` is the filter it puts on
the origin of a delegate, `call` what a call does for the account it is made
for, which is nothing if it fails. -/
structure ProxyPallet (AccountId Args Rest : Type) where
  delegations : Rest -> List (Delegation AccountId)
  admits : ProxyType -> RuntimeCall AccountId Args -> Bool
  call : Rest -> AccountId -> RuntimeCall AccountId Args -> Rest

/-- The laws of the proxy pallet.  Its filter asks the proxy type, and lets no
delegate hand on more than the type is a superset of.  An account gets a new
delegation by its own `add_proxy`, or by the `create_pure` it is spawned with. -/
structure ProxyPallet.Lawful (pallet : ProxyPallet AccountId Args Rest) :
    Prop where
  admits_filter : forall proxyType c, pallet.admits proxyType c = true ->
    proxyType.filter c = true
  admits_addProxy : forall proxyType delegate other,
    pallet.admits proxyType (RuntimeCall.addProxy delegate other) = true ->
    proxyType.isSuperset other = true
  delegations_of : forall rest account c,
    ∀ d ∈ pallet.delegations (pallet.call rest account c),
      d ∈ pallet.delegations rest ∨
      (d.real = account ∧ c = RuntimeCall.addProxy d.delegate d.proxyType) ∨
      exists index, d.delegate = account ∧
        c = RuntimeCall.createPure d.proxyType index

/-!
## Runs
-/

structure SignedOrigin (AccountId : Type) where
  account : AccountId
  filters : List ProxyType
  deriving DecidableEq

/-- The storage, and the origins the current transaction has at its disposal. -/
structure State (AccountId Rest : Type) where
  rest : Rest
  live : List (SignedOrigin AccountId)

/-- What happens in the course of a transaction: an account signs, or those who
make it up do (a multisig), or root does in its name; a derivative of the account
behind an origin acts, under the filters that origin has; a delegate comes to act
for an account; a call is dispatched, in a batch or by itself; the transaction is
over. -/
inductive Step (AccountId Args : Type) where
  | sign (who : AccountId)
  | derive (origin : SignedOrigin AccountId) (who : AccountId)
  | proxy (delegation : Delegation AccountId)
  | call (origin : SignedOrigin AccountId) (c : RuntimeCall AccountId Args)
  | finish

def Step.Own (who : AccountId) : Step AccountId Args -> Prop
  | Step.sign signer => signer = who
  | Step.derive _ derived => derived = who
  | _ => False

instance Step.decidableOwn (who : AccountId) (label : Step AccountId Args) :
    Decidable (label.Own who) :=
  match label with
  | Step.sign signer => inferInstanceAs (Decidable (signer = who))
  | Step.derive _ derived => inferInstanceAs (Decidable (derived = who))
  | Step.proxy _ => inferInstanceAs (Decidable False)
  | Step.call _ _ => inferInstanceAs (Decidable False)
  | Step.finish => inferInstanceAs (Decidable False)

variable (pallet : ProxyPallet AccountId Args Rest)

def step (s : State AccountId Rest) :
    Step AccountId Args -> State AccountId Rest
  | Step.sign who => { s with live := ⟨who, []⟩ :: s.live }
  | Step.derive origin who =>
      { s with live := ⟨who, origin.filters⟩ :: s.live }
  | Step.proxy delegation =>
      { s with live := ⟨delegation.real, [delegation.proxyType]⟩ :: s.live }
  | Step.call origin c =>
      { s with rest := pallet.call s.rest origin.account c }
  | Step.finish => { s with live := [] }

/-- A delegate acts under a delegation that is stored, and a call is dispatched
under an origin at disposal if it passes all its filters. -/
def Allowed (s : State AccountId Rest) : Step AccountId Args -> Prop
  | Step.proxy delegation => delegation ∈ pallet.delegations s.rest
  | Step.call origin c =>
      origin ∈ s.live ∧ ∀ proxyType ∈ origin.filters,
        pallet.admits proxyType c = true
  | Step.derive origin _ => origin ∈ s.live
  | _ => True

def spawned (s : State AccountId Rest) :
    Step AccountId Args -> List (Delegation AccountId)
  | Step.call origin (RuntimeCall.createPure proxyType index) =>
      (pallet.delegations (pallet.call s.rest origin.account
        (RuntimeCall.createPure proxyType index))).filter fun d =>
          d ∉ pallet.delegations s.rest
  | _ => []

def spawnedIn (s : State AccountId Rest) :
    List (Step AccountId Args) -> List (Delegation AccountId)
  | [] => []
  | label :: labels =>
      spawned pallet s label ++ spawnedIn (step pallet s label) labels

/-!
## Confinement
-/

/-- Some delegation `granted` by `who` allows all that `proxyType` does. -/
def Covered (who : AccountId) (granted : List (Delegation AccountId))
    (proxyType : ProxyType) : Prop :=
  exists d, d ∈ granted ∧ d.real = who ∧
    d.proxyType.isSuperset proxyType = true

/-- Whoever may act for `who` is confined to what it `granted`. -/
structure Confined (who : AccountId) (granted : List (Delegation AccountId))
    (s : State AccountId Rest) : Prop where
  delegations : ∀ d ∈ pallet.delegations s.rest, d.real = who ->
    Covered who granted d.proxyType
  live : ∀ origin ∈ s.live, origin.account = who ->
    ∃ proxyType ∈ origin.filters, Covered who granted proxyType

section Confinement

variable {pallet} {who : AccountId} {granted : List (Delegation AccountId)}
variable {s t : State AccountId Rest} {label : Step AccountId Args}

omit [DecidableEq AccountId] in
theorem Confined.admits_call {origin : SignedOrigin AccountId}
    {c : RuntimeCall AccountId Args} (hs : Confined pallet who granted s)
    (hallowed : Allowed pallet s (Step.call origin c))
    (haccount : origin.account = who) :
    exists proxyType, Covered who granted proxyType ∧
      pallet.admits proxyType c = true := by
  rcases hs.live origin hallowed.left haccount with
    ⟨proxyType, hmem, hcovered⟩
  exact ⟨proxyType, hcovered, hallowed.right proxyType hmem⟩

omit [DecidableEq AccountId] in
theorem Confined.filter_call (hlaws : pallet.Lawful)
    {origin : SignedOrigin AccountId} {c : RuntimeCall AccountId Args}
    (hs : Confined pallet who granted s)
    (hallowed : Allowed pallet s (Step.call origin c))
    (haccount : origin.account = who) :
    exists d, d ∈ granted ∧ d.real = who ∧ d.proxyType.filter c = true := by
  rcases hs.admits_call hallowed haccount with
    ⟨proxyType, ⟨d, hgranted, hreal, hsuper⟩, hadmits⟩
  exact ⟨d, hgranted, hreal, ProxyType.filter_of_isSuperset hsuper
    (hlaws.admits_filter proxyType c hadmits)⟩

omit [DecidableEq AccountId] in
theorem Confined.cons_live (hs : Confined pallet who granted s)
    {origin : SignedOrigin AccountId}
    (horigin : origin.account = who ->
      ∃ proxyType ∈ origin.filters, Covered who granted proxyType) :
    Confined pallet who granted { s with live := origin :: s.live } := by
  refine ⟨hs.delegations, ?_⟩
  intro other hother
  rcases List.mem_cons.mp hother with rfl | hbefore
  · exact horigin
  · exact hs.live other hbefore

/-- A call leaves `who` with delegations that are covered: it made the new ones
itself, under a filter, or was spawned with them. -/
theorem Confined.call (hlaws : pallet.Lawful)
    {origin : SignedOrigin AccountId} {c : RuntimeCall AccountId Args}
    (hs : Confined pallet who granted s)
    (hallowed : Allowed pallet s (Step.call origin c))
    (hspawned : spawned pallet s (Step.call origin c) ⊆ granted) :
    Confined pallet who granted (step pallet s (Step.call origin c)) := by
  refine ⟨?_, hs.live⟩
  intro d hd hreal
  by_cases hold : d ∈ pallet.delegations s.rest
  · exact hs.delegations d hold hreal
  · rcases hlaws.delegations_of s.rest origin.account c d hd with
      hbefore | ⟨haccount, rfl⟩ | ⟨index, _, rfl⟩
    · exact absurd hbefore hold
    · rcases hs.admits_call hallowed (haccount.symm.trans hreal) with
        ⟨proxyType, ⟨e, hgranted, hwho, hsuper⟩, hadmits⟩
      have hbelow := hlaws.admits_addProxy proxyType _ _ hadmits
      exact ⟨e, hgranted, hwho, ProxyType.isSuperset_trans hsuper hbelow⟩
    · refine ⟨d, hspawned ?_, hreal, ProxyType.isSuperset_refl _⟩
      exact List.mem_filter.mpr ⟨hd, decide_eq_true hold⟩

theorem step_confined (hlaws : pallet.Lawful)
    (hs : Confined pallet who granted s) (hallowed : Allowed pallet s label)
    (hother : ¬ label.Own who) (hspawned : spawned pallet s label ⊆ granted) :
    Confined pallet who granted (step pallet s label) := by
  cases label with
  | sign signer => exact hs.cons_live fun haccount => absurd haccount hother
  | derive origin derived =>
      exact hs.cons_live fun haccount => absurd haccount hother
  | proxy d =>
      refine hs.cons_live fun hreal => ?_
      exact ⟨d.proxyType, List.mem_singleton_self _,
        hs.delegations d hallowed hreal⟩
  | call origin c => exact hs.call hlaws hallowed hspawned
  | finish => exact ⟨hs.delegations, fun _ h => absurd h List.not_mem_nil⟩

/-- Over a run in which `who` does not act, it stays confined and every call made
for it is let through by a delegation it granted. -/
theorem run_confined (hlaws : pallet.Lawful)
    {labels : List (Step AccountId Args)}
    (hrun : Run (Allowed pallet) (step pallet) s labels t)
    (hsilent : ∀ label ∈ labels, ¬ label.Own who)
    (hspawned : spawnedIn pallet s labels ⊆ granted)
    (hs : Confined pallet who granted s) :
    Confined pallet who granted t ∧
      forall origin c, Step.call origin c ∈ labels -> origin.account = who ->
        exists d, d ∈ granted ∧ d.real = who ∧
          d.proxyType.filter c = true := by
  induction hrun with
  | nil s => exact ⟨hs, fun _ _ h => absurd h List.not_mem_nil⟩
  | cons hallowed _ ih =>
      rename_i label labels _
      rcases List.append_subset.mp hspawned with ⟨hnow, hlater⟩
      have hnext := step_confined hlaws hs hallowed
        (hsilent label List.mem_cons_self) hnow
      rcases ih (fun other h => hsilent other (List.mem_cons_of_mem _ h)) hlater
        hnext with ⟨ht, hcalls⟩
      refine ⟨ht, ?_⟩
      intro origin c hmem haccount
      rcases List.mem_cons.mp hmem with rfl | hrest
      · exact hs.filter_call hlaws hallowed haccount
      · exact hcalls origin c hrest haccount

end Confinement

/-!
## A small proxy pallet
-/

/-- Pure accounts are numbered from a hundred on; nothing but the delegations is
stored. -/
def sampleCall (rest : List (Delegation Nat)) (account : Nat) :
    RuntimeCall Nat Unit -> List (Delegation Nat)
  | RuntimeCall.addProxy delegate proxyType =>
      ⟨account, delegate, proxyType⟩ :: rest
  | RuntimeCall.createPure proxyType index =>
      ⟨100 + index, account, proxyType⟩ :: rest
  | _ => rest

def samplePallet : ProxyPallet Nat Unit (List (Delegation Nat)) where
  delegations := id
  admits := fun proxyType c =>
    match c with
    | RuntimeCall.addProxy _ other =>
        proxyType.isSuperset other && proxyType.filter c
    | _ => proxyType.filter c
  call := sampleCall

theorem samplePallet_lawful : samplePallet.Lawful where
  admits_filter := by
    intro proxyType c hadmits
    cases c with
    | addProxy delegate other => exact (Bool.and_eq_true_iff.mp hadmits).right
    | _ => exact hadmits
  admits_addProxy := fun _ _ _ hadmits =>
    (Bool.and_eq_true_iff.mp hadmits).left
  delegations_of := by
    intro rest account c d hd
    cases c with
    | addProxy delegate proxyType =>
        rcases List.mem_cons.mp hd with rfl | hold
        · exact Or.inr (Or.inl ⟨rfl, rfl⟩)
        · exact Or.inl hold
    | createPure proxyType index =>
        rcases List.mem_cons.mp hd with rfl | hold
        · exact Or.inr (Or.inr ⟨index, rfl, rfl⟩)
        · exact Or.inl hold
    | _ => exact Or.inl hd

/-- Account 1 lets account 2 do all but move its funds. -/
def sampleStart : State Nat (List (Delegation Nat)) :=
  { rest := [⟨1, 2, ProxyType.nonTransfer⟩], live := [] }

/-- Account 2 hands part of that on to account 3, which then votes for account 1;
account 4 spawns a pure account and has it fund a bounty. -/
def sampleSteps : List (Step Nat Unit) :=
  [Step.sign 2,
    Step.proxy ⟨1, 2, ProxyType.nonTransfer⟩,
    Step.call ⟨1, [ProxyType.nonTransfer]⟩
      (RuntimeCall.addProxy 3 ProxyType.governance),
    Step.finish,
    Step.sign 3,
    Step.proxy ⟨1, 3, ProxyType.governance⟩,
    Step.call ⟨1, [ProxyType.governance]⟩ (RuntimeCall.convictionVoting ()),
    Step.finish,
    Step.sign 4,
    Step.call ⟨4, []⟩ (RuntimeCall.createPure ProxyType.governance 0),
    Step.proxy ⟨100, 4, ProxyType.governance⟩,
    Step.call ⟨100, [ProxyType.governance]⟩ (RuntimeCall.bounties ())]

def sampleEnd : State Nat (List (Delegation Nat)) :=
  sampleSteps.foldl (step samplePallet) sampleStart

instance decidableAllowed (s : State Nat (List (Delegation Nat)))
    (label : Step Nat Unit) : Decidable (Allowed samplePallet s label) :=
  match label with
  | Step.proxy d => inferInstanceAs (Decidable (d ∈ s.rest))
  | Step.call origin c => inferInstanceAs (Decidable (origin ∈ s.live ∧
      ∀ proxyType ∈ origin.filters, samplePallet.admits proxyType c = true))
  | Step.derive origin _ => inferInstanceAs (Decidable (origin ∈ s.live))
  | Step.sign _ => inferInstanceAs (Decidable True)
  | Step.finish => inferInstanceAs (Decidable True)

theorem sample_run :
    Run (Allowed samplePallet) (step samplePallet) sampleStart sampleSteps
      sampleEnd := by
  unfold sampleSteps
  repeat refine Run.cons (by decide) ?_
  exact Run.nil _

/-!
## What was granted
-/

/-- As long as an account does not act itself, every call made for it, however
deep in batches and proxy calls, is one that some delegation lets through which
it had at the start or was spawned with as a pure account, and no delegation made
for it allows more than one of these.  If none of them is of type `Any`, no
balances call, no contract call and no vested transfer is made for it. -/
theorem delegates_do_no_more_than_was_granted
    {pallet : ProxyPallet AccountId Args Rest} (hlaws : pallet.Lawful)
    {who : AccountId} {labels : List (Step AccountId Args)} {rest : Rest}
    {t : State AccountId Rest}
    (hrun : Run (Allowed pallet) (step pallet) ⟨rest, []⟩ labels t)
    (hsilent : ∀ label ∈ labels, ¬ label.Own who) :
    let granted := pallet.delegations rest ++ spawnedIn pallet ⟨rest, []⟩ labels
    (forall origin c, Step.call origin c ∈ labels -> origin.account = who ->
      exists d, d ∈ granted ∧ d.real = who ∧ d.proxyType.filter c = true) ∧
    (∀ d ∈ pallet.delegations t.rest, d.real = who ->
      Covered who granted d.proxyType) ∧
    ((∀ d ∈ granted, d.real = who -> d.proxyType ≠ ProxyType.any) ->
      forall origin args, origin.account = who ->
        Step.call origin (RuntimeCall.balances args) ∉ labels ∧
        Step.call origin (RuntimeCall.revive args) ∉ labels ∧
        Step.call origin (RuntimeCall.vestedTransfer args) ∉ labels) := by
  intro granted
  have hstart : Confined pallet who granted ⟨rest, []⟩ := by
    refine ⟨?_, fun _ h => absurd h List.not_mem_nil⟩
    intro d hd hreal
    exact ⟨d, List.mem_append_left _ hd, hreal, ProxyType.isSuperset_refl _⟩
  rcases run_confined hlaws hrun hsilent (List.subset_append_right _ _) hstart
    with ⟨ht, hcalls⟩
  refine ⟨hcalls, ht.delegations, ?_⟩
  intro hnone origin args haccount
  have hfenced : forall c, (forall proxyType, proxyType ≠ ProxyType.any ->
      proxyType.filter c = false) -> Step.call origin c ∉ labels := by
    intro c hfence hmem
    rcases hcalls origin c hmem haccount with ⟨d, hgranted, hreal, hpass⟩
    rw [hfence _ (hnone d hgranted hreal)] at hpass
    cases hpass
  refine ⟨hfenced _ ?_, hfenced _ ?_, hfenced _ ?_⟩
  all_goals
    intro proxyType hany
    cases proxyType with
    | any => exact absurd rfl hany
    | _ => rfl

/-- No transfer is made for account 1, and the pure account is confined to what
it was spawned with. -/
theorem sample_delegates_vote_and_move_nothing :
    Step.call ⟨1, [ProxyType.nonTransfer]⟩ (RuntimeCall.balances ()) ∉
        sampleSteps ∧
      Covered 1 ([⟨1, 2, ProxyType.nonTransfer⟩] ++
          [⟨100, 4, ProxyType.governance⟩]) ProxyType.governance ∧
      exists d, d ∈ [⟨1, 2, ProxyType.nonTransfer⟩] ++
          [(⟨100, 4, ProxyType.governance⟩ : Delegation Nat)] ∧
        d.real = 100 ∧
        d.proxyType.filter (RuntimeCall.bounties () : RuntimeCall Nat Unit) =
          true := by
  have hspawned : spawnedIn samplePallet sampleStart sampleSteps =
      [⟨100, 4, ProxyType.governance⟩] := by
    decide
  have hone := delegates_do_no_more_than_was_granted samplePallet_lawful
    sample_run (by decide : ∀ label ∈ sampleSteps, ¬ label.Own 1)
  have hpure := delegates_do_no_more_than_was_granted samplePallet_lawful
    sample_run (by decide : ∀ label ∈ sampleSteps, ¬ label.Own 100)
  rw [show spawnedIn samplePallet ⟨_, []⟩ sampleSteps = _ from hspawned]
    at hone hpure
  refine ⟨?_, ?_, ?_⟩
  · exact (hone.right.right (by decide) _ () rfl).left
  · exact hone.right.left ⟨1, 3, ProxyType.governance⟩ (by decide) rfl
  · exact hpure.left ⟨100, [ProxyType.governance]⟩ _ (by simp [sampleSteps])
      rfl

end Proxies
end Governance
end Numen
