import Numen.Foundation.Runs
import Numen.Governance.Origins

/-!
# Who can move the key, the code and the treasury

The prime pallet and the gates of `Origins` stand among pallets that are not
part of the repository: referenda and their scheduler, treasury and bounties,
the system pallet.  Of these only what `Pallets.Lawful` says is used, which is
where each of them consults a gate of the runtime.

A referendum that is approved waits for its enactment period before the
scheduler dispatches it, so a proposal is on the ballot first and on the agenda
then.  One on the root track can write any storage there is.  The results are
about the runs in which none of these is enacted, as long as the runtime has its
present code.
-/

namespace Numen
namespace Governance

open Foundation

variable {AccountId Code Other Hook Rest : Type}

/-- The calls of the prime pallet, and those of all the others. -/
inductive Call (AccountId Code Other : Type) where
  | upgrade (code : Code)
  | setKey (new : AccountId)
  | other (call : Other)

/-- What a referendum puts to the vote, which exists only on a track. -/
structure Proposal (AccountId Code Other : Type) where
  index : Nat
  origin : RuntimeOrigin AccountId
  track : Nat
  onTrack : trackFor origin = Except.ok track
  call : Call AccountId Code Other

inductive SpendKind where
  | spendLocal
  | spend
  | approveBounty
  deriving DecidableEq, Repr

structure Commitment where
  kind : SpendKind
  index : Nat
  amount : Nat
  deriving DecidableEq, Repr

/-- The storage of the prime pallet, and that of all the others. -/
structure State (AccountId Rest : Type) where
  key : Option AccountId
  rest : Rest

/-!
## The other pallets
-/

/-- The pallets from elsewhere, as far as the results look at them.  A `Hook` is
whatever happens without a call of the runtime being dispatched: blocks begin
and end, votes are counted, approved referenda are scheduled, the treasury pays
out. -/
structure Pallets (AccountId Code Other Hook Rest : Type) where
  registry : Rest -> Registry AccountId
  code : Rest -> Code
  upgradeAuthorized : Rest -> Bool
  ballot : Rest -> List (Proposal AccountId Code Other)
  agenda : Rest -> List (Proposal AccountId Code Other)
  commitments : Rest -> List Commitment
  leaves : Call AccountId Code Other -> List (Call AccountId Code Other)
  setCode : State AccountId Rest -> Code ->
    Except DispatchError (State AccountId Rest)
  call : State AccountId Rest -> RuntimeOrigin AccountId -> Other ->
    Except DispatchError (State AccountId Rest)
  hook : State AccountId Rest -> Hook -> State AccountId Rest

variable (pallets : Pallets AccountId Code Other Hook Rest)

/-- What may be new after something has happened: proposals on the ballot for
origins it `submits` to, approved ones that were on the ballot, and commitments
of amounts it `spends`. -/
structure Moves (submits : RuntimeOrigin AccountId -> Prop)
    (spends : Nat -> Prop) (s t : Rest) : Prop where
  authorized_of : pallets.upgradeAuthorized t = true ->
    pallets.upgradeAuthorized s = true
  ballot_of : ∀ p ∈ pallets.ballot t, p ∈ pallets.ballot s ∨ submits p.origin
  agenda_of : ∀ p ∈ pallets.agenda t,
    p ∈ pallets.agenda s ∨ p ∈ pallets.ballot s
  commitments_of : ∀ c ∈ pallets.commitments t,
    c ∈ pallets.commitments s ∨ spends c.amount

theorem Moves.refl (submits : RuntimeOrigin AccountId -> Prop)
    (spends : Nat -> Prop) (s : Rest) : Moves pallets submits spends s s :=
  ⟨id, fun _ => Or.inl, fun _ => Or.inl, fun _ => Or.inl⟩

theorem Moves.mono {submits submits' : RuntimeOrigin AccountId -> Prop}
    {spends spends' : Nat -> Prop} {s t : Rest}
    (h : Moves pallets submits spends s t)
    (hsubmits : forall o, submits o -> submits' o)
    (hspends : forall amount, spends amount -> spends' amount) :
    Moves pallets submits' spends' s t where
  authorized_of := h.authorized_of
  ballot_of := fun p hp => (h.ballot_of p hp).imp id (hsubmits p.origin)
  agenda_of := h.agenda_of
  commitments_of := fun c hc =>
    (h.commitments_of c hc).imp id (hspends c.amount)

variable [DecidableEq AccountId]

def SubmitsTo (s : State AccountId Rest) (o track : RuntimeOrigin AccountId) :
    Prop :=
  exists who,
    EnsureSubmitter.tryOrigin s.key (pallets.registry s.rest) o track =
      Except.ok who

def MaySpend (o : RuntimeOrigin AccountId) (amount : Nat) : Prop :=
  exists cap, treasurySpender o = Except.ok cap ∧ amount ≤ cap

/-- The laws of the other pallets.  Without root, none of their calls writes the
storage of the prime pallet; the code is only set if an upgrade was authorized,
which takes root as well; `Referenda::submit` ensures `SubmitOrigin`;
nothing but a referendum is scheduled; and `spend_local`, `spend` and the
approval of a bounty ensure `SpendOrigin` and keep to its amount.  A hook does
none of these things. -/
structure Pallets.Lawful : Prop where
  call_key : forall s o call t, pallets.call s o call = Except.ok t ->
    o ≠ RuntimeOrigin.root -> t.key = s.key
  call_code : forall s o call t, pallets.call s o call = Except.ok t ->
    o ≠ RuntimeOrigin.root -> pallets.upgradeAuthorized s.rest = false ->
    pallets.code t.rest = pallets.code s.rest
  call_moves : forall s o call t, pallets.call s o call = Except.ok t ->
    o ≠ RuntimeOrigin.root ->
    Moves pallets (SubmitsTo pallets s o) (MaySpend o) s.rest t.rest
  setCode_key : forall s code t, pallets.setCode s code = Except.ok t ->
    t.key = s.key
  setCode_moves : forall s code t, pallets.setCode s code = Except.ok t ->
    Moves pallets (fun _ => False) (fun _ => False) s.rest t.rest
  hook_key : forall s hook, (pallets.hook s hook).key = s.key
  hook_code : forall s hook,
    pallets.code (pallets.hook s hook).rest = pallets.code s.rest
  hook_moves : forall s hook,
    Moves pallets (fun _ => False) (fun _ => False) s.rest
      (pallets.hook s hook).rest

/-!
## The calls
-/

/-- `ensure_origin`, which forgets the origin it was handed back. -/
def ensured {Success : Type}
    (result : Except (RuntimeOrigin AccountId) Success) :
    Except DispatchError Success :=
  match result with
  | Except.ok value => Except.ok value
  | Except.error _ => Except.error DispatchError.badOrigin

omit [DecidableEq AccountId] in
theorem ensured_eq_ok {Success : Type}
    {result : Except (RuntimeOrigin AccountId) Success} {value : Success}
    (h : ensured result = Except.ok value) : result = Except.ok value := by
  cases result with
  | ok _ =>
      cases h
      rfl
  | error _ =>
      cases h

/-- `Prime::upgrade` forwards to `System::set_code` as root. -/
def upgrade (s : State AccountId Rest) (o : RuntimeOrigin AccountId)
    (code : Code) : Except DispatchError (State AccountId Rest) := do
  let _ <- ensured (runtimeUpgrade o)
  pallets.setCode s code

/-- `Prime::set_key`. -/
def setKey (s : State AccountId Rest) (o : RuntimeOrigin AccountId)
    (new : AccountId) : Except DispatchError (State AccountId Rest) := do
  let _ <- ensurePrime s.key o
  return { s with key := some new }

def dispatch (s : State AccountId Rest) (o : RuntimeOrigin AccountId) :
    Call AccountId Code Other -> Except DispatchError (State AccountId Rest)
  | Call.upgrade code => upgrade pallets s o code
  | Call.setKey new => setKey s o new
  | Call.other call => pallets.call s o call

inductive Dispatched (s : State AccountId Rest) :
    RuntimeOrigin AccountId -> Call AccountId Code Other ->
      State AccountId Rest -> Prop where
  | upgrade (code : Code) (t : State AccountId Rest) :
      pallets.setCode s code = Except.ok t ->
      Dispatched s (RuntimeOrigin.origins Origin.runtimeUpgrade)
        (Call.upgrade code) t
  | setKey (who new : AccountId) :
      s.key = some who ->
      Dispatched s (RuntimeOrigin.signed who) (Call.setKey new)
        { s with key := some new }
  | other (o : RuntimeOrigin AccountId) (call : Other)
      (t : State AccountId Rest) :
      pallets.call s o call = Except.ok t ->
      Dispatched s o (Call.other call) t

theorem dispatch_cases {s t : State AccountId Rest}
    {o : RuntimeOrigin AccountId} {call : Call AccountId Code Other}
    (h : dispatch pallets s o call = Except.ok t) :
    Dispatched pallets s o call t := by
  cases call with
  | upgrade code =>
      rcases except_bind_eq_ok h with ⟨_, hgate, hset⟩
      rcases declEnsure_eq_ok (ensured_eq_ok hgate) with ⟨rfl, _⟩
      exact Dispatched.upgrade code t hset
  | setKey new =>
      rcases except_bind_eq_ok h with ⟨who, hprime, hput⟩
      rcases ensurePrime_eq_ok hprime with ⟨rfl, hkey⟩
      cases hput
      exact Dispatched.setKey who new hkey
  | other call => exact Dispatched.other o call t h

/-!
## Runs
-/

/-- A dispatch in the name of an account, or by anybody; one that belongs to the
enactment of a proposal; or a hook.  A run lists the dispatches that stand:
those in a batch, or for the sake of a proxy or a multisig, each by itself, and
none that was rolled back. -/
inductive Step (AccountId Code Other Hook : Type) where
  | dispatch (o : RuntimeOrigin AccountId) (call : Call AccountId Code Other)
  | enact (p : Proposal AccountId Code Other)
      (call : Call AccountId Code Other)
  | hook (hook : Hook)

def Step.origin :
    Step AccountId Code Other Hook -> Option (RuntimeOrigin AccountId)
  | Step.dispatch o _ => some o
  | Step.enact p _ => some p.origin
  | Step.hook _ => none

def attempt (s : State AccountId Rest) (o : RuntimeOrigin AccountId)
    (call : Call AccountId Code Other) : State AccountId Rest :=
  match dispatch pallets s o call with
  | Except.ok t => t
  | Except.error _ => s

def step (s : State AccountId Rest) :
    Step AccountId Code Other Hook -> State AccountId Rest
  | Step.dispatch o call => attempt pallets s o call
  | Step.enact p call => attempt pallets s p.origin call
  | Step.hook hook => pallets.hook s hook

/-- The origins with a track are those of enacted proposals, and of these no
proposal of root is enacted. -/
def Ordinary (s : State AccountId Rest) :
    Step AccountId Code Other Hook -> Prop
  | Step.dispatch o _ => trackFor o = Except.error ()
  | Step.enact p call =>
      p ∈ pallets.agenda s.rest ∧ p.origin ≠ RuntimeOrigin.root ∧
        call ∈ pallets.leaves p.call
  | Step.hook _ => True

theorem attempt_cases (s : State AccountId Rest)
    (o : RuntimeOrigin AccountId) (call : Call AccountId Code Other) :
    attempt pallets s o call = s ∨
      Dispatched pallets s o call (attempt pallets s o call) := by
  unfold attempt
  split
  · rename_i t hdispatch
    exact Or.inr (dispatch_cases pallets hdispatch)
  · exact Or.inl rfl

omit [DecidableEq AccountId] in
theorem Proposal.origin_ne_signed (p : Proposal AccountId Code Other)
    (who : AccountId) : p.origin ≠ RuntimeOrigin.signed who := by
  intro h
  have htrack := p.onTrack
  rw [h] at htrack
  exact trackFor_signed_ne_ok who _ htrack

section Steps

variable {pallets} {s : State AccountId Rest}
variable {label : Step AccountId Code Other Hook}

omit [DecidableEq AccountId] in
theorem Ordinary.origin_ne_root (h : Ordinary pallets s label) :
    label.origin ≠ some RuntimeOrigin.root := by
  intro hroot
  cases label with
  | dispatch o call =>
      cases hroot
      cases h
  | enact p call => exact h.right.left (Option.some.inj hroot)
  | hook _ => cases hroot

theorem step_cases (hallowed : Ordinary pallets s label) :
    step pallets s label = s ∨
      (exists o call, label.origin = some o ∧ o ≠ RuntimeOrigin.root ∧
        Dispatched pallets s o call (step pallets s label)) ∨
      exists hook, step pallets s label = pallets.hook s hook := by
  have hroot : forall o, label.origin = some o -> o ≠ RuntimeOrigin.root := by
    rintro o horigin rfl
    exact hallowed.origin_ne_root horigin
  cases label with
  | dispatch o call =>
      rcases attempt_cases pallets s o call with heq | hdispatched
      · exact Or.inl heq
      · exact Or.inr (Or.inl ⟨o, call, rfl, hroot o rfl, hdispatched⟩)
  | enact p call =>
      rcases attempt_cases pallets s p.origin call with heq | hdispatched
      · exact Or.inl heq
      · exact Or.inr
          (Or.inl ⟨p.origin, call, rfl, hroot p.origin rfl, hdispatched⟩)
  | hook hook => exact Or.inr (Or.inr ⟨hook, rfl⟩)

theorem step_moves (hlaws : pallets.Lawful)
    (hallowed : Ordinary pallets s label) :
    Moves pallets
      (fun track => exists o, label.origin = some o ∧
        SubmitsTo pallets s o track)
      (fun amount => exists o, label.origin = some o ∧ MaySpend o amount)
      s.rest (step pallets s label).rest := by
  rcases step_cases hallowed with
    heq | ⟨o, call, horigin, hroot, hdispatched⟩ | ⟨hook, heq⟩
  · rw [heq]
    exact Moves.refl pallets _ _ s.rest
  · generalize step pallets s label = t at hdispatched
    cases hdispatched with
    | upgrade code t hset =>
        exact (hlaws.setCode_moves s code t hset).mono pallets
          (fun _ => False.elim) (fun _ => False.elim)
    | setKey who new _ => exact Moves.refl pallets _ _ s.rest
    | other o call t hcall =>
        exact (hlaws.call_moves s o call t hcall hroot).mono pallets
          (fun _ h => ⟨o, horigin, h⟩) (fun _ h => ⟨o, horigin, h⟩)
  · rw [heq]
    exact (hlaws.hook_moves s hook).mono pallets (fun _ => False.elim)
      (fun _ => False.elim)

theorem step_key (hlaws : pallets.Lawful)
    (hallowed : Ordinary pallets s label)
    (hsilent : forall who, s.key = some who ->
      label.origin ≠ some (RuntimeOrigin.signed who)) :
    (step pallets s label).key = s.key := by
  rcases step_cases hallowed with
    heq | ⟨o, call, horigin, hroot, hdispatched⟩ | ⟨hook, heq⟩
  · rw [heq]
  · generalize step pallets s label = t at hdispatched
    cases hdispatched with
    | upgrade code t hset => exact hlaws.setCode_key s code t hset
    | setKey who new hkey => exact absurd horigin (hsilent who hkey)
    | other o call t hcall => exact hlaws.call_key s o call t hcall hroot
  · rw [heq]
    exact hlaws.hook_key s hook

theorem step_code (hlaws : pallets.Lawful)
    (hallowed : Ordinary pallets s label)
    (hupgrade : label.origin ≠
      some (RuntimeOrigin.origins Origin.runtimeUpgrade))
    (hauthorized : pallets.upgradeAuthorized s.rest = false) :
    pallets.code (step pallets s label).rest = pallets.code s.rest := by
  rcases step_cases hallowed with
    heq | ⟨o, call, horigin, hroot, hdispatched⟩ | ⟨hook, heq⟩
  · rw [heq]
  · generalize step pallets s label = t at hdispatched
    cases hdispatched with
    | upgrade code t _ => exact absurd horigin hupgrade
    | setKey who new _ => rfl
    | other o call t hcall =>
        exact hlaws.call_code s o call t hcall hroot hauthorized
  · rw [heq]
    exact hlaws.hook_code s hook

theorem SubmitsTo.label_eq {o track : RuntimeOrigin AccountId}
    (h : SubmitsTo pallets s o track) (horigin : label.origin = some o) :
    exists who call, label = Step.dispatch (RuntimeOrigin.signed who) call ∧
      MaySubmit s.key (pallets.registry s.rest) who track := by
  rcases h with ⟨who, hgate⟩
  rcases EnsureSubmitter.tryOrigin_eq_ok hgate with ⟨rfl, hmay⟩
  cases label with
  | dispatch o call =>
      cases horigin
      exact ⟨who, call, rfl, hmay⟩
  | enact p call =>
      exact absurd (Option.some.inj horigin) (p.origin_ne_signed who)
  | hook _ => cases horigin

end Steps

/-!
## A small runtime
-/

section Sample

/-- Some of the calls of the other pallets, as far as they pass a gate. -/
inductive SampleCall where
  | remark
  | submit (origin : RuntimeOrigin Nat) (proposal : Call Nat Nat SampleCall)
  | cancel (index : Nat)
  | kill (index : Nat)
  | spend (kind : SpendKind) (amount : Nat)
  | authorizeUpgrade (code : Nat)
  | applyAuthorizedUpgrade (code : Nat)

structure SampleRest where
  registry : Registry Nat
  code : Nat
  authorized : Option Nat
  ballot : List (Proposal Nat Nat SampleCall)
  agenda : List (Proposal Nat Nat SampleCall)
  referendumCount : Nat
  commitments : List Commitment

abbrev SampleState : Type :=
  State Nat SampleRest

inductive SampleHook where
  | approve (index : Nat)
  | judge (registry : Registry Nat)

def SampleState.withdraw (s : SampleState) (index : Nat) : SampleState :=
  { s with rest :=
    { s.rest with ballot := s.rest.ballot.filter fun p => p.index ≠ index } }

def SampleState.enter (s : SampleState)
    (p : Proposal Nat Nat SampleCall) : SampleState :=
  { s with rest :=
    { s.rest with
      ballot := s.rest.ballot ++ [p]
      referendumCount := s.rest.referendumCount + 1 } }

def SampleState.commit (s : SampleState) (kind : SpendKind) (amount : Nat) :
    SampleState :=
  { s with rest :=
    { s.rest with
      commitments := s.rest.commitments ++
        [⟨kind, s.rest.commitments.length, amount⟩] } }

def SampleState.setCode (s : SampleState) (code : Nat) : SampleState :=
  { s with rest := { s.rest with code := code, authorized := none } }

def sampleCall (s : SampleState) (o : RuntimeOrigin Nat) :
    SampleCall -> Except DispatchError SampleState
  | SampleCall.remark => Except.ok s
  | SampleCall.submit origin proposal => do
      let _ <- ensured
        (EnsureSubmitter.tryOrigin s.key s.rest.registry o origin)
      match h : trackFor origin with
      | Except.ok track =>
          return s.enter ⟨s.rest.referendumCount, origin, track, h, proposal⟩
      | Except.error _ => throw DispatchError.elsewhere
  | SampleCall.cancel index => do
      let _ <- ensured (cancelOrigin s.key o)
      return s.withdraw index
  | SampleCall.kill index => do
      let _ <- ensured (killOrigin s.key o)
      return s.withdraw index
  | SampleCall.spend kind amount => do
      let cap <- ensured (treasurySpender o)
      if cap < amount then
        throw DispatchError.elsewhere
      else
        return s.commit kind amount
  | SampleCall.authorizeUpgrade code =>
      match o with
      | RuntimeOrigin.root =>
          Except.ok { s with rest := { s.rest with authorized := some code } }
      | _ => Except.error DispatchError.badOrigin
  | SampleCall.applyAuthorizedUpgrade code =>
      if s.rest.authorized = some code then
        Except.ok (s.setCode code)
      else
        Except.error DispatchError.elsewhere

def sampleHook (s : SampleState) : SampleHook -> SampleState
  | SampleHook.approve index =>
      { s with rest :=
        { s.rest with
          ballot := s.rest.ballot.filter fun p => p.index ≠ index
          agenda := s.rest.agenda ++
            s.rest.ballot.filter fun p => p.index = index } }
  | SampleHook.judge registry =>
      { s with rest := { s.rest with registry := registry } }

def samplePallets : Pallets Nat Nat SampleCall SampleHook SampleRest where
  registry := SampleRest.registry
  code := SampleRest.code
  upgradeAuthorized := fun rest => rest.authorized.isSome
  ballot := SampleRest.ballot
  agenda := SampleRest.agenda
  commitments := SampleRest.commitments
  leaves := fun call => [call]
  setCode := fun s code => Except.ok (SampleState.setCode s code)
  call := sampleCall
  hook := sampleHook

inductive SampleCalled (s : SampleState) (o : RuntimeOrigin Nat) :
    SampleState -> Prop where
  | remark : SampleCalled s o s
  | submit (p : Proposal Nat Nat SampleCall) :
      SubmitsTo samplePallets s o p.origin -> SampleCalled s o (s.enter p)
  | withdraw (index : Nat) : SampleCalled s o (s.withdraw index)
  | spend (kind : SpendKind) (amount : Nat) :
      MaySpend o amount -> SampleCalled s o (s.commit kind amount)
  | applyAuthorizedUpgrade (code : Nat) :
      s.rest.authorized = some code -> SampleCalled s o (s.setCode code)

theorem sampleCall_cases {s t : SampleState} {o : RuntimeOrigin Nat}
    {call : SampleCall} (h : sampleCall s o call = Except.ok t)
    (hroot : o ≠ RuntimeOrigin.root) : SampleCalled s o t := by
  cases call with
  | remark =>
      cases h
      exact SampleCalled.remark
  | submit origin proposal =>
      rcases except_bind_eq_ok h with ⟨who, hgate, hsubmit⟩
      split at hsubmit
      · rename_i track htrack
        cases hsubmit
        exact SampleCalled.submit
          ⟨s.rest.referendumCount, origin, track, htrack, proposal⟩
          ⟨who, ensured_eq_ok hgate⟩
      · cases hsubmit
  | cancel index =>
      rcases except_bind_eq_ok h with ⟨_, _, hclose⟩
      cases hclose
      exact SampleCalled.withdraw index
  | kill index =>
      rcases except_bind_eq_ok h with ⟨_, _, hclose⟩
      cases hclose
      exact SampleCalled.withdraw index
  | spend kind amount =>
      rcases except_bind_eq_ok h with ⟨cap, hgate, hspend⟩
      split at hspend
      · cases hspend
      · rename_i hle
        cases hspend
        exact SampleCalled.spend kind amount
          ⟨cap, ensured_eq_ok hgate, Nat.le_of_not_lt hle⟩
  | authorizeUpgrade code =>
      cases o with
      | root => exact absurd rfl hroot
      | signed _ => cases h
      | none => cases h
      | origins _ => cases h
      | other _ => cases h
  | applyAuthorizedUpgrade code =>
      change (if s.rest.authorized = some code then
        Except.ok (s.setCode code) else _) = Except.ok t at h
      split at h
      · rename_i hauthorized
        cases h
        exact SampleCalled.applyAuthorizedUpgrade code hauthorized
      · cases h

theorem SampleCalled.moves {s t : SampleState} {o : RuntimeOrigin Nat}
    (h : SampleCalled s o t) :
    Moves samplePallets (SubmitsTo samplePallets s o) (MaySpend o) s.rest
      t.rest := by
  cases h with
  | remark => exact Moves.refl samplePallets _ _ s.rest
  | submit p hsubmits =>
      refine ⟨id, ?_, fun _ => Or.inl, fun _ => Or.inl⟩
      intro other hother
      rcases List.mem_append.mp hother with hold | hnew
      · exact Or.inl hold
      · rw [List.mem_singleton.mp hnew]
        exact Or.inr hsubmits
  | withdraw index =>
      exact ⟨id, fun _ hp => Or.inl (List.mem_of_mem_filter hp),
        fun _ => Or.inl, fun _ => Or.inl⟩
  | spend kind amount hmay =>
      refine ⟨id, fun _ => Or.inl, fun _ => Or.inl, ?_⟩
      intro c hc
      rcases List.mem_append.mp hc with hold | hnew
      · exact Or.inl hold
      · rw [List.mem_singleton.mp hnew]
        exact Or.inr hmay
  | applyAuthorizedUpgrade code _ =>
      exact ⟨fun h => (nomatch h), fun _ => Or.inl, fun _ => Or.inl,
        fun _ => Or.inl⟩

theorem sampleHook_moves (s : SampleState) (hook : SampleHook) :
    Moves samplePallets (fun _ => False) (fun _ => False) s.rest
      (sampleHook s hook).rest := by
  cases hook with
  | approve index =>
      refine ⟨id, fun _ hp => Or.inl (List.mem_of_mem_filter hp), ?_,
        fun _ => Or.inl⟩
      intro p hp
      rcases List.mem_append.mp hp with hold | hnew
      · exact Or.inl hold
      · exact Or.inr (List.mem_of_mem_filter hnew)
  | judge registry =>
      exact ⟨id, fun _ => Or.inl, fun _ => Or.inl, fun _ => Or.inl⟩

theorem samplePallets_lawful : samplePallets.Lawful where
  call_key := by
    intro s o call t hcall hroot
    cases sampleCall_cases hcall hroot <;> rfl
  call_code := by
    intro s o call t hcall hroot hauthorized
    cases sampleCall_cases hcall hroot with
    | applyAuthorizedUpgrade code hsome =>
        change s.rest.authorized.isSome = false at hauthorized
        rw [hsome] at hauthorized
        cases hauthorized
    | remark => rfl
    | submit p _ => rfl
    | withdraw index => rfl
    | spend kind amount _ => rfl
  call_moves := fun _ _ _ _ hcall hroot =>
    (sampleCall_cases hcall hroot).moves
  setCode_key := by
    rintro s code t ⟨rfl⟩
    rfl
  setCode_moves := by
    rintro s code t ⟨rfl⟩
    exact ⟨fun h => (nomatch h), fun _ => Or.inl, fun _ => Or.inl,
      fun _ => Or.inl⟩
  hook_key := by
    intro s hook
    cases hook <;> rfl
  hook_code := by
    intro s hook
    cases hook <;> rfl
  hook_moves := sampleHook_moves

/-- Account 1 carries a judged identity with a handle on x. -/
def sampleRegistry : Registry Nat :=
  { identityOf := fun who =>
      if who = 1 then
        some { judgements := [(0, Judgement.reasonable)]
               info := { IdentityInfo.blank with x := ⟨[110], by decide⟩ } }
      else
        none
    superOf := fun _ => none }

/-- Account 0 holds the prime key. -/
def sampleState : SampleState :=
  { key := some 0
    rest :=
      { registry := sampleRegistry
        code := 7
        authorized := none
        ballot := []
        agenda := []
        referendumCount := 0
        commitments := [] } }

/-- The proposal account 1 makes. -/
def sampleProposal : Proposal Nat Nat SampleCall where
  index := 0
  origin := RuntimeOrigin.origins Origin.smallSpender
  track := 30
  onTrack := rfl
  call := Call.other (SampleCall.spend SpendKind.approveBounty 5)

/-- Account 1 proposes to fund a bounty, tries to propose an upgrade and to take
the key, and the bounty is approved and then funded. -/
def sampleSteps : List (Step Nat Nat SampleCall SampleHook) :=
  [Step.dispatch (RuntimeOrigin.signed 1)
      (Call.other (SampleCall.submit sampleProposal.origin
        sampleProposal.call)),
    Step.dispatch (RuntimeOrigin.signed 1)
      (Call.other (SampleCall.submit
        (RuntimeOrigin.origins Origin.runtimeUpgrade) (Call.upgrade 8))),
    Step.dispatch (RuntimeOrigin.signed 1) (Call.setKey 1),
    Step.hook (SampleHook.approve 0),
    Step.enact sampleProposal sampleProposal.call]

def sampleEnd : SampleState :=
  sampleSteps.foldl (step samplePallets) sampleState

theorem sample_run :
    Run (Ordinary samplePallets) (step samplePallets) sampleState sampleSteps
      sampleEnd := by
  refine Run.cons rfl (Run.cons rfl (Run.cons rfl (Run.cons trivial
    (Run.cons ⟨?_, ?_, ?_⟩ (Run.nil _)))))
  · exact List.mem_singleton.mpr rfl
  · intro h
    cases h
  · exact List.mem_singleton.mpr rfl

end Sample

/-!
## The key and the code
-/

variable {pallets}

/-- Key and code are as they were, and there is no upgrade to come. -/
structure AtRest (pallets : Pallets AccountId Code Other Hook Rest)
    (key : Option AccountId) (code : Code) (s : State AccountId Rest) :
    Prop where
  key_eq : s.key = key
  code_eq : pallets.code s.rest = code
  unauthorized : pallets.upgradeAuthorized s.rest = false
  noneOnBallot : ∀ p ∈ pallets.ballot s.rest,
    p.origin ≠ RuntimeOrigin.origins Origin.runtimeUpgrade
  noneOnAgenda : ∀ p ∈ pallets.agenda s.rest,
    p.origin ≠ RuntimeOrigin.origins Origin.runtimeUpgrade

theorem step_atRest (hlaws : pallets.Lawful) {s : State AccountId Rest}
    {label : Step AccountId Code Other Hook} {key : Option AccountId}
    {code : Code} (hallowed : Ordinary pallets s label)
    (hsilent : forall who, key = some who ->
      label.origin ≠ some (RuntimeOrigin.signed who))
    (hrest : AtRest pallets key code s) :
    AtRest pallets key code (step pallets s label) := by
  have hupgrade : label.origin ≠
      some (RuntimeOrigin.origins Origin.runtimeUpgrade) := by
    intro horigin
    cases label with
    | dispatch o call =>
        cases horigin
        cases hallowed
    | enact p call =>
        exact hrest.noneOnAgenda p hallowed.left (Option.some.inj horigin)
    | hook _ => cases horigin
  have hsilent' : forall who, s.key = some who ->
      label.origin ≠ some (RuntimeOrigin.signed who) := by
    rw [hrest.key_eq]
    exact hsilent
  have hmoves := step_moves hlaws hallowed
  refine ⟨?_, ?_, ?_, ?_, ?_⟩
  · rw [step_key hlaws hallowed hsilent', hrest.key_eq]
  · rw [step_code hlaws hallowed hupgrade hrest.unauthorized, hrest.code_eq]
  · rw [← Bool.not_eq_true]
    intro hauthorized
    have hbefore := hmoves.authorized_of hauthorized
    rw [hrest.unauthorized] at hbefore
    cases hbefore
  · intro p hp htrack
    rcases hmoves.ballot_of p hp with hold | ⟨o, horigin, hsubmits⟩
    · exact hrest.noneOnBallot p hold htrack
    · -- an upgrade is submitted by prime, who is silent
      rcases hsubmits.label_eq horigin with ⟨who, call, rfl, hmay⟩
      unfold MaySubmit at hmay
      rw [if_pos htrack] at hmay
      exact hsilent' who hmay rfl
  · intro p hp
    rcases hmoves.agenda_of p hp with hold | hballot
    · exact hrest.noneOnAgenda p hold
    · exact hrest.noneOnBallot p hballot

/-- While nothing is dispatched in the name of the holder of the prime key, no
upgrade is on the ballot or waiting for its enactment, and none is authorized,
neither the key nor the runtime code changes, whatever other accounts submit and
whatever the voters approve short of the root track. -/
theorem key_and_code_rest_without_prime (hlaws : pallets.Lawful)
    {s t : State AccountId Rest} {steps : List (Step AccountId Code Other Hook)}
    (hrun : Run (Ordinary pallets) (step pallets) s steps t)
    (hballot : ∀ p ∈ pallets.ballot s.rest,
      p.origin ≠ RuntimeOrigin.origins Origin.runtimeUpgrade)
    (hagenda : ∀ p ∈ pallets.agenda s.rest,
      p.origin ≠ RuntimeOrigin.origins Origin.runtimeUpgrade)
    (hauthorized : pallets.upgradeAuthorized s.rest = false)
    (hsilent : forall who call, s.key = some who ->
      Step.dispatch (RuntimeOrigin.signed who) call ∉ steps) :
    t.key = s.key ∧ pallets.code t.rest = pallets.code s.rest := by
  have hrest : AtRest pallets s.key (pallets.code s.rest) t := by
    refine hrun.labelled.preserves (AtRest pallets s.key (pallets.code s.rest))
      ?_ ⟨rfl, rfl, hauthorized, hballot, hagenda⟩
    rintro m label ⟨hallowed, hmem⟩ hm
    apply step_atRest hlaws hallowed ?_ hm
    intro who hkey horigin
    cases label with
    | dispatch o call =>
        cases horigin
        exact hsilent who call hkey hmem
    | enact p call =>
        exact p.origin_ne_signed who (Option.some.inj horigin)
    | hook _ => cases horigin
  exact ⟨hrest.key_eq, hrest.code_eq⟩

theorem sample_key_and_code_rest :
    sampleEnd.key = some 0 ∧ sampleEnd.rest.code = 7 :=
  key_and_code_rest_without_prime samplePallets_lawful sample_run
    (fun _ hmem => absurd hmem List.not_mem_nil)
    (fun _ hmem => absurd hmem List.not_mem_nil) rfl
    (by
      intro who call hkey hmem
      cases hkey
      simp [sampleSteps] at hmem)

/-!
## The treasury
-/

def Open (pallets : Pallets AccountId Code Other Hook Rest) (rest : Rest)
    (p : Proposal AccountId Code Other) : Prop :=
  p ∈ pallets.ballot rest ∨ p ∈ pallets.agenda rest

structure PutsToVote (pallets : Pallets AccountId Code Other Hook Rest)
    (p : Proposal AccountId Code Other) (who : AccountId)
    (call : Call AccountId Code Other) (before : State AccountId Rest) :
    Prop where
  new : ¬ Open pallets before.rest p
  added : Open pallets
    (step pallets before (Step.dispatch (RuntimeOrigin.signed who) call)).rest p
  may : MaySubmit before.key (pallets.registry before.rest) who p.origin

/-- An open proposal was open from the start, or was put to the vote by a call of
the run. -/
theorem open_of_run (hlaws : pallets.Lawful) {s m : State AccountId Rest}
    {steps : List (Step AccountId Code Other Hook)}
    (hrun : Run (Ordinary pallets) (step pallets) s steps m)
    {p : Proposal AccountId Code Other} (hopen : Open pallets m.rest p) :
    Open pallets s.rest p ∨
      exists who call first second before,
        steps = first ++
          Step.dispatch (RuntimeOrigin.signed who) call :: second ∧
        Run (Ordinary pallets) (step pallets) s first before ∧
        PutsToVote pallets p who call before := by
  by_cases hstart : Open pallets s.rest p
  · exact Or.inl hstart
  · rcases hrun.exists_turn (fun u => Open pallets u.rest p) hstart hopen with
      ⟨first, label, second, before, hsteps, hfirst, hallowed, hnot, hnow, _⟩
    have hmoves := step_moves hlaws hallowed
    have hballot : p ∈ pallets.ballot (step pallets before label).rest := by
      refine hnow.resolve_right ?_
      intro hagenda
      rcases hmoves.agenda_of p hagenda with hold | hold
      · exact hnot (Or.inr hold)
      · exact hnot (Or.inl hold)
    rcases hmoves.ballot_of p hballot with hold | ⟨o, horigin, hsubmits⟩
    · exact absurd (Or.inl hold) hnot
    · rcases hsubmits.label_eq horigin with ⟨who, call, rfl, hmay⟩
      exact Or.inr ⟨who, call, first, second, before, hsteps, hfirst, hnot,
        hnow, hmay⟩

/-- A commitment comes about by the enactment of a proposal on the track of a
spend tier, within its cap. -/
theorem step_commitment_of (hlaws : pallets.Lawful) {m : State AccountId Rest}
    {label : Step AccountId Code Other Hook} {c : Commitment}
    (hallowed : Ordinary pallets m label)
    (hafter : c ∈ pallets.commitments (step pallets m label).rest)
    (hbefore : c ∉ pallets.commitments m.rest) :
    exists p call track tier cap, label = Step.enact p call ∧
      p ∈ pallets.agenda m.rest ∧ call ∈ pallets.leaves p.call ∧
      p.origin = RuntimeOrigin.origins tier ∧
      (track, tier, cap) ∈ spendCaps ∧ c.amount ≤ cap := by
  rcases (step_moves hlaws hallowed).commitments_of c hafter with
    hold | ⟨o, horigin, cap, hgate, hle⟩
  · exact absurd hold hbefore
  · rcases treasurySpender_eq_ok hgate with ⟨track, tier, rfl, hcap⟩
    cases label with
    | dispatch o call =>
        -- a tier has a track, so nothing is dispatched under it directly
        cases horigin
        have htrack : trackFor (RuntimeOrigin.origins tier) = _ := hallowed
        rw [trackFor_of_mem_spendCaps hcap] at htrack
        cases htrack
    | enact p call =>
        exact ⟨p, call, track, tier, cap, rfl, hallowed.left,
          hallowed.right.right, Option.some.inj horigin, hcap, hle⟩
    | hook _ => cases horigin

/-- Every commitment of the treasury that a run adds (by `spend_local`, `spend`
or the approval of a bounty) comes from the enactment of a proposal on the track
of a spend tier, within the cap published for that tier.  Unless the proposal was
open when the run begins, it was put to the vote earlier in the run by an account
that passed the identity standard at that moment. -/
theorem approved_spends_keep_to_their_tier (hlaws : pallets.Lawful)
    {s t : State AccountId Rest} {steps : List (Step AccountId Code Other Hook)}
    (hrun : Run (Ordinary pallets) (step pallets) s steps t) {c : Commitment}
    (hbefore : c ∉ pallets.commitments s.rest)
    (hafter : c ∈ pallets.commitments t.rest) :
    exists p call track tier cap early late,
      (track, tier, cap) ∈ spendCaps ∧ c.amount ≤ cap ∧
      p.origin = RuntimeOrigin.origins tier ∧ p.track = track ∧
      call ∈ pallets.leaves p.call ∧
      steps = early ++ Step.enact p call :: late ∧
      (Open pallets s.rest p ∨
        exists who submission first second before,
          early = first ++
            Step.dispatch (RuntimeOrigin.signed who) submission :: second ∧
          Run (Ordinary pallets) (step pallets) s first before ∧
          PutsToVote pallets p who submission before ∧
          QualifiedIdentity.contains (pallets.registry before.rest) who =
            true) := by
  rcases hrun.exists_turn (fun u => c ∈ pallets.commitments u.rest) hbefore
    hafter with
    ⟨early, label, late, m, hsteps, hearly, hallowed, habsent, hnow, _⟩
  rcases step_commitment_of hlaws hallowed hnow habsent with
    ⟨p, call, track, tier, cap, rfl, hagenda, hleaf, horigin, hcap, hle⟩
  have htrack : p.track = track := by
    have hon := p.onTrack
    rw [horigin, trackFor_of_mem_spendCaps hcap] at hon
    exact (Except.ok.inj hon).symm
  refine ⟨p, call, track, tier, cap, early, late, hcap, hle, horigin, htrack,
    hleaf, hsteps, (open_of_run hlaws hearly (Or.inr hagenda)).imp id ?_⟩
  rintro ⟨who, submission, first, second, before, hfirstSteps, hfirst, hputs⟩
  refine ⟨who, submission, first, second, before, hfirstSteps, hfirst, hputs,
    ?_⟩
  have hmay := hputs.may
  unfold MaySubmit at hmay
  rw [horigin, if_neg] at hmay
  · exact hmay
  · -- the upgrade track is not a spend tier
    intro h
    cases h
    simp [spendCaps] at hcap

theorem sample_spend_keeps_to_its_tier :
    exists p call track tier cap early late,
      (track, tier, cap) ∈ spendCaps ∧ 5 ≤ cap ∧
      p.origin = RuntimeOrigin.origins tier ∧ p.track = track ∧
      call ∈ samplePallets.leaves p.call ∧
      sampleSteps = early ++ Step.enact p call :: late ∧
      (Open samplePallets sampleState.rest p ∨
        exists who submission first second before,
          early = first ++
            Step.dispatch (RuntimeOrigin.signed who) submission :: second ∧
          Run (Ordinary samplePallets) (step samplePallets) sampleState first
            before ∧
          PutsToVote samplePallets p who submission before ∧
          QualifiedIdentity.contains (samplePallets.registry before.rest) who =
            true) := by
  have hbefore : (⟨SpendKind.approveBounty, 0, 5⟩ : Commitment) ∉
      samplePallets.commitments sampleState.rest := List.not_mem_nil
  have hafter : (⟨SpendKind.approveBounty, 0, 5⟩ : Commitment) ∈
      samplePallets.commitments sampleEnd.rest := by
    decide
  exact approved_spends_keep_to_their_tier samplePallets_lawful sample_run
    hbefore hafter

end Governance
end Numen
