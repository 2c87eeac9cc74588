import Mathlib.Data.Bool.Count
import Mathlib.Logic.Function.Basic
import Numen.Foundation.Runs

/-!
# Subscriptions on one connection

Every `eth_subscribe` the node takes is passed on to an upstream server, and all
of them ride on one WebSocket connection.  It is made on first use and again
after it drops, under a mutex that is held while the connection is under way.
Calls queue for the mutex, connections drop and notifications arrive in any
order here.
-/

namespace Numen
namespace Node

open Foundation

variable {Item : Type}

/-- Where a call of `subscribe` stands: queued for the mutex, holding it while the
client connects, waiting for the upstream to accept the subscription, or passing
notifications on. -/
inductive Stage where
  | absent
  | queued
  | connecting
  | subscribing (client : Nat)
  | relaying (client : Nat)
  | over
deriving DecidableEq

/-- A call with the notifications the upstream has sent for it, those it has not
passed on yet, and those it has. -/
structure Relay (Item : Type) where
  stage : Stage
  sent : List Item
  inbox : List Item
  passed : List Item

/-- What the upstream sent is what was passed on and what waits, in that order. -/
def Relay.InOrder (relay : Relay Item) : Prop :=
  relay.passed ++ relay.inbox = relay.sent

/-- An upstream and the calls on it.  The clients are numbered as they are made,
and `up` says of each whether it is connected. -/
structure Hub (Item : Type) where
  up : List Bool
  shared : Option Nat
  holder : Option Nat
  relays : Nat -> Relay Item

namespace Hub

def new : Hub Item :=
  { up := []
    shared := none
    holder := none
    relays := fun _ =>
      { stage := Stage.absent, sent := [], inbox := [], passed := [] } }

def isConnected (s : Hub Item) (client : Nat) : Bool :=
  s.up.getD client false

def put (s : Hub Item) (call : Nat) (relay : Relay Item) : Hub Item :=
  { s with relays := Function.update s.relays call relay }

def move (s : Hub Item) (call : Nat) (stage : Stage) : Hub Item :=
  s.put call { s.relays call with stage := stage }

/-- `Upstream::ws` from the moment it has the mutex: the shared client if that is
still connected, else the mutex is kept while a new one connects. -/
def ws (s : Hub Item) (call : Nat) : Hub Item :=
  match s.shared.filter s.isConnected with
  | some client => s.move call (Stage.subscribing client)
  | none => { s.move call Stage.connecting with holder := some call }

/-- The new client is shared, and the mutex is free again. -/
def connect (s : Hub Item) (call : Nat) : Hub Item :=
  { s.move call (Stage.subscribing s.up.length) with
    up := s.up ++ [true]
    shared := some s.up.length
    holder := none }

def notify (s : Hub Item) (call : Nat) (item : Item) : Hub Item :=
  s.put call
    { s.relays call with
      sent := (s.relays call).sent ++ [item]
      inbox := (s.relays call).inbox ++ [item] }

def pass (s : Hub Item) (call : Nat) : Hub Item :=
  match (s.relays call).inbox with
  | [] => s
  | item :: rest =>
      s.put call
        { s.relays call with
          inbox := rest
          passed := (s.relays call).passed ++ [item] }

/-- The call ends, because no connection came about, the upstream refused, the
notifications ended or the subscriber left.  A mutex it holds is free again. -/
def leave (s : Hub Item) (call : Nat) : Hub Item :=
  { s.move call Stage.over with
    holder := if s.holder = some call then none else s.holder }

end Hub

inductive HubLabel (Item : Type) where
  | call (call : Nat)
  | lock (call : Nat)
  | connected (call : Nat)
  | subscribed (call client : Nat)
  | drop (client : Nat)
  | notify (call : Nat) (item : Item)
  | pass (call : Nat)
  | leave (call : Nat)

namespace Hub

def step (s : Hub Item) : HubLabel Item -> Hub Item
  | HubLabel.call call => s.move call Stage.queued
  | HubLabel.lock call => s.ws call
  | HubLabel.connected call => s.connect call
  | HubLabel.subscribed call client => s.move call (Stage.relaying client)
  | HubLabel.drop client => { s with up := s.up.set client false }
  | HubLabel.notify call item => s.notify call item
  | HubLabel.pass call => s.pass call
  | HubLabel.leave call => s.leave call

/-- Only a connected client is subscribed on or sends anything. -/
def Allowed (s : Hub Item) : HubLabel Item -> Prop
  | HubLabel.call call => (s.relays call).stage = Stage.absent
  | HubLabel.lock call =>
      (s.relays call).stage = Stage.queued ∧ s.holder = none
  | HubLabel.connected call => (s.relays call).stage = Stage.connecting
  | HubLabel.subscribed call client =>
      (s.relays call).stage = Stage.subscribing client ∧
        s.isConnected client = true
  | HubLabel.drop _ => True
  | HubLabel.notify call _ => exists client,
      (s.relays call).stage = Stage.relaying client ∧
        s.isConnected client = true
  | HubLabel.pass call => exists client,
      (s.relays call).stage = Stage.relaying client
  | HubLabel.leave _ => True

/-!
## The mutex
-/

/-- The mutex is held by the call that connects, if there is one. -/
def Held (s : Hub Item) : Prop :=
  forall call, (s.relays call).stage = Stage.connecting <->
    s.holder = some call

theorem relays_put (s : Hub Item) (call other : Nat) (relay : Relay Item) :
    (s.put call relay).relays other =
      if other = call then relay else s.relays other :=
  Function.update_apply s.relays call relay other

theorem stage_move (s : Hub Item) (call other : Nat) (stage : Stage) :
    ((s.move call stage).relays other).stage =
      if other = call then stage else (s.relays other).stage := by
  unfold move
  rw [relays_put]
  split <;> rfl

theorem Held.move {s : Hub Item} (hs : s.Held) {call : Nat} {stage : Stage}
    (hbefore : (s.relays call).stage ≠ Stage.connecting)
    (hafter : stage ≠ Stage.connecting) : (s.move call stage).Held := by
  intro other
  rw [stage_move]
  split
  · rename_i hself
    subst hself
    exact iff_of_false hafter (fun hheld => hbefore ((hs other).mpr hheld))
  · exact hs other

theorem Held.put {s : Hub Item} (hs : s.Held) {call : Nat} {relay : Relay Item}
    (hstage : relay.stage = (s.relays call).stage) : (s.put call relay).Held := by
  intro other
  rw [relays_put]
  split
  · rename_i hself
    rw [hstage, ← hself]
    exact hs other
  · exact hs other

theorem Held.take {s : Hub Item} (hs : s.Held) {call : Nat}
    (hfree : s.holder = none) :
    Held { s.move call Stage.connecting with holder := some call } := by
  intro other
  show ((s.move call Stage.connecting).relays other).stage = _ <->
    some call = some other
  rw [stage_move]
  split
  · rename_i hself
    exact iff_of_true rfl (congrArg some hself.symm)
  · rename_i hother
    rw [hs other, hfree]
    exact iff_of_false nofun (fun heq => hother (Option.some.inj heq).symm)

theorem Held.release {s : Hub Item} (hs : s.Held) {call : Nat} (stage : Stage)
    (hheld : s.holder = some call) (hafter : stage ≠ Stage.connecting)
    {t : Hub Item} (hrelays : t.relays = (s.move call stage).relays)
    (hfree : t.holder = none) : t.Held := by
  intro other
  rw [hrelays, hfree, stage_move]
  split
  · exact iff_of_false hafter nofun
  · rename_i hother
    rw [hs other, hheld]
    exact iff_of_false (fun heq => hother (Option.some.inj heq).symm) nofun

theorem ws_cases (s : Hub Item) (call : Nat) :
    (exists client, s.shared = some client ∧ s.isConnected client = true ∧
      s.ws call = s.move call (Stage.subscribing client)) ∨
    ((forall client, s.shared = some client -> s.isConnected client = false) ∧
      s.ws call =
        { s.move call Stage.connecting with holder := some call }) := by
  unfold ws
  cases hshared : s.shared with
  | none => exact Or.inr ⟨nofun, rfl⟩
  | some client =>
      cases hup : s.isConnected client with
      | true =>
          refine Or.inl ⟨client, rfl, hup, ?_⟩
          rw [Option.filter_some, if_pos hup]
      | false =>
          refine Or.inr ⟨?_, ?_⟩
          · rintro _ ⟨⟩
            exact hup
          · rw [Option.filter_some, hup]
            rfl

theorem step_held {s : Hub Item} {label : HubLabel Item}
    (hallowed : s.Allowed label) (hs : s.Held) : (s.step label).Held := by
  cases label with
  | call call =>
      have hstage : (s.relays call).stage = Stage.absent := hallowed
      exact hs.move (by rw [hstage]; exact nofun) nofun
  | lock call =>
      rcases ws_cases s call with ⟨client, _, _, heq⟩ | ⟨_, heq⟩
      · show (s.ws call).Held
        rw [heq]
        exact hs.move (by rw [hallowed.left]; exact nofun) nofun
      · show (s.ws call).Held
        rw [heq]
        exact hs.take hallowed.right
  | connected call =>
      exact hs.release (Stage.subscribing s.up.length) ((hs call).mp hallowed)
        nofun rfl rfl
  | subscribed call client =>
      exact hs.move (by rw [hallowed.left]; exact nofun) nofun
  | drop client => exact hs
  | notify call item => exact hs.put rfl
  | pass call =>
      show (s.pass call).Held
      unfold pass
      split
      · exact hs
      · exact hs.put rfl
  | leave call =>
      by_cases hheld : s.holder = some call
      · exact hs.release Stage.over hheld nofun rfl (if_pos hheld)
      · have hkept : s.leave call = s.move call Stage.over := by
          unfold leave
          rw [if_neg hheld]
          rfl
        show (s.leave call).Held
        rw [hkept]
        exact hs.move (fun hstage => hheld ((hs call).mp hstage)) nofun

/-!
## The connections
-/

/-- Whatever client is connected is the shared one, and none is while another
connects. -/
structure Single (s : Hub Item) : Prop where
  live : forall client, s.isConnected client = true -> s.shared = some client
  building : s.holder ≠ none -> forall client, s.isConnected client = false

theorem Single.congr {s t : Hub Item} (hs : s.Single) (hup : t.up = s.up)
    (hshared : t.shared = s.shared) (hholder : t.holder ≠ none -> s.holder ≠ none) :
    t.Single := by
  have hconnected : t.isConnected = s.isConnected := by
    unfold isConnected
    rw [hup]
  constructor
  · rw [hconnected, hshared]
    exact hs.live
  · rw [hconnected]
    exact fun hheld => hs.building (hholder hheld)

theorem isConnected_drop {s : Hub Item} {client other : Nat}
    (h : (s.step (HubLabel.drop client)).isConnected other = true) :
    s.isConnected other = true := by
  unfold isConnected step at h
  simp only [List.getD_eq_getElem?_getD, List.getElem?_set] at h
  unfold isConnected
  rw [List.getD_eq_getElem?_getD]
  split at h
  · split at h <;> cases h
  · exact h

theorem isConnected_connect {s : Hub Item} {call client : Nat} :
    (s.connect call).isConnected client =
      (s.isConnected client || decide (client = s.up.length)) := by
  show (s.up ++ [true]).getD client false =
    (s.up.getD client false || decide (client = s.up.length))
  rcases Nat.lt_trichotomy client s.up.length with hlt | heq | hgt
  · simp [List.getD_eq_getElem?_getD, List.getElem?_append_left hlt,
      Nat.ne_of_lt hlt]
  · simp [heq]
  · have hlong : (s.up ++ [true]).length ≤ client := by
      rw [List.length_append]
      exact hgt
    rw [List.getD_eq_getElem?_getD, List.getD_eq_getElem?_getD,
      List.getElem?_eq_none hlong, List.getElem?_eq_none (Nat.le_of_lt hgt)]
    simp [Nat.ne_of_gt hgt]

theorem step_single {s : Hub Item} {label : HubLabel Item}
    (hallowed : s.Allowed label) (hheld : s.Held) (hs : s.Single) :
    (s.step label).Single := by
  cases label with
  | lock call =>
      rcases ws_cases s call with ⟨client, _, _, heq⟩ | ⟨hdead, heq⟩
      · show (s.ws call).Single
        rw [heq]
        exact hs.congr rfl rfl id
      · show (s.ws call).Single
        rw [heq]
        refine ⟨hs.live, ?_⟩
        intro _ client
        apply Bool.eq_false_iff.mpr
        intro hup
        exact Bool.false_ne_true
          ((hdead client (hs.live client hup)).symm.trans hup)
  | connected call =>
      -- the call holds the mutex, so nothing else is connected
      have hnone := hs.building (by rw [(hheld call).mp hallowed]; exact nofun)
      constructor
      · intro client hup
        change (s.connect call).isConnected client = true at hup
        rw [isConnected_connect, hnone client, Bool.false_or,
          decide_eq_true_eq] at hup
        exact congrArg some hup.symm
      · intro hbusy
        exact absurd rfl hbusy
  | drop client =>
      constructor
      · intro other hup
        exact hs.live other (isConnected_drop hup)
      · intro hbusy other
        apply Bool.eq_false_iff.mpr
        intro hup
        exact Bool.false_ne_true
          ((hs.building hbusy other).symm.trans (isConnected_drop hup))
  | pass call =>
      show (s.pass call).Single
      unfold pass
      split
      · exact hs
      · exact hs.congr rfl rfl id
  | leave call =>
      refine hs.congr rfl rfl ?_
      intro hbusy hfree
      apply hbusy
      show (if s.holder = some call then none else s.holder) = none
      rw [hfree]
      rfl
  | _ => exact hs.congr rfl rfl id

/-!
## The notifications
-/

def InOrder (s : Hub Item) : Prop :=
  forall call, (s.relays call).InOrder

theorem InOrder.put {s : Hub Item} (hs : s.InOrder) {call : Nat}
    {relay : Relay Item} (hrelay : relay.InOrder) :
    (s.put call relay).InOrder := by
  intro other
  rw [relays_put]
  split
  · exact hrelay
  · exact hs other

theorem InOrder.move {s : Hub Item} (hs : s.InOrder) (call : Nat)
    (stage : Stage) : (s.move call stage).InOrder :=
  hs.put (hs call)

theorem step_inOrder {s : Hub Item} {label : HubLabel Item} (hs : s.InOrder) :
    (s.step label).InOrder := by
  cases label with
  | call call => exact hs.move call _
  | lock call =>
      rcases ws_cases s call with ⟨client, _, _, heq⟩ | ⟨_, heq⟩
      · show (s.ws call).InOrder
        rw [heq]
        exact hs.move call _
      · show (s.ws call).InOrder
        rw [heq]
        exact hs.move call _
  | connected call => exact hs.move call _
  | subscribed call client => exact hs.move call _
  | drop client => exact hs
  | notify call item =>
      refine hs.put ?_
      show (s.relays call).passed ++ ((s.relays call).inbox ++ [item]) =
        (s.relays call).sent ++ [item]
      rw [← List.append_assoc, hs call]
  | pass call =>
      show (s.pass call).InOrder
      unfold pass
      split
      · exact hs
      · rename_i item rest hinbox
        refine hs.put ?_
        have horder := hs call
        unfold Relay.InOrder at horder
        rw [hinbox] at horder
        show ((s.relays call).passed ++ [item]) ++ rest = (s.relays call).sent
        rw [List.append_assoc]
        exact horder
  | leave call => exact hs.move call _

/-!
## Every run
-/

structure Inv (s : Hub Item) : Prop where
  held : s.Held
  single : s.Single
  inOrder : s.InOrder

theorem new_inv : (new : Hub Item).Inv where
  held := fun _ => iff_of_false nofun nofun
  single := ⟨nofun, fun hbusy => absurd rfl hbusy⟩
  inOrder := fun _ => rfl

theorem step_inv {s : Hub Item} {label : HubLabel Item}
    (hallowed : s.Allowed label) (hs : s.Inv) : (s.step label).Inv where
  held := step_held hallowed hs.held
  single := step_single hallowed hs.held hs.single
  inOrder := step_inOrder hs.inOrder

theorem count_true_le_one {up : List Bool}
    (h : forall i j, up.getD i false = true -> up.getD j false = true -> i = j) :
    up.count true ≤ 1 := by
  induction up with
  | nil => exact Nat.zero_le _
  | cons first rest ih =>
      cases first with
      | false =>
          rw [List.count_cons_of_ne (by decide)]
          apply ih
          intro i j hi hj
          exact Nat.succ.inj (h (i + 1) (j + 1) hi hj)
      | true =>
          have hnone : true ∉ rest := by
            intro hmem
            rcases List.getElem_of_mem hmem with ⟨i, hlt, hget⟩
            have hi : rest.getD i false = true := by
              rw [List.getD_eq_getElem?_getD, List.getElem?_eq_getElem hlt]
              exact hget
            exact Nat.succ_ne_zero i (h (i + 1) 0 hi rfl)
          rw [List.count_cons_self, List.count_eq_zero.mpr hnone]

/-- In any interleaving of calls, drops and notifications, no client but the
shared one is connected, so all subscriptions that still receive anything ride on
it, and a further connection is made only after the last has dropped.  No two
calls connect at a time.  Each call has passed on, in order and without a gap,
what the upstream sent for it, up to what still waits. -/
theorem subscriptions_share_one_connection {labels : List (HubLabel Item)}
    {s : Hub Item} (hrun : Run Allowed step new labels s) :
    (forall client, s.isConnected client = true -> s.shared = some client) ∧
    s.up.length ≤ s.up.count false + 1 ∧
    (forall call other, (s.relays call).stage = Stage.connecting ->
      (s.relays other).stage = Stage.connecting -> call = other) ∧
    (forall call, (s.relays call).passed ++ (s.relays call).inbox =
      (s.relays call).sent) := by
  have hs : s.Inv := hrun.preserves Inv (fun _ _ => step_inv) new_inv
  refine ⟨hs.single.live, ?_, ?_, hs.inOrder⟩
  · have hone : s.up.count true ≤ 1 := by
      apply count_true_le_one
      intro i j hi hj
      exact Option.some.inj
        ((hs.single.live i hi).symm.trans (hs.single.live j hj))
    have hsplit := List.count_true_add_count_false s.up
    lia
  · intro call other hcall hother
    exact Option.some.inj
      (((hs.held call).mp hcall).symm.trans ((hs.held other).mp hother))

/-- Two subscriptions share a connection, and a third after the upstream has
restarted makes another. -/
def restart : List (HubLabel Nat) :=
  [HubLabel.call 0, HubLabel.call 1, HubLabel.lock 0, HubLabel.connected 0,
    HubLabel.lock 1, HubLabel.subscribed 0 0, HubLabel.subscribed 1 0,
    HubLabel.notify 1 7, HubLabel.notify 1 8, HubLabel.pass 1, HubLabel.drop 0,
    HubLabel.call 2, HubLabel.lock 2, HubLabel.connected 2]

def restarted : Hub Nat :=
  restart.foldl step new

theorem restarted_upstream_is_connected_once :
    restarted.up = [false, true] ∧
      (forall client, restarted.isConnected client = true ->
        restarted.shared = some client) ∧
      (restarted.relays 1).passed = [7] := by
  have hrun : Run Allowed step new restart restarted :=
    .cons rfl <| .cons rfl <| .cons ⟨rfl, rfl⟩ <| .cons rfl <|
    .cons ⟨rfl, rfl⟩ <| .cons ⟨rfl, rfl⟩ <| .cons ⟨rfl, rfl⟩ <|
    .cons ⟨0, rfl, rfl⟩ <| .cons ⟨0, rfl, rfl⟩ <| .cons ⟨0, rfl⟩ <|
    .cons True.intro <| .cons rfl <| .cons ⟨rfl, rfl⟩ <| .cons rfl <| .nil _
  exact ⟨rfl, (subscriptions_share_one_connection hrun).left, rfl⟩

end Hub
end Node
end Numen
