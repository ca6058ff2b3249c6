import Mathlib.Data.Finset.Basic
import Mathlib.Logic.Function.Basic

/-!
# The resource-subscription registry

One entry per resource URI records its members, the generation of its latest
transition and the server that last confirmed the upstream subscription. Every
registry call decides under the entry's guard and never waits there; the
upstream `subscribe` and `unsubscribe` calls are made by transitions that are
spawned, wait for the URI's transition lock and then run to their end.

The lock is the field `running`: at most one transition per URI is past its
queue. Between two of its steps any other registry call may change the entry, so
a transition is a sequence of phases, one for each stretch of the source between
two awaits. A queued transition may start at any later time and in any order.

The upstream side is the field `held`: which server holds a subscription for
which URI. Every call may fail, and a connection may be replaced; what holds
when neither happens is stated about runs without such steps.
-/

namespace Plug.Subscriptions

variable {Uri Server Target : Type}

/-- A handle on one concrete upstream connection. -/
structure Upstream (Server : Type) where
  serverId : Server
  connectionGeneration : Nat
deriving DecidableEq

/-- What the latest transition of an entry is doing. A pending entry names the
server it is being subscribed on; a draining one names the server that a
superseding subscriber has to release. -/
inductive EntryState (Server : Type) where
  | pending (intendedOwner : Server)
  | active
  | draining (priorOwner : Option Server)
deriving DecidableEq

structure Entry (Server Target : Type) where
  generation : Nat
  members : Finset Target
  state : EntryState Server
  ownerServerId : Option Server
  ownerConnectionGeneration : Option Nat

/-- The upstream a supersede should release on this entry's behalf: the
confirmed owner, else the owner a pending subscribe intends. -/
def Entry.ownerToRelease (entry : Entry Server Target) : Option Server :=
  entry.ownerServerId.orElse fun _ =>
    match entry.state with
    | .pending intendedOwner => some intendedOwner
    | _ => none

/-- Mark an entry for draining on its present generation. -/
def Entry.markDraining (entry : Entry Server Target) : Entry Server Target :=
  { entry with state := .draining entry.ownerToRelease }

/-- Why a rebind's new owner is not a usable handle. -/
inductive RebindSkipReason where
  | newOwnerMissing
  | newOwnerNoSubscribeSupport
deriving DecidableEq

/-- The arguments `run_subscribe_transition` is spawned with. The recorded owner
is the server the handle belongs to. -/
structure SubscribeTransition (Uri Server : Type) where
  uri : Uri
  generation : Nat
  upstream : Upstream Server
  displacedOwner : Option Server

/-- The arguments `run_drain_transition` is spawned with. The handle is the
caller's fallback for an entry that records no owner. -/
structure DrainTransition (Uri Server : Type) where
  uri : Uri
  generation : Nat
  upstream : Option (Upstream Server)

/-- The arguments `run_rebind_transition` is spawned with. A usable new owner is
given by the connection generation of its handle on `newServerId`. -/
structure RebindTransition (Uri Server : Type) where
  uri : Uri
  generation : Nat
  oldUpstream : Option (Upstream Server)
  newServerId : Server
  newOwner : Except RebindSkipReason Nat
  releaseOldOwner : Bool

inductive Transition (Uri Server : Type) where
  | subscribe (transition : SubscribeTransition Uri Server)
  | drain (transition : DrainTransition Uri Server)
  | rebind (transition : RebindTransition Uri Server)

def Transition.uri : Transition Uri Server → Uri
  | .subscribe transition => transition.uri
  | .drain transition => transition.uri
  | .rebind transition => transition.uri

/-- A transition that holds its URI's lock, at the step it will take next. -/
inductive Running (Uri Server : Type) where
  | releasingDisplaced (transition : SubscribeTransition Uri Server)
  | checkingSubscribe (transition : SubscribeTransition Uri Server)
  | subscribing (transition : SubscribeTransition Uri Server)
  | confirming (transition : SubscribeTransition Uri Server) (succeeded : Bool)
  | checkingDrain (transition : DrainTransition Uri Server)
  | unsubscribing (transition : DrainTransition Uri Server) (handle : Option (Upstream Server))
  | removing (transition : DrainTransition Uri Server)
  | checkingRebind (transition : RebindTransition Uri Server)
  | releasingOld (transition : RebindTransition Uri Server) (handle : Option (Upstream Server))
  | resubscribing (transition : RebindTransition Uri Server)
  | concluding (transition : RebindTransition Uri Server) (failed : Bool)

/-- The first step of each transition body once it has the lock. -/
def Transition.start : Transition Uri Server → Running Uri Server
  | .subscribe transition => .releasingDisplaced transition
  | .drain transition => .checkingDrain transition
  | .rebind transition => .checkingRebind transition

structure State (Uri Server Target : Type) where
  entries : Uri → Option (Entry Server Target)
  nextGeneration : Nat
  queued : List (Transition Uri Server)
  running : Uri → Option (Running Uri Server)
  held : Server → Uri → Bool
  connection : Server → Option Nat

/-- An empty registry over the given connections. -/
def initial (connection : Server → Option Nat) : State Uri Server Target where
  entries := fun _ => none
  nextGeneration := 0
  queued := []
  running := fun _ => none
  held := fun _ _ => false
  connection := connection

section Operations

variable [DecidableEq Uri] [DecidableEq Server] [DecidableEq Target]

def State.setEntry (state : State Uri Server Target) (uri : Uri)
    (entry : Option (Entry Server Target)) : State Uri Server Target :=
  { state with entries := Function.update state.entries uri entry }

def State.setRunning (state : State Uri Server Target) (uri : Uri)
    (running : Option (Running Uri Server)) : State Uri Server Target :=
  { state with running := Function.update state.running uri running }

def State.setHeld (state : State Uri Server Target) (server : Server) (uri : Uri)
    (holds : Bool) : State Uri Server Target :=
  { state with
    held := Function.update state.held server (Function.update (state.held server) uri holds) }

def State.spawn (state : State Uri Server Target) (transition : Transition Uri Server) :
    State Uri Server Target :=
  { state with queued := state.queued ++ [transition] }

/-- Take the next generation for an entry written as `entry` from it. -/
def State.allot (state : State Uri Server Target) (uri : Uri)
    (entry : Nat → Entry Server Target) : State Uri Server Target :=
  { state with
    nextGeneration := state.nextGeneration + 1
    entries := Function.update state.entries uri (some (entry state.nextGeneration)) }

/-- The current handle of a server, if it is connected. The registry's owner
resolver is this lookup. -/
def State.getUpstream (state : State Uri Server Target) (server : Server) :
    Option (Upstream Server) :=
  (state.connection server).map fun generation => ⟨server, generation⟩

/-- A recorded owner is resolved to its current handle; without one the
caller's fallback is used. -/
def State.drainHandle (state : State Uri Server Target) (recordedOwner : Option Server)
    (fallback : Option (Upstream Server)) : Option (Upstream Server) :=
  match recordedOwner with
  | some owner => state.getUpstream owner
  | none => fallback

/-- The entry and transition of a subscriber that starts over: a fresh
generation, no recorded owner, and the server it has to release. -/
def startSubscribe (state : State Uri Server Target) (uri : Uri) (members : Finset Target)
    (upstream : Upstream Server) (displacedOwner : Option Server) : State Uri Server Target :=
  (state.allot uri fun generation =>
    { generation, members, state := .pending upstream.serverId,
      ownerServerId := none, ownerConnectionGeneration := none }).spawn
    (.subscribe { uri, generation := state.nextGeneration, upstream, displacedOwner })

/-- Whether the connection that confirmed this entry's subscription on the
handle's server has been replaced by the handle's. -/
def Entry.ownerConnectionReplaced (entry : Entry Server Target) (upstream : Upstream Server) :
    Bool :=
  entry.ownerServerId == some upstream.serverId &&
    entry.ownerConnectionGeneration.any (· != upstream.connectionGeneration)

/-- The synchronous part of `subscribe`. -/
def subscribe (state : State Uri Server Target) (uri : Uri) (target : Target)
    (upstream : Upstream Server) : State Uri Server Target :=
  match state.entries uri with
  | none => startSubscribe state uri {target} upstream none
  | some entry =>
    match entry.state with
    | .active =>
      if entry.ownerConnectionReplaced upstream then
        -- The subscription died with its connection: start over for every
        -- member, with nothing to release.
        startSubscribe state uri (insert target entry.members) upstream none
      else
        state.setEntry uri (some { entry with members := insert target entry.members })
    | .pending _ => state.setEntry uri (some { entry with members := insert target entry.members })
    | .draining priorOwner => startSubscribe state uri {target} upstream priorOwner

/-- One member leaves one entry; the last one of an active or pending entry
starts its drain. `unsubscribe` and `cleanup_target` share this rule. -/
def leave (state : State Uri Server Target) (uri : Uri) (target : Target)
    (upstream : Option (Upstream Server)) : State Uri Server Target :=
  match state.entries uri with
  | none => state
  | some entry =>
    let left : Entry Server Target := { entry with members := entry.members.erase target }
    match left.state with
    | .draining _ => state.setEntry uri (some left)
    | _ =>
      if left.members = ∅ then
        (state.setEntry uri (some left.markDraining)).spawn
          (.drain { uri, generation := left.generation, upstream })
      else state.setEntry uri (some left)

def unsubscribe (state : State Uri Server Target) (uri : Uri) (target : Target)
    (upstream : Option (Upstream Server)) : State Uri Server Target :=
  leave state uri target upstream

/-- One entry visited by `cleanup_target`. The sweep holds no lock across
entries, so its visits are separate steps. -/
def cleanupTarget (state : State Uri Server Target) (uri : Uri) (target : Target)
    (upstream : Option (Upstream Server)) : State Uri Server Target :=
  leave state uri target upstream

/-- Drain an entry whatever its state and members. -/
def prune (state : State Uri Server Target) (uri : Uri) (upstream : Option (Upstream Server)) :
    State Uri Server Target :=
  match state.entries uri with
  | none => state
  | some entry =>
    (state.setEntry uri (some entry.markDraining)).spawn
      (.drain { uri, generation := entry.generation, upstream })

/-- Whether a migration to `newServerId` joins the transition already pending. -/
def Entry.equivalentPending (entry : Entry Server Target) (newServerId : Server) : Bool :=
  entry.members ≠ ∅ && entry.state == .pending newServerId

/-- The synchronous part of `migrate`. An entry without members is drained on a
fresh generation instead of being revived. -/
def migrate (state : State Uri Server Target) (uri : Uri)
    (oldUpstream : Option (Upstream Server)) (newServerId : Server)
    (newOwner : Except RebindSkipReason Nat) (releaseOldOwner : Bool) :
    State Uri Server Target :=
  match state.entries uri with
  | none => state
  | some entry =>
    if entry.equivalentPending newServerId then state
    else if entry.members = ∅ then
      (state.allot uri fun generation => { entry.markDraining with generation }).spawn
        (.drain { uri, generation := state.nextGeneration, upstream := oldUpstream })
    else
      (state.allot uri fun generation =>
        { entry with generation, state := .pending newServerId }).spawn
        (.rebind { uri, generation := state.nextGeneration, oldUpstream, newServerId, newOwner,
                   releaseOldOwner })

def rebind (state : State Uri Server Target) (uri : Uri) (oldUpstream : Option (Upstream Server))
    (newServerId : Server) (newOwner : Except RebindSkipReason Nat) : State Uri Server Target :=
  migrate state uri oldUpstream newServerId newOwner true

/-- A rebind of a server to itself that releases nothing. -/
def resubscribe (state : State Uri Server Target) (uri : Uri) (serverId : Server)
    (newOwner : Except RebindSkipReason Nat) : State Uri Server Target :=
  migrate state uri none serverId newOwner false

/-- The caller's resolution of a rebind's new owner. -/
def State.resolveRebindOwner (state : State Uri Server Target) (newServerId : Server)
    (supportsSubscribe : Bool) : Except RebindSkipReason Nat :=
  match state.connection newServerId with
  | none => .error .newOwnerMissing
  | some generation =>
    if supportsSubscribe then .ok generation else .error .newOwnerNoSubscribeSupport

/-- One upstream call on a handle. A call can succeed only on the connection the
handle belongs to; a failed call leaves the server's subscriptions as they are. -/
def State.call (state : State Uri Server Target) (handle : Upstream Server) (uri : Uri)
    (subscribed succeeds : Bool) : Option (State Uri Server Target) :=
  if succeeds then
    if state.connection handle.serverId = some handle.connectionGeneration then
      some (state.setHeld handle.serverId uri subscribed)
    else none
  else some state

/-- Remove the entry if it is still on the given generation. -/
def State.removeIf (state : State Uri Server Target) (uri : Uri) (generation : Nat) :
    State Uri Server Target :=
  match state.entries uri with
  | some entry => if entry.generation = generation then state.setEntry uri none else state
  | none => state

/-- Record a confirmed owner on an entry that is still on the given generation.
Only a pending entry becomes active: a draining mark belongs to its drain. -/
def State.confirm (state : State Uri Server Target) (uri : Uri) (generation : Nat)
    (owner : Server) (connectionGeneration : Option Nat) : State Uri Server Target :=
  match state.entries uri with
  | some entry =>
    if entry.generation = generation then
      state.setEntry uri (some { entry with
        ownerServerId := some owner
        ownerConnectionGeneration := connectionGeneration
        state := match entry.state with
          | .pending _ => .active
          | other => other })
    else state
  | none => state

/-- The owner recorded on an entry that is still on the given generation. -/
def State.stillCurrent (state : State Uri Server Target) (uri : Uri) (generation : Nat) :
    Option (Option Server) :=
  match state.entries uri with
  | some entry => if entry.generation = generation then some entry.ownerServerId else none
  | none => none

/-- The next step of the transition that holds the lock of `uri`. `succeeds` is
the outcome of the upstream call if the step makes one. -/
def advance (state : State Uri Server Target) (uri : Uri) (succeeds : Bool) :
    Option (State Uri Server Target) :=
  match state.running uri with
  | none => none
  | some (.releasingDisplaced transition) =>
    let next := state.setRunning uri (some (.checkingSubscribe transition))
    match transition.displacedOwner with
    | none => some next
    | some previous =>
      if previous = transition.upstream.serverId then some next
      else
        match state.drainHandle (some previous) none with
        | none => some next
        | some handle => next.call handle uri false succeeds
  | some (.checkingSubscribe transition) =>
    match state.stillCurrent uri transition.generation with
    | none => some (state.setRunning uri none)
    | some _ => some (state.setRunning uri (some (.subscribing transition)))
  | some (.subscribing transition) =>
    (state.setRunning uri (some (.confirming transition succeeds))).call
      transition.upstream uri true succeeds
  | some (.confirming transition succeeded) =>
    let released := state.setRunning uri none
    if succeeded then
      some (released.confirm uri transition.generation transition.upstream.serverId
        (some transition.upstream.connectionGeneration))
    else some (released.removeIf uri transition.generation)
  | some (.checkingDrain transition) =>
    match state.stillCurrent uri transition.generation with
    | none => some (state.setRunning uri none)
    | some recordedOwner =>
      some (state.setRunning uri
        (some (.unsubscribing transition (state.drainHandle recordedOwner transition.upstream))))
  | some (.unsubscribing transition handle) =>
    let next := state.setRunning uri (some (.removing transition))
    match handle with
    | none => some next
    | some handle => next.call handle uri false succeeds
  | some (.removing transition) =>
    some ((state.setRunning uri none).removeIf uri transition.generation)
  | some (.checkingRebind transition) =>
    match state.stillCurrent uri transition.generation with
    | none => some (state.setRunning uri none)
    | some recordedOwner =>
      let handle := if transition.releaseOldOwner then
        state.drainHandle recordedOwner transition.oldUpstream else none
      some (state.setRunning uri (some (.releasingOld transition handle)))
  | some (.releasingOld transition handle) =>
    match handle with
    | none => some (state.setRunning uri (some (.resubscribing transition)))
    | some handle =>
      let next : Running Uri Server :=
        if succeeds then .resubscribing transition else .concluding transition true
      (state.setRunning uri (some next)).call handle uri false succeeds
  | some (.resubscribing transition) =>
    match transition.newOwner with
    | .error _ => some (state.setRunning uri (some (.concluding transition true)))
    | .ok generation =>
      (state.setRunning uri (some (.concluding transition (!succeeds)))).call
        ⟨transition.newServerId, generation⟩ uri true succeeds
  | some (.concluding transition failed) =>
    let released := state.setRunning uri none
    if failed then some (released.removeIf uri transition.generation)
    else
      some (released.confirm uri transition.generation transition.newServerId
        transition.newOwner.toOption)

end Operations

/-- One step of the system. `route` is the server the live route cache names for
the URI when a leaving member's fallback handle is resolved. -/
inductive Action (Uri Server Target : Type) where
  | subscribe (uri : Uri) (target : Target) (server : Server)
  | unsubscribe (uri : Uri) (target : Target) (route : Option Server)
  | cleanup (uri : Uri) (target : Target) (route : Option Server)
  | prune (uri : Uri) (oldServer : Option Server)
  | rebind (uri : Uri) (oldServer newServer : Server) (supportsSubscribe : Bool)
  | resubscribe (uri : Uri) (server : Server) (supportsSubscribe : Bool)
  | start (index : Nat)
  | advance (uri : Uri) (succeeds : Bool)
  | reconnect (server : Server) (connection : Option Nat)
deriving DecidableEq

variable [DecidableEq Uri] [DecidableEq Server] [DecidableEq Target]

/-- The queued transition at `index` obtains its URI's transition lock. -/
def start (state : State Uri Server Target) (index : Nat) : Option (State Uri Server Target) :=
  match state.queued[index]? with
  | none => none
  | some transition =>
    match state.running transition.uri with
    | some _ => none
    | none =>
      some { state with
        queued := state.queued.eraseIdx index
        running := Function.update state.running transition.uri (some transition.start) }

/-- A server's connection is replaced or lost, and its subscriptions with it. -/
def reconnect (state : State Uri Server Target) (server : Server) (connection : Option Nat) :
    State Uri Server Target :=
  { state with
    connection := Function.update state.connection server connection
    held := Function.update state.held server fun _ => false }

def step (state : State Uri Server Target) : Action Uri Server Target →
    Option (State Uri Server Target)
  | .subscribe uri target server =>
    match state.getUpstream server with
    | none => some state
    | some upstream => some (subscribe state uri target upstream)
  | .unsubscribe uri target route =>
    some (unsubscribe state uri target (route.bind state.getUpstream))
  | .cleanup uri target route =>
    some (cleanupTarget state uri target (route.bind state.getUpstream))
  | .prune uri oldServer => some (prune state uri (oldServer.bind state.getUpstream))
  | .rebind uri oldServer newServer supportsSubscribe =>
    some (rebind state uri (state.getUpstream oldServer) newServer
      (state.resolveRebindOwner newServer supportsSubscribe))
  | .resubscribe uri server supportsSubscribe =>
    some (resubscribe state uri server (state.resolveRebindOwner server supportsSubscribe))
  | .start index => start state index
  | .advance uri succeeds => advance state uri succeeds
  | .reconnect server connection => some (reconnect state server connection)

/-- No transition is waiting for a lock or running. -/
def Quiescent (state : State Uri Server Target) : Prop :=
  state.queued = [] ∧ ∀ uri, state.running uri = none

/-- Every upstream call succeeds and no connection changes. -/
def Undisturbed : Action Uri Server Target → Prop
  | .advance _ succeeds => succeeds = true
  | .reconnect _ _ => False
  | _ => True

instance : DecidablePred (Undisturbed : Action Uri Server Target → Prop)
  | .advance _ succeeds => inferInstanceAs (Decidable (succeeds = true))
  | .reconnect _ _ => isFalse id
  | .subscribe _ _ _ => isTrue trivial
  | .unsubscribe _ _ _ => isTrue trivial
  | .cleanup _ _ _ => isTrue trivial
  | .prune _ _ => isTrue trivial
  | .rebind _ _ _ _ => isTrue trivial
  | .resubscribe _ _ _ => isTrue trivial
  | .start _ => isTrue trivial

end Plug.Subscriptions
