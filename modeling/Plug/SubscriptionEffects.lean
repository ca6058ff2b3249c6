import Plug.Runs
import Plug.Subscriptions
import Mathlib.Tactic.ByContra

/-!
# What one step does to the subscription registry

`WellFormed` ties entries, queue and locks together: a generation is allotted
once, to one subscribing or rebinding transition or to one drain, so a pending
entry has its starter unfinished, a draining one its drain, and an active entry
has neither.

`Effect` says once what a step can do to a well-formed registry when the upstream
calls succeed and connections stay, and to which URI. Every invariant of the
registry is a case analysis over it.
-/

set_option linter.unusedSectionVars false

namespace Plug.Subscriptions

variable {Uri Server Target : Type}

/-- The transition whose body is at this step. -/
def Running.transition : Running Uri Server → Transition Uri Server
  | .releasingDisplaced transition => .subscribe transition
  | .checkingSubscribe transition => .subscribe transition
  | .subscribing transition => .subscribe transition
  | .confirming transition _ => .subscribe transition
  | .checkingDrain transition => .drain transition
  | .unsubscribing transition _ => .drain transition
  | .removing transition => .drain transition
  | .checkingRebind transition => .rebind transition
  | .releasingOld transition _ => .rebind transition
  | .resubscribing transition => .rebind transition
  | .concluding transition _ => .rebind transition

def Transition.generation : Transition Uri Server → Nat
  | .subscribe transition => transition.generation
  | .drain transition => transition.generation
  | .rebind transition => transition.generation

/-- Whether the transition was spawned to establish a subscription. -/
def Transition.starts : Transition Uri Server → Bool
  | .drain _ => false
  | _ => true

/-- The handle a transition will subscribe belongs to a current connection. -/
def Transition.HandleCurrent (connection : Server → Option Nat) : Transition Uri Server → Prop
  | .subscribe transition =>
      connection transition.upstream.serverId = some transition.upstream.connectionGeneration
  | .drain _ => True
  | .rebind transition => ∀ generation, transition.newOwner = .ok generation →
      connection transition.newServerId = some generation

@[simp] theorem start_transition (transition : Transition Uri Server) :
    transition.start.transition = transition := by
  cases transition <;> rfl

/-- A transition of `uri` that has been spawned and has not ended. -/
def Unfinished (state : State Uri Server Target) (uri : Uri) (transition : Transition Uri Server) :
    Prop :=
  (state.running uri).map Running.transition = some transition ∨
    (transition ∈ state.queued ∧ transition.uri = uri)

/-- Two transitions of one generation are not both starters. -/
def Distinct (first second : Transition Uri Server) : Prop :=
  first.starts = true → second.starts = true → first.generation ≠ second.generation

theorem Distinct.symm {first second : Transition Uri Server} (distinct : Distinct first second) :
    Distinct second first :=
  fun secondStarts firstStarts same => distinct firstStarts secondStarts same.symm

/-- What ties one entry to the transitions unfinished on its URI. -/
structure EntryFits (state : State Uri Server Target) (uri : Uri) (entry : Entry Server Target) :
    Prop where
  bound : entry.generation < state.nextGeneration
  inactive : ∀ transition, Unfinished state uri transition →
    entry.generation = transition.generation → entry.state ≠ .active
  marked : ∀ transition, Unfinished state uri transition →
    entry.generation = transition.generation → transition.starts = false →
    ∃ prior, entry.state = .draining prior
  pendingStarted : ∀ owner, entry.state = .pending owner → ∃ transition,
    Unfinished state uri transition ∧ transition.starts = true ∧
      transition.generation = entry.generation
  drainingStarted : ∀ prior, entry.state = .draining prior → ∃ transition,
    Unfinished state uri transition ∧ transition.starts = false ∧
      transition.generation = entry.generation
  membersNonempty : (∀ prior, entry.state ≠ .draining prior) → entry.members.Nonempty
  ownerConnection : ∀ owner, entry.ownerServerId = some owner →
    entry.ownerConnectionGeneration = state.connection owner

/-- The facts that tie entries, queue and locks together. -/
structure WellFormed (state : State Uri Server Target) : Prop where
  connected : ∀ server, (state.connection server).isSome = true
  fits : ∀ uri entry, state.entries uri = some entry → EntryFits state uri entry
  bound : ∀ uri transition, Unfinished state uri transition →
    transition.generation < state.nextGeneration
  handles : ∀ uri transition, Unfinished state uri transition →
    transition.HandleCurrent state.connection
  queuedDistinct : state.queued.Pairwise Distinct
  runningDistinct : ∀ uri stage, state.running uri = some stage →
    ∀ transition ∈ state.queued, Distinct stage.transition transition
  confirmations : ∀ uri transition succeeded,
    state.running uri = some (.confirming transition succeeded) → succeeded = true
  conclusions : ∀ uri transition failed,
    state.running uri = some (.concluding transition failed) →
    (failed = false ↔ ∃ generation, transition.newOwner = .ok generation)

/-- The empty registry over connected servers is well formed. -/
theorem initial_wellFormed (connection : Server → Option Nat)
    (connected : ∀ server, (connection server).isSome = true) :
    WellFormed (initial connection : State Uri Server Target) := by
  constructor <;> simp_all [initial, Unfinished]

section Effects

variable [DecidableEq Uri] [DecidableEq Server] [DecidableEq Target]

@[simp] theorem setEntry_entries_self (state : State Uri Server Target) (uri : Uri)
    (entry : Option (Entry Server Target)) : (state.setEntry uri entry).entries uri = entry := by
  simp [State.setEntry]

@[simp] theorem setRunning_running_self (state : State Uri Server Target) (uri : Uri)
    (running : Option (Running Uri Server)) :
    (state.setRunning uri running).running uri = running := by
  simp [State.setRunning]

/-- One step of a transition that keeps its lock: the step it was at, the step
it reaches and what the servers hold afterwards. -/
inductive Progress (state : State Uri Server Target) (uri : Uri) :
    Running Uri Server → Running Uri Server → (Server → Uri → Bool) → Prop where
  | displacedReleased (transition : SubscribeTransition Uri Server) (previous : Server)
      (displaced : transition.displacedOwner = some previous)
      (other : previous ≠ transition.upstream.serverId) :
      Progress state uri (.releasingDisplaced transition) (.checkingSubscribe transition)
        (state.setHeld previous uri false).held
  | nothingDisplaced (transition : SubscribeTransition Uri Server)
      (kept : ∀ previous, transition.displacedOwner = some previous →
        previous = transition.upstream.serverId) :
      Progress state uri (.releasingDisplaced transition) (.checkingSubscribe transition) state.held
  | subscribeChecked (transition : SubscribeTransition Uri Server) (entry : Entry Server Target)
      (present : state.entries uri = some entry)
      (current : entry.generation = transition.generation) :
      Progress state uri (.checkingSubscribe transition) (.subscribing transition) state.held
  | subscribeCalled (transition : SubscribeTransition Uri Server) :
      Progress state uri (.subscribing transition) (.confirming transition true)
        (state.setHeld transition.upstream.serverId uri true).held
  | drainChecked (transition : DrainTransition Uri Server) (entry : Entry Server Target)
      (present : state.entries uri = some entry)
      (current : entry.generation = transition.generation) :
      Progress state uri (.checkingDrain transition)
        (.unsubscribing transition (state.drainHandle entry.ownerServerId transition.upstream))
        state.held
  | unsubscribeCalled (transition : DrainTransition Uri Server) (handle : Upstream Server) :
      Progress state uri (.unsubscribing transition (some handle)) (.removing transition)
        (state.setHeld handle.serverId uri false).held
  | nothingToUnsubscribe (transition : DrainTransition Uri Server) :
      Progress state uri (.unsubscribing transition none) (.removing transition) state.held
  | rebindChecked (transition : RebindTransition Uri Server) (entry : Entry Server Target)
      (present : state.entries uri = some entry)
      (current : entry.generation = transition.generation) :
      Progress state uri (.checkingRebind transition)
        (.releasingOld transition (if transition.releaseOldOwner then
          state.drainHandle entry.ownerServerId transition.oldUpstream else none))
        state.held
  | oldReleased (transition : RebindTransition Uri Server) (handle : Upstream Server) :
      Progress state uri (.releasingOld transition (some handle)) (.resubscribing transition)
        (state.setHeld handle.serverId uri false).held
  | nothingToRelease (transition : RebindTransition Uri Server) :
      Progress state uri (.releasingOld transition none) (.resubscribing transition) state.held
  | resubscribeSkipped (transition : RebindTransition Uri Server) (reason : RebindSkipReason)
      (unusable : transition.newOwner = .error reason) :
      Progress state uri (.resubscribing transition) (.concluding transition true) state.held
  | resubscribeCalled (transition : RebindTransition Uri Server) (generation : Nat)
      (usable : transition.newOwner = .ok generation) :
      Progress state uri (.resubscribing transition) (.concluding transition false)
        (state.setHeld transition.newServerId uri true).held

/-- Whether the step is the transition's generation check. -/
def Running.checks : Running Uri Server → Bool
  | .checkingSubscribe _ => true
  | .checkingDrain _ => true
  | .checkingRebind _ => true
  | _ => false

/-- The last step of a transition: what it leaves of the entry. -/
inductive Ending (state : State Uri Server Target) (uri : Uri) :
    Running Uri Server → State Uri Server Target → Prop where
  | superseded (stage : Running Uri Server) (checks : stage.checks = true)
      (stale : ∀ entry, state.entries uri = some entry →
        entry.generation ≠ stage.transition.generation) :
      Ending state uri stage (state.setRunning uri none)
  | subscribeConfirmed (transition : SubscribeTransition Uri Server) :
      Ending state uri (.confirming transition true)
        ((state.setRunning uri none).confirm uri transition.generation
          transition.upstream.serverId (some transition.upstream.connectionGeneration))
  | drained (transition : DrainTransition Uri Server) :
      Ending state uri (.removing transition)
        ((state.setRunning uri none).removeIf uri transition.generation)
  | rebindConfirmed (transition : RebindTransition Uri Server) :
      Ending state uri (.concluding transition false)
        ((state.setRunning uri none).confirm uri transition.generation transition.newServerId
          transition.newOwner.toOption)
  | rebindAbandoned (transition : RebindTransition Uri Server) :
      Ending state uri (.concluding transition true)
        ((state.setRunning uri none).removeIf uri transition.generation)

/-- The migration an action asks for. -/
inductive Migration (state : State Uri Server Target) (uri : Uri) (newServerId : Server)
    (supportsSubscribe : Bool) :
    Action Uri Server Target → Option (Upstream Server) → Bool → Prop where
  | rebind (oldServer : Server) :
      Migration state uri newServerId supportsSubscribe
        (.rebind uri oldServer newServerId supportsSubscribe) (state.getUpstream oldServer) true
  | resubscribe :
      Migration state uri newServerId supportsSubscribe
        (.resubscribe uri newServerId supportsSubscribe) none false

/-- The URI a request names. The steps of the transitions are scheduled by URI
or queue position and name none. -/
def Action.requested : Action Uri Server Target → Option Uri
  | .subscribe uri _ _ => some uri
  | .unsubscribe uri _ _ => some uri
  | .cleanup uri _ _ => some uri
  | .prune uri _ => some uri
  | .rebind uri _ _ _ => some uri
  | .resubscribe uri _ _ => some uri
  | .start _ => none
  | .advance _ _ => none
  | .reconnect _ _ => none

/-- Everything one step of an undisturbed run can do to the registry, and the
one URI it does it to. -/
inductive Effect (state : State Uri Server Target) :
    Action Uri Server Target → Uri → State Uri Server Target → Prop where
  | unchanged (action : Action Uri Server Target) (uri : Uri) : Effect state action uri state
  | joined (action : Action Uri Server Target) (uri : Uri) (entry : Entry Server Target)
      (members : Finset Target) (present : state.entries uri = some entry)
      (nonempty : (∀ prior, entry.state ≠ .draining prior) → members.Nonempty) :
      Effect state action uri (state.setEntry uri (some { entry with members }))
  | marked (action : Action Uri Server Target) (uri : Uri) (entry : Entry Server Target)
      (members : Finset Target) (upstream : Option (Upstream Server))
      (requested : action.requested = some uri) (present : state.entries uri = some entry) :
      Effect state action uri
        ((state.setEntry uri (some { entry with members }.markDraining)).spawn
          (.drain { uri, generation := entry.generation, upstream }))
  | subscribed (uri : Uri) (target : Target) (upstream : Upstream Server)
      (displacedOwner : Option Server)
      (takenOver : (state.entries uri = none ∧ displacedOwner = none) ∨
        ∃ entry, state.entries uri = some entry ∧ entry.state = .draining displacedOwner)
      (current : state.connection upstream.serverId = some upstream.connectionGeneration) :
      Effect state (.subscribe uri target upstream.serverId) uri
        (startSubscribe state uri {target} upstream displacedOwner)
  | migrated (action : Action Uri Server Target) (uri : Uri) (entry : Entry Server Target)
      (oldUpstream : Option (Upstream Server)) (newServerId : Server) (supportsSubscribe : Bool)
      (releaseOldOwner : Bool)
      (migration : Migration state uri newServerId supportsSubscribe action oldUpstream
        releaseOldOwner)
      (present : state.entries uri = some entry) (nonempty : entry.members ≠ ∅)
      (different : entry.equivalentPending newServerId = false) :
      Effect state action uri ((state.allot uri fun generation =>
        { entry with generation, state := .pending newServerId }).spawn
        (.rebind { uri, generation := state.nextGeneration, oldUpstream, newServerId,
                   newOwner := state.resolveRebindOwner newServerId supportsSubscribe,
                   releaseOldOwner }))
  | emptied (action : Action Uri Server Target) (uri : Uri) (entry : Entry Server Target)
      (oldUpstream : Option (Upstream Server)) (requested : action.requested = some uri)
      (present : state.entries uri = some entry) :
      Effect state action uri ((state.allot uri fun generation =>
        { entry.markDraining with generation }).spawn
        (.drain { uri, generation := state.nextGeneration, upstream := oldUpstream }))
  | started (index : Nat) (transition : Transition Uri Server)
      (queued : state.queued[index]? = some transition)
      (free : state.running transition.uri = none) :
      Effect state (.start index) transition.uri { state with
        queued := state.queued.eraseIdx index
        running := Function.update state.running transition.uri (some transition.start) }
  | progressed (uri : Uri) (stage following : Running Uri Server) (held : Server → Uri → Bool)
      (running : state.running uri = some stage)
      (progress : Progress state uri stage following held) :
      Effect state (.advance uri true) uri { state with
        running := Function.update state.running uri (some following), held := held }
  | ended (uri : Uri) (stage : Running Uri Server) (next : State Uri Server Target)
      (running : state.running uri = some stage) (ending : Ending state uri stage next) :
      Effect state (.advance uri true) uri next

theorem getUpstream_eq_some (state : State Uri Server Target) (server : Server)
    (upstream : Upstream Server) (resolved : state.getUpstream server = some upstream) :
    upstream.serverId = server ∧
      state.connection server = some upstream.connectionGeneration := by
  obtain ⟨generation, found, rfl⟩ := Option.map_eq_some_iff.mp resolved
  exact ⟨rfl, found⟩

/-- A connected server is resolved. -/
theorem getUpstream_connected (state : State Uri Server Target) (server : Server)
    (connected : (state.connection server).isSome = true) :
    ∃ upstream, state.getUpstream server = some upstream ∧ upstream.serverId = server := by
  obtain ⟨generation, found⟩ := Option.isSome_iff_exists.mp connected
  exact ⟨⟨server, generation⟩, by simp [State.getUpstream, found], rfl⟩

/-- Nothing is healed while connections stay: an owner recorded on the server
of a current handle was confirmed on that very connection. -/
theorem ownerConnectionReplaced_eq_false (state : State Uri Server Target) (uri : Uri)
    (entry : Entry Server Target) (upstream : Upstream Server) (wellFormed : WellFormed state)
    (present : state.entries uri = some entry)
    (current : state.connection upstream.serverId = some upstream.connectionGeneration) :
    entry.ownerConnectionReplaced upstream = false := by
  unfold Entry.ownerConnectionReplaced
  by_cases owned : entry.ownerServerId = some upstream.serverId
  · have recorded := (wellFormed.fits uri entry present).ownerConnection upstream.serverId owned
    simp [recorded, current]
  · simp [owned]

/-- Joining and superseding are the outcomes of `subscribe`. -/
theorem subscribe_effect (state : State Uri Server Target) (uri : Uri) (target : Target)
    (upstream : Upstream Server) (wellFormed : WellFormed state)
    (current : state.connection upstream.serverId = some upstream.connectionGeneration) :
    Effect state (.subscribe uri target upstream.serverId) uri
      (subscribe state uri target upstream) := by
  unfold subscribe
  split
  · rename_i absent
    exact .subscribed uri target upstream none (.inl ⟨absent, rfl⟩) current
  · rename_i entry present
    split
    · have unreplaced :=
        ownerConnectionReplaced_eq_false state uri entry upstream wellFormed present current
      rw [if_neg (by simp [unreplaced])]
      exact .joined _ uri entry _ present fun _ => Finset.insert_nonempty target _
    · exact .joined _ uri entry _ present fun _ => Finset.insert_nonempty target _
    · rename_i prior draining
      exact .subscribed uri target upstream prior (.inr ⟨entry, present, draining⟩) current

theorem leave_effect (state : State Uri Server Target) (action : Action Uri Server Target)
    (uri : Uri) (target : Target) (upstream : Option (Upstream Server))
    (requested : action.requested = some uri) :
    Effect state action uri (leave state uri target upstream) := by
  unfold leave
  split
  · exact .unchanged action uri
  · rename_i entry present
    dsimp only
    split
    · rename_i prior draining
      exact .joined action uri entry _ present fun settled => absurd draining (settled prior)
    · split
      · exact .marked action uri entry _ upstream requested present
      · rename_i remaining
        exact .joined action uri entry _ present fun _ =>
          Finset.nonempty_iff_ne_empty.mpr remaining

theorem prune_effect (state : State Uri Server Target) (action : Action Uri Server Target)
    (uri : Uri) (upstream : Option (Upstream Server)) (requested : action.requested = some uri) :
    Effect state action uri (prune state uri upstream) := by
  unfold prune
  split
  · exact .unchanged action uri
  · rename_i entry present
    exact .marked action uri entry entry.members upstream requested present

variable {state next : State Uri Server Target}

theorem Migration.requested {uri : Uri} {newServerId : Server} {supportsSubscribe : Bool}
    {action : Action Uri Server Target} {oldUpstream : Option (Upstream Server)}
    {releaseOldOwner : Bool}
    (migration : Migration state uri newServerId supportsSubscribe action oldUpstream
      releaseOldOwner) : action.requested = some uri := by
  cases migration <;> rfl

/-- A migration joins, drains an entry without members, or supersedes. -/
theorem migrate_effect (state : State Uri Server Target) (action : Action Uri Server Target)
    (uri : Uri) (oldUpstream : Option (Upstream Server)) (newServerId : Server)
    (supportsSubscribe releaseOldOwner : Bool)
    (migration : Migration state uri newServerId supportsSubscribe action oldUpstream
      releaseOldOwner) :
    Effect state action uri (migrate state uri oldUpstream newServerId
      (state.resolveRebindOwner newServerId supportsSubscribe) releaseOldOwner) := by
  unfold migrate
  split
  · exact .unchanged action uri
  · rename_i entry present
    split
    · exact .unchanged action uri
    · rename_i different
      split
      · exact .emptied action uri entry oldUpstream migration.requested present
      · rename_i remaining
        exact .migrated action uri entry oldUpstream newServerId supportsSubscribe releaseOldOwner
          migration present remaining (by simpa using different)

/-- A resolved rebind owner names the current connection of its server. -/
theorem resolveRebindOwner_current (state : State Uri Server Target) (newServerId : Server)
    (supportsSubscribe : Bool) (generation : Nat)
    (resolved : state.resolveRebindOwner newServerId supportsSubscribe = .ok generation) :
    state.connection newServerId = some generation := by
  unfold State.resolveRebindOwner at resolved
  split at resolved
  · cases resolved
  · rename_i found connection
    split at resolved
    · rw [connection, Except.ok.inj resolved]
    · cases resolved

/-- A transition whose generation check fails has been superseded. -/
theorem stillCurrent_eq_none (state : State Uri Server Target) (uri : Uri) (generation : Nat) :
    state.stillCurrent uri generation = none ↔
      ∀ entry, state.entries uri = some entry → entry.generation ≠ generation := by
  unfold State.stillCurrent
  split
  · rename_i entry present
    by_cases same : entry.generation = generation <;> simp [same, present]
  · rename_i absent
    simp [absent]

theorem stillCurrent_eq_some (state : State Uri Server Target) (uri : Uri) (generation : Nat)
    (owner : Option Server) (current : state.stillCurrent uri generation = some owner) :
    ∃ entry, state.entries uri = some entry ∧ entry.generation = generation ∧
      entry.ownerServerId = owner := by
  unfold State.stillCurrent at current
  split at current
  · rename_i entry present
    split at current
    · rename_i same
      exact ⟨entry, present, same, Option.some.inj current⟩
    · cases current
  · cases current

/-- A successful call changes nothing but what its server holds. -/
theorem call_succeeded (state next : State Uri Server Target) (handle : Upstream Server) (uri : Uri)
    (subscribed : Bool) (called : state.call handle uri subscribed true = some next) :
    next = state.setHeld handle.serverId uri subscribed := by
  unfold State.call at called
  simp only [if_true] at called
  split at called
  · exact (Option.some.inj called).symm
  · cases called

/-- The steps of the three transition bodies, one case for each phase. -/
theorem advance_effect (state next : State Uri Server Target) (uri : Uri)
    (wellFormed : WellFormed state) (advanced : advance state uri true = some next) :
    Effect state (.advance uri true) uri next := by
  unfold advance at advanced
  split at advanced
  · cases advanced
  · rename_i transition running
    have quiet (kept : ∀ previous, transition.displacedOwner = some previous →
        previous = transition.upstream.serverId) :
        some (state.setRunning uri (some (.checkingSubscribe transition))) = some next →
        Effect state (.advance uri true) uri next := by
      intro same
      cases same
      exact .progressed uri _ _ _ running (.nothingDisplaced transition kept)
    dsimp only at advanced
    split at advanced
    · rename_i none
      exact quiet (by simp [none]) advanced
    · rename_i previous displaced
      split at advanced
      · rename_i same
        refine quiet ?_ advanced
        intro other displacedOther
        rw [displaced] at displacedOther
        exact Option.some.inj displacedOther ▸ same
      · rename_i other
        obtain ⟨handle, resolved, named⟩ :=
          getUpstream_connected state previous (wellFormed.connected previous)
        simp only [State.drainHandle, resolved] at advanced
        obtain rfl := call_succeeded _ _ handle uri false advanced
        rw [named]
        exact .progressed uri _ _ _ running
          (.displacedReleased transition previous displaced other)
  · rename_i transition running
    split at advanced
    · rename_i stale
      cases advanced
      exact .ended uri _ _ running
        (.superseded _ rfl ((stillCurrent_eq_none state uri _).mp stale))
    · rename_i owner current
      obtain ⟨entry, present, same, -⟩ := stillCurrent_eq_some state uri _ owner current
      cases advanced
      exact .progressed uri _ _ _ running (.subscribeChecked transition entry present same)
  · rename_i transition running
    obtain rfl := call_succeeded _ _ transition.upstream uri true advanced
    exact .progressed uri _ _ _ running (.subscribeCalled transition)
  · rename_i transition succeeded running
    have confirmed := wellFormed.confirmations uri transition succeeded running
    subst confirmed
    cases advanced
    exact .ended uri _ _ running (.subscribeConfirmed transition)
  · rename_i transition running
    split at advanced
    · rename_i stale
      cases advanced
      exact .ended uri _ _ running
        (.superseded _ rfl ((stillCurrent_eq_none state uri _).mp stale))
    · rename_i owner current
      obtain ⟨entry, present, same, rfl⟩ := stillCurrent_eq_some state uri _ owner current
      cases advanced
      exact .progressed uri _ _ _ running (.drainChecked transition entry present same)
  · rename_i transition handle running
    cases handle with
    | none =>
      cases advanced
      exact .progressed uri _ _ _ running (.nothingToUnsubscribe transition)
    | some handle =>
      obtain rfl := call_succeeded _ _ handle uri false advanced
      exact .progressed uri _ _ _ running (.unsubscribeCalled transition handle)
  · rename_i transition running
    cases advanced
    exact .ended uri _ _ running (.drained transition)
  · rename_i transition running
    split at advanced
    · rename_i stale
      cases advanced
      exact .ended uri _ _ running
        (.superseded _ rfl ((stillCurrent_eq_none state uri _).mp stale))
    · rename_i owner current
      obtain ⟨entry, present, same, rfl⟩ := stillCurrent_eq_some state uri _ owner current
      cases advanced
      exact .progressed uri _ _ _ running (.rebindChecked transition entry present same)
  · rename_i transition handle running
    cases handle with
    | none =>
      cases advanced
      exact .progressed uri _ _ _ running (.nothingToRelease transition)
    | some handle =>
      obtain rfl := call_succeeded _ _ handle uri false advanced
      exact .progressed uri _ _ _ running (.oldReleased transition handle)
  · rename_i transition running
    split at advanced
    · rename_i reason unusable
      cases advanced
      exact .progressed uri _ _ _ running (.resubscribeSkipped transition reason unusable)
    · rename_i generation usable
      obtain rfl := call_succeeded _ _ _ uri true advanced
      exact .progressed uri _ _ _ running (.resubscribeCalled transition generation usable)
  · rename_i transition failed running
    cases failed with
    | true =>
      cases advanced
      exact .ended uri _ _ running (.rebindAbandoned transition)
    | false =>
      cases advanced
      exact .ended uri _ _ running (.rebindConfirmed transition)

theorem start_effect (state next : State Uri Server Target) (index : Nat)
    (started : start state index = some next) : ∃ uri, Effect state (.start index) uri next := by
  unfold start at started
  split at started
  · cases started
  · rename_i transition queued
    split at started
    · cases started
    · rename_i free
      cases started
      exact ⟨transition.uri, .started index transition queued free⟩

/-- Every step of an undisturbed run is one of the effects. -/
theorem step_effect (state next : State Uri Server Target) (action : Action Uri Server Target)
    (wellFormed : WellFormed state) (undisturbed : Undisturbed action)
    (stepped : step state action = some next) : ∃ uri, Effect state action uri next := by
  cases action with
  | subscribe uri target server =>
    obtain ⟨upstream, resolved, named⟩ :=
      getUpstream_connected state server (wellFormed.connected server)
    simp only [step, resolved] at stepped
    cases stepped
    have current := (getUpstream_eq_some state server upstream resolved).2
    subst named
    exact ⟨uri, subscribe_effect state uri target upstream wellFormed current⟩
  | unsubscribe uri target route =>
    cases stepped
    exact ⟨uri, leave_effect state _ uri target _ rfl⟩
  | cleanup uri target route =>
    cases stepped
    exact ⟨uri, leave_effect state _ uri target _ rfl⟩
  | prune uri oldServer =>
    cases stepped
    exact ⟨uri, prune_effect state _ uri _ rfl⟩
  | rebind uri oldServer newServer supportsSubscribe =>
    cases stepped
    exact ⟨uri, migrate_effect state _ uri _ newServer supportsSubscribe true (.rebind oldServer)⟩
  | resubscribe uri server supportsSubscribe =>
    cases stepped
    exact ⟨uri, migrate_effect state _ uri _ server supportsSubscribe false .resubscribe⟩
  | start index => exact start_effect state next index stepped
  | advance uri succeeds =>
    obtain rfl : succeeds = true := undisturbed
    exact ⟨uri, advance_effect state next uri wellFormed stepped⟩
  | reconnect server connection => exact absurd undisturbed id

@[simp] theorem setHeld_held_eq (state : State Uri Server Target) (server other : Server)
    (uri : Uri) (holds : Bool) :
    (state.setHeld server uri holds).held other uri =
      if other = server then holds else state.held other uri := by
  by_cases same : other = server
  · subst same
    simp [State.setHeld]
  · simp [State.setHeld, same]

theorem setHeld_held_ne (state : State Uri Server Target) (server other : Server)
    (uri elsewhere : Uri) (holds : Bool) (different : elsewhere ≠ uri) :
    (state.setHeld server uri holds).held other elsewhere = state.held other elsewhere := by
  by_cases same : other = server
  · subst same
    simp [State.setHeld, different]
  · simp [State.setHeld, same]

/-- Ending a transition makes no upstream call and spawns nothing. -/
theorem Ending.quiet {uri : Uri} {stage : Running Uri Server}
    (ending : Ending state uri stage next) :
    next.held = state.held ∧ next.queued = state.queued ∧ next.running uri = none := by
  have released : (state.setRunning uri none).running uri = none := by simp
  cases ending with
  | superseded => exact ⟨rfl, rfl, released⟩
  | subscribeConfirmed | rebindConfirmed =>
    unfold State.confirm
    repeat' split
    all_goals exact ⟨rfl, rfl, released⟩
  | drained | rebindAbandoned =>
    unfold State.removeIf
    repeat' split
    all_goals exact ⟨rfl, rfl, released⟩

/-- Two states agree on everything that concerns one URI. -/
structure Agrees (state next : State Uri Server Target) (uri : Uri) : Prop where
  entries : next.entries uri = state.entries uri
  running : next.running uri = state.running uri
  held : ∀ server, next.held server uri = state.held server uri
  queued : ∀ transition, transition.uri = uri →
    (transition ∈ next.queued ↔ transition ∈ state.queued)

/-- An entry is written and a transition spawned for another URI. -/
theorem agrees_spawned (state : State Uri Server Target) (here uri : Uri)
    (entry : Option (Entry Server Target)) (nextGeneration : Nat)
    (spawned : Transition Uri Server) (named : spawned.uri = here) (different : uri ≠ here) :
    Agrees state ({ state with
      nextGeneration, entries := Function.update state.entries here entry }.spawn spawned) uri where
  entries := Function.update_of_ne different _ _
  running := rfl
  held := fun _ => rfl
  queued := by
    intro transition concerned
    have other : transition ≠ spawned := by
      rintro rfl
      exact different (concerned.symm.trans named)
    simp [State.spawn, other]

theorem Ending.agrees {here : Uri} {stage : Running Uri Server}
    (ending : Ending state here stage next) (uri : Uri) (different : uri ≠ here) :
    Agrees state next uri := by
  have kept : ∀ entry, Agrees state ((state.setRunning here none).setEntry here entry) uri :=
    fun entry => ⟨Function.update_of_ne different _ _, Function.update_of_ne different _ _,
      fun _ => rfl, fun _ _ => Iff.rfl⟩
  have released : Agrees state (state.setRunning here none) uri :=
    ⟨rfl, Function.update_of_ne different _ _, fun _ => rfl, fun _ _ => Iff.rfl⟩
  cases ending with
  | superseded => exact released
  | subscribeConfirmed | rebindConfirmed =>
    unfold State.confirm
    repeat' split
    all_goals first | exact kept _ | exact released
  | drained | rebindAbandoned =>
    unfold State.removeIf
    repeat' split
    all_goals first | exact kept _ | exact released

/-- A step changes nothing that concerns another URI. -/
theorem Effect.agrees {action : Action Uri Server Target} {here : Uri}
    (effect : Effect state action here next) (uri : Uri) (different : uri ≠ here) :
    Agrees state next uri := by
  cases effect with
  | unchanged => exact ⟨rfl, rfl, fun _ => rfl, fun _ _ => Iff.rfl⟩
  | joined =>
    exact ⟨Function.update_of_ne different _ _, rfl, fun _ => rfl, fun _ _ => Iff.rfl⟩
  | marked => exact agrees_spawned state here uri _ _ _ rfl different
  | subscribed => exact agrees_spawned state here uri _ _ _ rfl different
  | migrated => exact agrees_spawned state here uri _ _ _ rfl different
  | emptied => exact agrees_spawned state here uri _ _ _ rfl different
  | started index started queued free =>
    refine ⟨rfl, Function.update_of_ne different _ _, fun _ => rfl, ?_⟩
    intro transition concerned
    have other : transition ≠ started := by
      rintro rfl
      exact different concerned.symm
    simp [Runs.mem_iff_eraseIdx queued, other]
  | progressed _ stage following held running progress =>
    refine ⟨rfl, Function.update_of_ne different _ _, ?_, fun _ _ => Iff.rfl⟩
    intro server
    cases progress <;> first | rfl | exact setHeld_held_ne state _ server here uri _ different
  | ended _ stage next running ending => exact ending.agrees uri different

/-- A URI that no request has named is at rest. -/
def Idle (state : State Uri Server Target) (uri : Uri) : Prop :=
  state.running uri = none ∧ ∀ transition ∈ state.queued, transition.uri ≠ uri

/-- A step on behalf of no request for a URI leaves it at rest. -/
theorem Effect.idle {action : Action Uri Server Target} {here : Uri}
    (effect : Effect state action here next) (uri : Uri) (idle : Idle state uri)
    (unnamed : action.requested ≠ some uri) : Idle next uri := by
  by_cases same : uri = here
  · subst same
    cases effect with
    | unchanged => exact idle
    | joined => exact idle
    | marked _ _ _ _ _ requested => exact absurd requested unnamed
    | subscribed => exact absurd rfl unnamed
    | migrated _ _ _ _ _ _ _ migration => exact absurd migration.requested unnamed
    | emptied _ _ _ _ requested => exact absurd requested unnamed
    | started index transition queued =>
      exact absurd rfl (idle.2 transition (List.mem_of_getElem? queued))
    | progressed _ stage _ _ running => simp [idle.1] at running
    | ended _ stage _ running => simp [idle.1] at running
  · have agrees := effect.agrees uri same
    refine ⟨agrees.running.trans idle.1, ?_⟩
    intro transition queued concerned
    exact idle.2 transition ((agrees.queued transition concerned).mp queued) concerned

end Effects

end Plug.Subscriptions
