import Plug.SubscriptionDelivery
import Mathlib.Data.Fintype.Basic

/-!
# No server is left holding a subscription

A server may hold a subscription without being an entry's owner only while some
transition is bound to release it. Each transition past its generation check is
committed to its calls, so what a server will hold once they are made is known:
`willHold`. What is left over has to be released by a queued subscriber
(`releaseQueued`) or belong to the entry.

An entry remembers one server to release. Superseding it is safe when every
other server that will hold the subscription is released by someone else;
`CarriesOwners` states this for the three places where a transition takes over
an entry. The source does not check it, and a rebind that lands while the entry
is drained leaves the drain's server behind.
-/

set_option linter.unusedSectionVars false

namespace Plug.Subscriptions

variable {Uri Server Target : Type}

/-- The server a rebind will subscribe. -/
def RebindTransition.target (transition : RebindTransition Uri Server) : Option Server :=
  match transition.newOwner with
  | .ok _ => some transition.newServerId
  | .error _ => none

section Definitions

variable [DecidableEq Uri] [DecidableEq Server] [DecidableEq Target]

/-- Whether `server` holds the subscription once the calls that the transition
is committed to have been made. -/
def Running.settles (server : Server) (holds : Bool) : Running Uri Server → Bool
  | .releasingDisplaced transition => holds && transition.released != some server
  | .subscribing transition => holds || transition.upstream.serverId == server
  | .unsubscribing _ handle => holds && handle.map Upstream.serverId != some server
  | .releasingOld transition handle =>
    (holds && handle.map Upstream.serverId != some server) || transition.target == some server
  | .resubscribing transition => holds || transition.target == some server
  | _ => holds

/-- The server a queued transition is bound to release whether or not it is
still current. -/
def Transition.releases : Transition Uri Server → Option Server
  | .subscribe transition => transition.released
  | _ => none

def willHold (state : State Uri Server Target) (uri : Uri) (server : Server) : Bool :=
  match state.running uri with
  | none => state.held server uri
  | some stage => stage.settles server (state.held server uri)

/-- A queued subscriber is bound to release the server. -/
def releaseQueued (state : State Uri Server Target) (uri : Uri) (server : Server) : Prop :=
  ∃ transition ∈ state.queued, transition.uri = uri ∧ transition.releases = some server

instance (state : State Uri Server Target) (uri : Uri) (server : Server) :
    Decidable (releaseQueued state uri server) :=
  List.decidableBEx _ _

/-- Every server that will hold the subscription is accepted or on its way out. -/
def Covered (state : State Uri Server Target) (uri : Uri) (accepted : Server → Prop) : Prop :=
  ∀ server, willHold state uri server = true →
    accepted server ∨ releaseQueued state uri server

instance [Fintype Server] (state : State Uri Server Target) (uri : Uri)
    (accepted : Server → Prop) [DecidablePred accepted] : Decidable (Covered state uri accepted) :=
  Fintype.decidableForallFintype

/-- The server a draining entry remembers for a superseding subscriber. -/
def Entry.remembered (entry : Entry Server Target) : Option (Option Server) :=
  match entry.state with
  | .draining priorOwner => some priorOwner
  | _ => none

/-- The drain about to pass its generation check, with the entry it finds. -/
def State.passingDrain (state : State Uri Server Target) (uri : Uri) :
    Option (DrainTransition Uri Server × Entry Server Target) :=
  match state.running uri, state.entries uri with
  | some (.checkingDrain transition), some entry =>
    if entry.generation = transition.generation then some (transition, entry) else none
  | _, _ => none

/-- Taking over an entry loses no server: what the superseded transitions leave
behind is the one the entry remembers. The condition is on the state a
subscriber, a migration or a drain's check finds. -/
def CarriesOwners (state : State Uri Server Target) : Action Uri Server Target → Prop
  | .subscribe uri _ server =>
      ∀ entry ∈ state.entries uri, ∀ prior ∈ entry.remembered,
        Covered state uri fun holder => holder = server ∨ prior = some holder
  | .rebind uri oldServer newServer supportsSubscribe =>
      ∀ entry ∈ state.entries uri, entry.members ≠ ∅ →
        entry.equivalentPending newServer = false →
        Covered state uri fun holder => (supportsSubscribe = true ∧ holder = newServer) ∨
          entry.ownerServerId.or (some oldServer) = some holder
  | .resubscribe uri server supportsSubscribe =>
      ∀ entry ∈ state.entries uri, entry.members ≠ ∅ →
        entry.equivalentPending server = false →
        Covered state uri fun holder => supportsSubscribe = true ∧ holder = server
  | .advance uri _ =>
      ∀ passing ∈ state.passingDrain uri,
        Covered state uri fun holder =>
          passing.2.ownerServerId.or (passing.1.upstream.map Upstream.serverId) = some holder
  | _ => True

instance [Fintype Server] (state : State Uri Server Target) :
    DecidablePred (CarriesOwners state)
  | .subscribe uri _ server => inferInstanceAs (Decidable (∀ entry ∈ state.entries uri,
      ∀ prior ∈ entry.remembered,
        Covered state uri fun holder => holder = server ∨ prior = some holder))
  | .rebind uri oldServer newServer supportsSubscribe =>
      inferInstanceAs (Decidable (∀ entry ∈ state.entries uri, entry.members ≠ ∅ →
        entry.equivalentPending newServer = false →
        Covered state uri fun holder => (supportsSubscribe = true ∧ holder = newServer) ∨
          entry.ownerServerId.or (some oldServer) = some holder))
  | .resubscribe uri server supportsSubscribe =>
      inferInstanceAs (Decidable (∀ entry ∈ state.entries uri, entry.members ≠ ∅ →
        entry.equivalentPending server = false →
        Covered state uri fun holder => supportsSubscribe = true ∧ holder = server))
  | .advance uri _ => inferInstanceAs (Decidable (∀ passing ∈ state.passingDrain uri,
      Covered state uri fun holder =>
        passing.2.ownerServerId.or (passing.1.upstream.map Upstream.serverId) = some holder))
  | .unsubscribe _ _ _ => isTrue trivial
  | .cleanup _ _ _ => isTrue trivial
  | .prune _ _ => isTrue trivial
  | .start _ => isTrue trivial
  | .reconnect _ _ => isTrue trivial

/-- The servers a current transition leaves subscribed or has yet to release. -/
def Running.accounts (owner : Option Server) (server : Server) : Running Uri Server → Prop
  | .releasingDisplaced transition => server = transition.upstream.serverId
  | .checkingSubscribe transition => server = transition.upstream.serverId
  | .subscribing transition => server = transition.upstream.serverId
  | .confirming transition _ => server = transition.upstream.serverId
  | .checkingDrain _ => True
  | .unsubscribing _ _ => False
  | .removing _ => False
  | .checkingRebind transition => transition.target = some server ∨
      (transition.releaseOldOwner = true ∧
        owner.or (transition.oldUpstream.map Upstream.serverId) = some server)
  | .releasingOld transition _ => transition.target = some server
  | .resubscribing transition => transition.target = some server
  | .concluding transition _ => transition.target = some server

/-- Every server that will hold the URI's subscription is on its way out, is the
owner of an active entry, or is accounted for by each current transition. -/
structure Accounted (state : State Uri Server Target) (uri : Uri) : Prop where
  absent : state.entries uri = none → Covered state uri fun _ => False
  active : ∀ entry, state.entries uri = some entry → entry.state = .active →
    Covered state uri fun server => entry.ownerServerId = some server
  queued : ∀ transition entry, transition ∈ state.queued → transition.uri = uri →
    state.entries uri = some entry → entry.generation = transition.generation →
    Covered state uri fun server => transition.start.accounts entry.ownerServerId server
  running : ∀ stage entry, state.running uri = some stage → state.entries uri = some entry →
    entry.generation = stage.transition.generation →
    Covered state uri fun server => stage.accounts entry.ownerServerId server

theorem Covered.mono {state : State Uri Server Target} {uri : Uri}
    {accepted wider : Server → Prop} (covered : Covered state uri accepted)
    (widen : ∀ server, accepted server → wider server) : Covered state uri wider := by
  intro server holds
  exact (covered server holds).imp_left (widen server)

/-- What covers a state covers another in which no more servers will hold the
subscription and no duty to release one is dropped. -/
theorem Covered.transfer {state next : State Uri Server Target} {uri : Uri}
    {accepted : Server → Prop} (covered : Covered state uri accepted)
    (holds : ∀ server, willHold next uri server = true → willHold state uri server = true)
    (released : ∀ server, willHold next uri server = true → releaseQueued state uri server →
      releaseQueued next uri server) : Covered next uri accepted := by
  intro server held
  exact (covered server (holds server held)).imp_right (released server held)

/-- What holds of a URI depends on nothing else. -/
theorem Accounted.congr {state next : State Uri Server Target} {uri : Uri}
    (accounted : Accounted state uri) (agrees : Agrees state next uri) : Accounted next uri := by
  have covered : ∀ {accepted : Server → Prop}, Covered state uri accepted →
      Covered next uri accepted := by
    intro accepted before
    refine before.transfer ?_ ?_
    · intro server
      simp only [willHold, agrees.running, agrees.held]
      exact id
    · rintro server - ⟨transition, queued, concerned, released⟩
      exact ⟨transition, (agrees.queued transition concerned).mpr queued, concerned, released⟩
  constructor
  · intro absent
    exact covered (accounted.absent (agrees.entries ▸ absent))
  · intro entry present active
    exact covered (accounted.active entry (agrees.entries ▸ present) active)
  · intro transition entry queued concerned present same
    exact covered (accounted.queued transition entry ((agrees.queued _ concerned).mp queued)
      concerned (agrees.entries ▸ present) same)
  · intro stage entry running present same
    exact covered (accounted.running stage entry (agrees.running ▸ running)
      (agrees.entries ▸ present) same)

end Definitions

section Preservation

variable [DecidableEq Uri] [DecidableEq Server] [DecidableEq Target]

theorem releaseQueued_spawn (state : State Uri Server Target) (uri : Uri) (server : Server)
    (spawned : Transition Uri Server) (released : releaseQueued state uri server) :
    releaseQueued (state.spawn spawned) uri server := by
  obtain ⟨transition, queued, concerned, releases⟩ := released
  exact ⟨transition, List.mem_append_left _ queued, concerned, releases⟩

/-- A handle resolved for a drain or a rebind belongs to the server named. -/
theorem drainHandle_serverId (state : State Uri Server Target) (owner : Option Server)
    (fallback : Option (Upstream Server))
    (connected : ∀ server, (state.connection server).isSome = true) :
    (state.drainHandle owner fallback).map Upstream.serverId =
      owner.or (fallback.map Upstream.serverId) := by
  cases owner with
  | none => simp [State.drainHandle]
  | some server =>
    obtain ⟨upstream, resolved, named⟩ := getUpstream_connected state server (connected server)
    simp [State.drainHandle, resolved, named]

/-- An entry is written on a fresh generation with its own transition: only what
that transition accounts for matters. -/
theorem accounted_renewed (state : State Uri Server Target) (uri : Uri)
    (entry : Nat → Entry Server Target) (spawned : Transition Uri Server)
    (wellFormed : WellFormed state)
    (generation : (entry state.nextGeneration).generation = state.nextGeneration)
    (inactive : (entry state.nextGeneration).state ≠ .active)
    (covered : Covered ((state.allot uri entry).spawn spawned) uri fun server =>
      spawned.start.accounts (entry state.nextGeneration).ownerServerId server) :
    Accounted ((state.allot uri entry).spawn spawned) uri := by
  have written : ((state.allot uri entry).spawn spawned).entries uri =
      some (entry state.nextGeneration) := by
    simp [State.allot, State.spawn]
  have older : ∀ transition, Unfinished state uri transition →
      (entry state.nextGeneration).generation ≠ transition.generation := by
    intro transition unfinished same
    have := wellFormed.bound uri transition unfinished
    omega
  constructor
  · intro absent
    simp [written] at absent
  · intro current present active
    obtain rfl := Option.some.inj (written.symm.trans present)
    exact absurd active inactive
  · intro transition current queued concerned present same
    obtain rfl := Option.some.inj (written.symm.trans present)
    cases List.mem_append.mp queued with
    | inl before => exact absurd same (older transition (.inr ⟨before, concerned⟩))
    | inr last =>
      obtain rfl := List.mem_singleton.mp last
      exact covered
  · intro stage current running present same
    obtain rfl := Option.some.inj (written.symm.trans present)
    have unchanged : state.running uri = some stage := running
    exact absurd same (older stage.transition (.inl (by rw [unchanged, Option.map_some])))

/-- Marking keeps the generation and the owner; its drain may release anything. -/
theorem accounted_marked (state : State Uri Server Target) (uri : Uri)
    (entry : Entry Server Target) (members : Finset Target) (upstream : Option (Upstream Server))
    (present : state.entries uri = some entry) (accounted : Accounted state uri) :
    Accounted ((state.setEntry uri (some { entry with members }.markDraining)).spawn
      (.drain { uri, generation := entry.generation, upstream })) uri := by
  let next := (state.setEntry uri (some { entry with members }.markDraining)).spawn
    (.drain { uri, generation := entry.generation, upstream })
  have written : next.entries uri = some { entry with members }.markDraining := by
    simp [next, State.spawn]
  have covered : ∀ {accepted : Server → Prop}, Covered state uri accepted →
      Covered next uri accepted := fun before =>
    before.transfer (fun _ => id) fun server _ => releaseQueued_spawn state uri server _
  constructor
  · intro absent
    exact absurd (written.symm.trans absent) (by simp)
  · intro current isCurrent active
    obtain rfl := Option.some.inj (written.symm.trans isCurrent)
    cases active
  · intro transition current queued concerned isCurrent same
    obtain rfl := Option.some.inj (written.symm.trans isCurrent)
    cases List.mem_append.mp queued with
    | inl before => exact covered (accounted.queued transition entry before concerned present same)
    | inr last =>
      obtain rfl := List.mem_singleton.mp last
      exact fun _ _ => .inl trivial
  · intro stage current running isCurrent same
    obtain rfl := Option.some.inj (written.symm.trans isCurrent)
    exact covered (accounted.running stage entry running present same)

/-- A new subscriber accounts for its own server, and releases the one the
entry remembered. -/
theorem accounted_subscribed (state : State Uri Server Target) (uri : Uri) (target : Target)
    (upstream : Upstream Server) (displacedOwner : Option Server) (wellFormed : WellFormed state)
    (takenOver : (state.entries uri = none ∧ displacedOwner = none) ∨
      ∃ entry, state.entries uri = some entry ∧ entry.state = .draining displacedOwner)
    (carries : CarriesOwners state (.subscribe uri target upstream.serverId))
    (accounted : Accounted state uri) :
    Accounted (startSubscribe state uri {target} upstream displacedOwner) uri := by
  refine accounted_renewed state uri _ _ wellFormed rfl (by simp) ?_
  intro server holds
  have covered : (server = upstream.serverId ∨ displacedOwner = some server) ∨
      releaseQueued state uri server := by
    rcases takenOver with ⟨absent, -⟩ | ⟨entry, present, draining⟩
    · exact (accounted.absent absent server holds).imp_left False.elim
    · exact carries entry present displacedOwner (by simp [Entry.remembered, draining]) server
        holds
  by_cases own : server = upstream.serverId
  · exact .inl own
  · right
    rcases covered with (same | displaced) | released
    · exact absurd same own
    · exact ⟨_, List.mem_append_right _ (List.mem_singleton_self _), rfl, by
        simp [Transition.releases, SubscribeTransition.released, displaced, own]⟩
    · exact releaseQueued_spawn state uri server _ released

/-- A migration accounts for its target and for the owner it releases. -/
theorem accounted_migrated (state : State Uri Server Target) (action : Action Uri Server Target)
    (uri : Uri) (entry : Entry Server Target) (oldUpstream : Option (Upstream Server))
    (newServerId : Server) (supportsSubscribe releaseOldOwner : Bool)
    (wellFormed : WellFormed state)
    (migration : Migration state uri newServerId supportsSubscribe action oldUpstream
      releaseOldOwner)
    (present : state.entries uri = some entry) (nonempty : entry.members ≠ ∅)
    (different : entry.equivalentPending newServerId = false)
    (carries : CarriesOwners state action) :
    Accounted ((state.allot uri fun generation =>
      { entry with generation, state := .pending newServerId }).spawn
      (.rebind { uri, generation := state.nextGeneration, oldUpstream, newServerId,
                 newOwner := state.resolveRebindOwner newServerId supportsSubscribe,
                 releaseOldOwner })) uri := by
  obtain ⟨generation, connected⟩ :=
    Option.isSome_iff_exists.mp (wellFormed.connected newServerId)
  refine accounted_renewed state uri _ _ wellFormed rfl (by simp) ?_
  intro server holds
  have target : supportsSubscribe = true → server = newServerId →
      (match state.resolveRebindOwner newServerId supportsSubscribe with
        | .ok _ => some newServerId
        | .error _ => none) = some server := by
    rintro rfl rfl
    simp [State.resolveRebindOwner, connected]
  cases migration with
  | rebind oldServer =>
    obtain ⟨old, resolved, named⟩ :=
      getUpstream_connected state oldServer (wellFormed.connected oldServer)
    rcases carries entry present nonempty different server holds with (⟨supported, own⟩ | owned) |
      released
    · exact .inl (.inl (target supported own))
    · refine .inl (.inr ⟨rfl, ?_⟩)
      simpa [resolved, named] using owned
    · exact .inr (releaseQueued_spawn state uri server _ released)
  | resubscribe =>
    rcases carries entry present nonempty different server holds with ⟨supported, own⟩ | released
    · exact .inl (.inl (target supported own))
    · exact .inr (releaseQueued_spawn state uri server _ released)

/-- A transition that obtains the lock takes its release with it. -/
theorem accounted_started (state : State Uri Server Target) (index : Nat)
    (started : Transition Uri Server) (queued : state.queued[index]? = some started)
    (free : state.running started.uri = none) (accounted : Accounted state started.uri) :
    Accounted { state with
      queued := state.queued.eraseIdx index
      running := Function.update state.running started.uri (some started.start) }
      started.uri := by
  let next : State Uri Server Target := { state with
    queued := state.queued.eraseIdx index
    running := Function.update state.running started.uri (some started.start) }
  have membership := Runs.mem_iff_eraseIdx queued
  have settles : ∀ server, willHold next started.uri server =
      started.start.settles server (state.held server started.uri) := by
    intro server
    simp [willHold, next]
  have covered : ∀ {accepted : Server → Prop}, Covered state started.uri accepted →
      Covered next started.uri accepted := by
    intro accepted before
    refine before.transfer ?_ ?_
    · intro server holds
      rw [settles] at holds
      cases started <;> simp_all [willHold, Transition.start, Running.settles]
    · rintro server holds ⟨transition, member, concerned, released⟩
      rcases (membership _).mp member with rfl | remains
      · rw [settles] at holds
        cases transition <;>
          simp_all [Transition.start, Running.settles, Transition.releases]
      · exact ⟨transition, remains, concerned, released⟩
  constructor
  · intro absent
    exact covered (accounted.absent absent)
  · intro entry present active
    exact covered (accounted.active entry present active)
  · intro transition entry remains concerned present same
    exact covered (accounted.queued transition entry ((membership _).mpr (.inr remains)) concerned
      present same)
  · intro stage entry running present same
    obtain rfl : started.start = stage := by simpa [next] using running
    refine covered (accounted.queued started entry ((membership _).mpr (.inl rfl)) rfl present ?_)
    simpa using same

/-- Making a call that the transition is committed to changes nothing about
what servers will hold; passing a check commits it to further calls. -/
theorem Progress.settles {state : State Uri Server Target} {uri : Uri}
    {stage following : Running Uri Server} {held : Server → Uri → Bool}
    (progress : Progress state uri stage following held) (unchecked : stage.checks = false)
    (server : Server) :
    following.settles server (held server uri) =
      stage.settles server (state.held server uri) := by
  rw [Bool.eq_iff_iff]
  cases progress with
  | displacedReleased transition previous displaced other =>
    rcases eq_or_ne server previous with rfl | different
    · simp [Running.settles, SubscribeTransition.released, displaced, other]
    · simp [Running.settles, SubscribeTransition.released, displaced, different, different.symm]
  | nothingDisplaced transition kept =>
    have none : transition.released = none := by
      cases displaced : transition.displacedOwner with
      | none => simp [SubscribeTransition.released, displaced]
      | some previous => simp [SubscribeTransition.released, displaced, kept previous displaced]
    simp [Running.settles, none]
  | subscribeCalled transition =>
    rcases eq_or_ne server transition.upstream.serverId with rfl | different
    · simp [Running.settles]
    · simp [Running.settles, different, different.symm]
  | unsubscribeCalled transition handle =>
    rcases eq_or_ne server handle.serverId with rfl | different
    · simp [Running.settles]
    · simp [Running.settles, different, different.symm]
  | nothingToUnsubscribe transition => simp [Running.settles]
  | oldReleased transition handle =>
    rcases eq_or_ne server handle.serverId with rfl | different
    · simp [Running.settles]
    · simp [Running.settles, different, different.symm]
  | nothingToRelease transition => simp [Running.settles]
  | resubscribeSkipped transition reason unusable =>
    simp [Running.settles, RebindTransition.target, unusable]
  | resubscribeCalled transition generation usable =>
    rcases eq_or_ne server transition.newServerId with rfl | different
    · simp [Running.settles, RebindTransition.target, usable]
    · simp [Running.settles, RebindTransition.target, usable, different, different.symm]
  | subscribeChecked | drainChecked | rebindChecked => cases unchecked

/-- Only a check changes what a transition accounts for. -/
theorem Progress.accounts {state : State Uri Server Target} {uri : Uri}
    {stage following : Running Uri Server} {held : Server → Uri → Bool}
    (progress : Progress state uri stage following held) (unchecked : stage.checks = false)
    (owner : Option Server) (server : Server) (accounts : stage.accounts owner server) :
    following.accounts owner server := by
  cases progress with
  | subscribeChecked | drainChecked | rebindChecked => cases unchecked
  | _ => exact accounts

/-- A transition that passes its check finds every other current one to be a
queued drain, so it is enough that its own commitments are accounted for. -/
theorem accounted_checked (state : State Uri Server Target) (uri : Uri)
    (stage following : Running Uri Server) (entry : Entry Server Target)
    (wellFormed : WellFormed state) (running : state.running uri = some stage)
    (present : state.entries uri = some entry)
    (current : entry.generation = stage.transition.generation)
    (starter : stage.transition.starts = false →
      ∀ server, willHold (state.setRunning uri (some following)) uri server = true →
        willHold state uri server = true)
    (accounted : Accounted state uri)
    (covered : Covered (state.setRunning uri (some following)) uri fun server =>
      following.accounts entry.ownerServerId server) :
    Accounted (state.setRunning uri (some following)) uri := by
  have unfinished : Unfinished state uri stage.transition :=
    .inl (by rw [running, Option.map_some])
  constructor
  · intro absent
    exact absurd (present.symm.trans absent) (by simp)
  · intro other isOther active
    obtain rfl : entry = other := Option.some.inj (present.symm.trans isOther)
    exact absurd active ((wellFormed.fits uri entry present).inactive _ unfinished current)
  · intro transition other queued concerned isOther same
    obtain rfl : entry = other := Option.some.inj (present.symm.trans isOther)
    cases transition with
    | drain => exact fun _ _ => .inl trivial
    | subscribe transition =>
      cases kind : stage.transition.starts with
      | true =>
        exact absurd (current.symm.trans same)
          (wellFormed.runningDistinct uri stage running _ queued kind rfl)
      | false =>
        exact (accounted.queued _ entry queued concerned present same).transfer (starter kind)
          fun _ _ released => released
    | rebind transition =>
      cases kind : stage.transition.starts with
      | true =>
        exact absurd (current.symm.trans same)
          (wellFormed.runningDistinct uri stage running _ queued kind rfl)
      | false =>
        exact (accounted.queued _ entry queued concerned present same).transfer (starter kind)
          fun _ _ released => released
  · intro other isEntry isOther present' same
    obtain rfl : following = other := by simpa using isOther
    obtain rfl : entry = isEntry := Option.some.inj (present.symm.trans present')
    exact covered

/-- A step inside a body keeps its URI accounted for, given that a drain that
passes its check releases everyone left. -/
theorem progress_accounted (state : State Uri Server Target) (uri : Uri)
    (stage following : Running Uri Server) (held : Server → Uri → Bool)
    (wellFormed : WellFormed state) (carries : CarriesOwners state (.advance uri true))
    (running : state.running uri = some stage)
    (progress : Progress state uri stage following held) (accounted : Accounted state uri) :
    Accounted { state with
      running := Function.update state.running uri (some following), held := held } uri := by
  cases unchecked : stage.checks with
  | false =>
    let next : State Uri Server Target := { state with
      running := Function.update state.running uri (some following), held := held }
    have settles : ∀ server, willHold next uri server = willHold state uri server := by
      intro server
      simp only [willHold, next, Function.update_self, running]
      exact progress.settles unchecked server
    have covered : ∀ {accepted : Server → Prop}, Covered state uri accepted →
        Covered next uri accepted := fun before =>
      before.transfer (fun server holds => settles server ▸ holds) fun _ _ released => released
    constructor
    · intro absent
      exact covered (accounted.absent absent)
    · intro entry present active
      exact covered (accounted.active entry present active)
    · intro transition entry queued concerned present same
      exact covered (accounted.queued transition entry queued concerned present same)
    · intro present entry isPresent isEntry same
      obtain rfl : following = present := by simpa using isPresent
      rw [progress.transition_eq] at same
      exact (covered (accounted.running stage entry running isEntry same)).mono
        fun server => progress.accounts unchecked entry.ownerServerId server
  | true =>
    have held_eq : ∀ server, willHold state uri server = state.held server uri := by
      intro server
      cases stage <;> simp_all [willHold, Running.settles, Running.checks]
    have next_eq : ∀ reached server,
        willHold (state.setRunning uri (some reached)) uri server =
          reached.settles server (state.held server uri) := by
      intro reached server
      simp only [willHold, setRunning_running_self]
      rfl
    cases progress with
    | subscribeChecked transition entry present current =>
      refine accounted_checked state uri _ _ entry wellFormed running present current
        (fun drains => by cases drains) accounted ?_
      intro server holds
      simp only [next_eq, Running.settles, Bool.or_eq_true, beq_iff_eq] at holds
      cases holds with
      | inl before =>
        exact accounted.running _ entry running present current server (held_eq server ▸ before)
      | inr own => exact .inl own.symm
    | drainChecked transition entry present current =>
      have narrower : ∀ server, willHold (state.setRunning uri (some (.unsubscribing transition
          (state.drainHandle entry.ownerServerId transition.upstream)))) uri server = true →
          willHold state uri server = true ∧
          entry.ownerServerId.or (transition.upstream.map Upstream.serverId) ≠ some server := by
        intro server holds
        simpa [next_eq, held_eq, Running.settles,
          drainHandle_serverId state _ _ wellFormed.connected] using holds
      refine accounted_checked state uri _ _ entry wellFormed running present current
        (fun _ server holds => (narrower server holds).1) accounted ?_
      intro server holds
      obtain ⟨before, kept⟩ := narrower server holds
      have passing : (transition, entry) ∈ state.passingDrain uri := by
        simp [State.passingDrain, running, present, current]
      exact (carries _ passing server before).imp_left
        fun released => absurd released kept
    | rebindChecked transition entry present current =>
      refine accounted_checked state uri _ _ entry wellFormed running present current
        (fun drains => by cases drains) accounted ?_
      intro server holds
      by_cases own : transition.target = some server
      · exact .inl own
      · simp only [next_eq, Running.settles, Bool.or_eq_true, Bool.and_eq_true, bne_iff_ne, ne_eq,
          beq_iff_eq, own, or_false] at holds
        obtain ⟨before, kept⟩ := holds
        rcases accounted.running _ entry running present current server
          (held_eq server ▸ before) with (target | ⟨releases, owned⟩) | released
        · exact absurd target own
        · refine absurd ?_ kept
          rw [if_pos releases, drainHandle_serverId state _ _ wellFormed.connected, owned]
        · exact .inr released
    | _ => cases unchecked

/-- A transition ends with every server accounted for. -/
theorem ending_accounted (state next : State Uri Server Target) (uri : Uri)
    (stage : Running Uri Server) (wellFormed : WellFormed state)
    (running : state.running uri = some stage) (ending : Ending state uri stage next)
    (accounted : Accounted state uri) : Accounted next uri := by
  obtain ⟨heldSame, queuedSame, free⟩ := ending.quiet
  have settled : ∀ server,
      stage.settles server (state.held server uri) = state.held server uri := by
    intro server
    cases ending with
    | superseded stage checks => cases stage <;> simp_all [Running.settles, Running.checks]
    | _ => rfl
  have covered : ∀ {accepted : Server → Prop}, Covered state uri accepted →
      Covered next uri accepted := by
    intro accepted before
    refine before.transfer ?_ ?_
    · intro server holds
      simpa only [willHold, running, free, heldSame, settled] using holds
    · rintro server - released
      simpa only [releaseQueued, queuedSame] using released
  -- An entry on another generation is left as it is, and so is an absent one.
  have untouched (entries : next.entries uri = state.entries uri) : Accounted next uri := by
    constructor
    · intro absent
      exact covered (accounted.absent (entries ▸ absent))
    · intro entry present active
      exact covered (accounted.active entry (entries ▸ present) active)
    · intro transition entry queued concerned present same
      exact covered (accounted.queued transition entry (queuedSame ▸ queued) concerned
        (entries ▸ present) same)
    · intro other entry isOther
      simp [free] at isOther
  have removed (accounts : ∀ owner server, ¬ stage.accounts owner server)
      (same : next = (state.setRunning uri none).removeIf uri stage.transition.generation) :
      Accounted next uri := by
    unfold State.removeIf at same
    split at same
    · rename_i entry present
      split at same
      · rename_i current
        have isRunning := accounted.running stage entry running present current
        have gone : next.entries uri = none := by rw [same, setEntry_entries_self]
        constructor
        · intro _
          exact covered (isRunning.mono fun server => accounts entry.ownerServerId server)
        · intro other isOther
          simp [gone] at isOther
        · intro transition other _ _ isOther
          simp [gone] at isOther
        · intro other entry isOther
          simp [free] at isOther
      · exact untouched (by rw [same]; rfl)
    · exact untouched (by rw [same]; rfl)
  have confirmed (owner : Server) (connectionGeneration : Option Nat)
      (starts : stage.transition.starts = true)
      (accounts : ∀ recorded server, stage.accounts recorded server → owner = server)
      (same : next = (state.setRunning uri none).confirm uri stage.transition.generation owner
        connectionGeneration) : Accounted next uri := by
    unfold State.confirm at same
    split at same
    · rename_i entry present
      split at same
      · rename_i current
        have isRunning := accounted.running stage entry running present current
        have written : ∃ status, next.entries uri = some { entry with
            ownerServerId := some owner, ownerConnectionGeneration := connectionGeneration,
            state := status } := by
          exact ⟨_, by rw [same, setEntry_entries_self]⟩
        obtain ⟨status, written⟩ := written
        constructor
        · intro absent
          simp [written] at absent
        · intro other isOther _
          obtain rfl := Option.some.inj (written.symm.trans isOther)
          exact covered (isRunning.mono fun server accounted =>
            congrArg some (accounts entry.ownerServerId server accounted))
        · intro transition other queued concerned isOther sameGeneration
          obtain rfl := Option.some.inj (written.symm.trans isOther)
          rw [queuedSame] at queued
          cases kind : transition.starts with
          | true =>
            exact absurd (current.symm.trans sameGeneration)
              (wellFormed.runningDistinct uri stage running transition queued starts kind)
          | false =>
            cases transition with
            | drain => exact fun _ _ => .inl trivial
            | subscribe => cases kind
            | rebind => cases kind
        · intro other entry isOther
          simp [free] at isOther
      · exact untouched (by rw [same]; rfl)
    · exact untouched (by rw [same]; rfl)
  cases ending with
  | superseded => exact untouched rfl
  | subscribeConfirmed transition =>
    exact confirmed _ _ rfl (fun _ _ accounts => Eq.symm accounts) rfl
  | drained transition => exact removed (fun _ _ => id) rfl
  | rebindConfirmed transition =>
    refine confirmed _ _ rfl ?_ rfl
    intro _ server accounts
    obtain ⟨generation, usable⟩ := (wellFormed.conclusions uri transition false running).mp rfl
    simpa [Running.accounts, RebindTransition.target, usable] using accounts
  | rebindAbandoned transition =>
    refine removed ?_ rfl
    intro _ server accounts
    have unusable : ¬ ∃ generation, transition.newOwner = .ok generation := by
      rw [← wellFormed.conclusions uri transition true running]
      simp
    cases owner : transition.newOwner with
    | ok generation => exact unusable ⟨generation, owner⟩
    | error reason => simp [Running.accounts, RebindTransition.target, owner] at accounts

/-- Every effect that carries owners over keeps every URI accounted for. -/
theorem effect_accounted (state next : State Uri Server Target)
    (action : Action Uri Server Target) (here : Uri) (wellFormed : WellFormed state)
    (carries : CarriesOwners state action) (effect : Effect state action here next)
    (accounted : ∀ uri, Accounted state uri) (uri : Uri) : Accounted next uri := by
  have before := accounted uri
  by_cases elsewhere : uri = here
  · subst elsewhere
    cases effect with
    | unchanged => exact before
    | joined _ _ entry members present =>
      refine ⟨?_, ?_, ?_, ?_⟩
      · intro absent
        simp at absent
      · intro other isOther active
        rw [setEntry_entries_self] at isOther
        cases isOther
        exact before.active entry present active
      · intro transition other queued concerned isOther same
        rw [setEntry_entries_self] at isOther
        cases isOther
        exact before.queued transition entry queued concerned present same
      · intro stage other running isOther same
        rw [setEntry_entries_self] at isOther
        cases isOther
        exact before.running stage entry running present same
    | marked _ _ entry members upstream _ present =>
      exact accounted_marked state uri entry members upstream present before
    | subscribed _ target upstream displacedOwner takenOver =>
      exact accounted_subscribed state uri target upstream displacedOwner wellFormed takenOver
        carries before
    | migrated _ _ entry oldUpstream newServerId supportsSubscribe releaseOldOwner migration present
        nonempty different =>
      exact accounted_migrated state action uri entry oldUpstream newServerId supportsSubscribe
        releaseOldOwner wellFormed migration present nonempty different carries
    | emptied _ _ entry oldUpstream =>
      exact accounted_renewed state uri _ _ wellFormed rfl (by simp [Entry.markDraining])
        fun _ _ => .inl trivial
    | started index transition queued free =>
      exact accounted_started state index transition queued free before
    | progressed _ stage following held running progress =>
      exact progress_accounted state uri stage following held wellFormed carries running progress
        before
    | ended _ stage next running ending =>
      exact ending_accounted state next uri stage wellFormed running ending before
  · exact before.congr (effect.agrees uri elsewhere)

end Preservation

section Results

variable [DecidableEq Uri] [DecidableEq Server] [DecidableEq Target]

/-- No orphaned subscription: in every quiescent state of an undisturbed run
whose steps carry owners over, a server that holds a subscription is the recorded
owner of an active entry with a member. -/
theorem no_orphaned_subscription (connection : Server → Option Nat)
    (connected : ∀ server, (connection server).isSome = true)
    (trace : List (Action Uri Server Target)) (final : State Uri Server Target)
    (admitted : Runs.Admitted step
      (fun state action => Undisturbed action ∧ CarriesOwners state action)
      (initial connection) trace)
    (ran : Runs.exec step (initial connection) trace = some final)
    (quiescent : Quiescent final) (uri : Uri) (server : Server)
    (holds : final.held server uri = true) :
    ∃ entry, final.entries uri = some entry ∧ entry.state = .active ∧
      entry.ownerServerId = some server ∧ entry.members.Nonempty := by
  have initially : ∀ uri, Accounted (initial connection : State Uri Server Target) uri := by
    intro uri
    constructor <;> simp [initial, Covered, willHold]
  obtain ⟨wellFormed, accounted⟩ := undisturbed_invariant CarriesOwners
    (fun state => ∀ uri, Accounted state uri) connection connected initially
    (fun state action here next wellFormed carries effect accounted =>
      effect_accounted state next action here wellFormed carries effect accounted)
    trace final admitted ran
  have unreleased : ¬ releaseQueued final uri server := by
    rintro ⟨transition, queued, -⟩
    simp [quiescent.1] at queued
  have will : willHold final uri server = true := by
    simpa [willHold, quiescent.2 uri] using holds
  cases present : final.entries uri with
  | none =>
    cases (accounted uri).absent present server will with
    | inl impossible => exact impossible.elim
    | inr released => exact absurd released unreleased
  | some entry =>
    obtain ⟨active, nonempty⟩ := quiescent_active final uri entry wellFormed quiescent present
    cases (accounted uri).active entry present active server will with
    | inl owned => exact ⟨entry, rfl, active, owned, nonempty⟩
    | inr released => exact absurd released unreleased

/-- A subscriber, a rebind and a second subscriber, run to the end. Servers are
two, so the condition on each step can be checked. -/
def carriedTrace : List (Action String Bool String) :=
  [.subscribe "u" "t" true, .start 0, .advance "u" true, .advance "u" true, .advance "u" true,
    .advance "u" true, .rebind "u" true false true, .subscribe "u" "s" false, .start 0,
    .advance "u" true, .advance "u" true, .advance "u" true, .advance "u" true]

/-- After the rebind its target alone holds the subscription and is recorded. -/
theorem no_orphaned_subscription_rebind :
    ∃ final, Runs.exec step (initial fun _ => some 0) carriedTrace = some final ∧
      final.held true "u" = false ∧ ∃ entry, final.entries "u" = some entry ∧
        entry.state = .active ∧ entry.ownerServerId = some false ∧ entry.members.Nonempty := by
  have facts : (Runs.exec step (initial fun _ => some 0) carriedTrace).any (fun state =>
      state.queued.isEmpty && (state.running "u").isNone && state.held false "u" &&
        !state.held true "u") = true := by
    decide +kernel
  simp only [Option.any_eq_true, Bool.and_eq_true, List.isEmpty_iff, Option.isNone_iff_eq_none,
    Bool.not_eq_true'] at facts
  obtain ⟨final, ran, ⟨⟨empty, free⟩, held⟩, released⟩ := facts
  have quiescent := quiescent_of_single (fun _ => some 0) (fun _ => rfl) carriedTrace final "u"
    (by decide +kernel) ran empty free
  exact ⟨final, ran, released, no_orphaned_subscription (fun _ => some 0) (fun _ => rfl)
    carriedTrace final (by decide +kernel) ran quiescent "u" false held⟩

/-- A rebind from server `a` to `b` lands, the last member leaves before it
runs, and a member returns to `a` once the rebind has confirmed `b`. The drain
mark still names `a` as the owner to release, so nobody releases `b`. -/
def staleMarkTrace : List (Action String String String) :=
  List.flatten [
    [.subscribe "u" "t" "a", .start 0], advances "u" 4,
    [.rebind "u" "a" "b" true, .unsubscribe "u" "t" (some "a"), .start 0], advances "u" 4,
    [.subscribe "u" "t" "a", .start 0], advances "u" 1, [.start 0], advances "u" 4]

/-- A subscription is orphaned although every call succeeds: the run ends
quiescent with server `b` holding what the registry records for `a`. -/
theorem stale_mark_orphans_subscription :
    ∃ final entry, Runs.Admitted step (fun _ action => Undisturbed action)
        (initial fun _ => some 0) staleMarkTrace ∧
      Runs.exec step (initial fun _ => some 0) staleMarkTrace = some final ∧
      Quiescent final ∧ final.held "b" "u" = true ∧ final.entries "u" = some entry ∧
      entry.ownerServerId = some "a" := by
  have facts : (Runs.exec step (initial fun _ => some 0) staleMarkTrace).any (fun state =>
      state.queued.isEmpty && (state.running "u").isNone && state.held "b" "u" &&
        (state.entries "u").any fun entry => entry.ownerServerId == some "a") = true := by
    decide +kernel
  simp only [Option.any_eq_true, Bool.and_eq_true, List.isEmpty_iff, Option.isNone_iff_eq_none,
    beq_iff_eq] at facts
  obtain ⟨final, ran, ⟨⟨empty, free⟩, held⟩, entry, present, owned⟩ := facts
  have quiescent := quiescent_of_single (fun _ => some 0) (fun _ => rfl) staleMarkTrace final "u"
    (by decide +kernel) ran empty free
  exact ⟨final, entry, by decide +kernel, ran, quiescent, held, present, owned⟩

end Results

end Plug.Subscriptions
