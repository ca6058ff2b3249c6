import Plug.SubscriptionStructure

/-!
# Recorded owners hold their subscriptions

A subscriber that supersedes a drain takes over the duty to release the drained
owner, and does so on getting the lock whether or not it is still current. If
the lock reaches it late, a newer transition may have put that very server back
in place, and the release then takes away a subscription the registry records as
active. `sparesOwner` is the condition that no release step does this; the other
calls a transition makes are covered by the lock and the generation check.
-/

set_option linter.unusedSectionVars false

namespace Plug.Subscriptions

variable {Uri Server Target : Type}

/-- Whether the step comes after the transition's generation check. -/
def Running.checked : Running Uri Server → Bool
  | .releasingDisplaced _ => false
  | .checkingSubscribe _ => false
  | .checkingDrain _ => false
  | .checkingRebind _ => false
  | _ => true

/-- What holds of one URI: an active entry's owner holds the subscription, no
entry is active behind the back of a transition past its check, and a transition
about to confirm an owner has subscribed it. -/
structure Delivered (state : State Uri Server Target) (uri : Uri) : Prop where
  ownerHolds : ∀ entry, state.entries uri = some entry → entry.state = .active →
    ∃ owner, entry.ownerServerId = some owner ∧ state.held owner uri = true
  lockedInactive : ∀ stage entry, state.running uri = some stage → stage.checked = true →
    state.entries uri = some entry → entry.state ≠ .active
  subscribeHolds : ∀ transition succeeded,
    state.running uri = some (.confirming transition succeeded) →
    state.held transition.upstream.serverId uri = true
  rebindHolds : ∀ transition, state.running uri = some (.concluding transition false) →
    state.held transition.newServerId uri = true

/-- A step that leaves a URI alone keeps what holds of it. -/
theorem Delivered.congr {state next : State Uri Server Target} {uri : Uri}
    (delivered : Delivered state uri) (entries : next.entries uri = state.entries uri)
    (running : next.running uri = state.running uri)
    (held : ∀ server, next.held server uri = state.held server uri) : Delivered next uri := by
  constructor
  · simpa only [entries, held] using delivered.ownerHolds
  · simpa only [entries, running] using delivered.lockedInactive
  · simpa only [running, held] using delivered.subscribeHolds
  · simpa only [running, held] using delivered.rebindHolds

/-- Writing an entry that is not active. -/
theorem Delivered.rewritten {state next : State Uri Server Target} {uri : Uri}
    {entry : Entry Server Target} (delivered : Delivered state uri)
    (entries : next.entries uri = some entry) (inactive : entry.state ≠ .active)
    (running : next.running uri = state.running uri)
    (held : ∀ server, next.held server uri = state.held server uri) : Delivered next uri := by
  constructor
  · intro present isPresent active
    obtain rfl : entry = present := Option.some.inj (entries.symm.trans isPresent)
    exact absurd active inactive
  · intro stage present _ _ isPresent
    obtain rfl : entry = present := Option.some.inj (entries.symm.trans isPresent)
    exact inactive
  · simpa only [running, held] using delivered.subscribeHolds
  · simpa only [running, held] using delivered.rebindHolds

section Preservation

variable [DecidableEq Uri] [DecidableEq Server] [DecidableEq Target]

/-- The server the first step of a subscribing transition unsubscribes. -/
def SubscribeTransition.released (transition : SubscribeTransition Uri Server) : Option Server :=
  transition.displacedOwner.filter (· ≠ transition.upstream.serverId)

/-- Whether the step is not the release of a displaced owner that an active
entry records by now. -/
def sparesOwner (state : State Uri Server Target) : Action Uri Server Target → Bool
  | .advance uri _ =>
    match state.running uri, state.entries uri with
    | some (.releasingDisplaced transition), some entry =>
      !(entry.state == .active && transition.released.isSome &&
        entry.ownerServerId == transition.released)
    | _, _ => true
  | _ => true

/-- A release step that spares owners releases no owner of an active entry. -/
theorem sparesOwner_released (state : State Uri Server Target) (uri : Uri)
    (transition : SubscribeTransition Uri Server) (previous : Server)
    (entry : Entry Server Target) (succeeds : Bool)
    (spares : sparesOwner state (.advance uri succeeds) = true)
    (running : state.running uri = some (.releasingDisplaced transition))
    (displaced : transition.displacedOwner = some previous)
    (other : previous ≠ transition.upstream.serverId)
    (present : state.entries uri = some entry) (active : entry.state = .active) :
    entry.ownerServerId ≠ some previous := by
  have released : transition.released = some previous := by
    simp [SubscribeTransition.released, displaced, other]
  simpa [sparesOwner, running, present, active, released] using spares

/-- A step inside a body keeps its URI delivered, given that a displaced owner
it releases is not one an active entry records. -/
theorem progress_delivered (state : State Uri Server Target) (uri : Uri)
    (stage following : Running Uri Server) (held : Server → Uri → Bool)
    (wellFormed : WellFormed state) (spares : sparesOwner state (.advance uri true) = true)
    (running : state.running uri = some stage)
    (progress : Progress state uri stage following held) (delivered : Delivered state uri) :
    Delivered { state with
      running := Function.update state.running uri (some following), held := held } uri := by
  have unfinished : Unfinished state uri stage.transition :=
    .inl (by rw [running, Option.map_some])
  -- Past the check no entry is active, so no call can touch a recorded owner.
  have inactive : following.checked = true → ∀ entry, state.entries uri = some entry →
      entry.state ≠ .active := by
    intro checked entry present
    have passed : ∀ current, state.entries uri = some current →
        current.generation = stage.transition.generation → entry.state ≠ .active := by
      intro current isCurrent same
      obtain rfl : current = entry := Option.some.inj (isCurrent.symm.trans present)
      exact (wellFormed.fits uri current present).inactive _ unfinished same
    cases progress with
    | displacedReleased | nothingDisplaced => cases checked
    | subscribeChecked transition current isCurrent same => exact passed current isCurrent same
    | drainChecked transition current isCurrent same => exact passed current isCurrent same
    | rebindChecked transition current isCurrent same => exact passed current isCurrent same
    | subscribeCalled | unsubscribeCalled | nothingToUnsubscribe | oldReleased
    | nothingToRelease | resubscribeSkipped | resubscribeCalled =>
      exact delivered.lockedInactive _ entry running rfl present
  refine ⟨?_, ?_, ?_, ?_⟩
  · intro entry present active
    cases checked : following.checked with
    | true => exact absurd active (inactive checked entry present)
    | false =>
      obtain ⟨owner, recorded, holds⟩ := delivered.ownerHolds entry present active
      refine ⟨owner, recorded, ?_⟩
      cases progress with
      | displacedReleased transition previous displaced other =>
        have spared : owner ≠ previous := by
          rintro rfl
          exact sparesOwner_released state uri transition owner entry true spares running displaced
            other present active recorded
        simpa [spared] using holds
      | nothingDisplaced => exact holds
      | _ => cases checked
  · intro present entry isPresent checked isEntry
    obtain rfl : following = present := by simpa using isPresent
    exact inactive checked entry isEntry
  · intro transition succeeded isPresent
    obtain rfl : following = .confirming transition succeeded := by simpa using isPresent
    cases progress
    simp
  · intro transition isPresent
    obtain rfl : following = .concluding transition false := by simpa using isPresent
    cases progress
    simp

/-- A URI whose lock was just released: only its active entry matters. -/
theorem Delivered.released {next : State Uri Server Target} {uri : Uri}
    (free : next.running uri = none)
    (ownerHolds : ∀ entry, next.entries uri = some entry → entry.state = .active →
      ∃ owner, entry.ownerServerId = some owner ∧ next.held owner uri = true) :
    Delivered next uri := by
  refine ⟨ownerHolds, ?_, ?_, ?_⟩ <;> simp [free]

/-- Ending without a confirmation writes no active entry. -/
theorem removeIf_delivered (state : State Uri Server Target) (uri : Uri) (generation : Nat)
    (delivered : Delivered state uri) :
    Delivered ((state.setRunning uri none).removeIf uri generation) uri := by
  have free : (state.setRunning uri none).running uri = none := by simp [State.setRunning]
  unfold State.removeIf
  split
  · split
    · exact .released free (by simp [State.setEntry])
    · exact .released free delivered.ownerHolds
  · exact .released free delivered.ownerHolds

/-- A confirmed owner was subscribed by the transition that confirms it. -/
theorem confirm_delivered (state : State Uri Server Target) (uri : Uri) (generation : Nat)
    (owner : Server) (connectionGeneration : Option Nat) (delivered : Delivered state uri)
    (holds : state.held owner uri = true) :
    Delivered ((state.setRunning uri none).confirm uri generation owner connectionGeneration)
      uri := by
  have free : (state.setRunning uri none).running uri = none := by simp [State.setRunning]
  unfold State.confirm
  split
  · split
    · refine .released free ?_
      intro written isWritten _
      rw [setEntry_entries_self] at isWritten
      cases isWritten
      exact ⟨owner, rfl, holds⟩
    · exact .released free delivered.ownerHolds
  · exact .released free delivered.ownerHolds

theorem ending_delivered (state next : State Uri Server Target) (uri : Uri)
    (stage : Running Uri Server) (running : state.running uri = some stage)
    (ending : Ending state uri stage next) (delivered : Delivered state uri) :
    Delivered next uri := by
  cases ending with
  | superseded =>
    exact .released (by simp [State.setRunning]) delivered.ownerHolds
  | subscribeConfirmed transition =>
    exact confirm_delivered state uri _ _ _ delivered
      (delivered.subscribeHolds transition true running)
  | drained => exact removeIf_delivered state uri _ delivered
  | rebindConfirmed transition =>
    exact confirm_delivered state uri _ _ _ delivered (delivered.rebindHolds transition running)
  | rebindAbandoned => exact removeIf_delivered state uri _ delivered

/-- Every effect that spares recorded owners keeps every URI delivered. -/
theorem effect_delivered (state next : State Uri Server Target)
    (action : Action Uri Server Target) (here : Uri) (wellFormed : WellFormed state)
    (spares : sparesOwner state action = true) (effect : Effect state action here next)
    (delivered : ∀ uri, Delivered state uri) (uri : Uri) : Delivered next uri := by
  have before := delivered uri
  by_cases same : uri = here
  · subst same
    cases effect with
    | unchanged => exact before
    | joined _ _ entry members present =>
      refine ⟨?_, ?_, before.subscribeHolds, before.rebindHolds⟩
      · intro current isCurrent active
        rw [setEntry_entries_self] at isCurrent
        cases isCurrent
        exact before.ownerHolds entry present active
      · intro stage current running checked isCurrent
        rw [setEntry_entries_self] at isCurrent
        cases isCurrent
        exact before.lockedInactive stage entry running checked present
    | marked =>
      exact before.rewritten (Function.update_self _ _ _) (by simp [Entry.markDraining]) rfl
        fun _ => rfl
    | subscribed =>
      exact before.rewritten (Function.update_self _ _ _) (by simp) rfl fun _ => rfl
    | migrated =>
      exact before.rewritten (Function.update_self _ _ _) (by simp) rfl fun _ => rfl
    | emptied =>
      exact before.rewritten (Function.update_self _ _ _) (by simp [Entry.markDraining]) rfl
        fun _ => rfl
    | started index transition queued free =>
      refine ⟨before.ownerHolds, ?_, ?_, ?_⟩
      · intro stage entry isRunning checked
        obtain rfl : transition.start = stage := by simpa using isRunning
        cases transition <;> cases checked
      · intro subscribing succeeded isRunning
        cases transition <;> simp [Transition.start] at isRunning
      · intro rebinding isRunning
        cases transition <;> simp [Transition.start] at isRunning
    | progressed _ stage following held running progress =>
      exact progress_delivered state uri stage following held wellFormed spares running progress
        before
    | ended _ stage next running ending =>
      exact ending_delivered state next uri stage running ending before
  · have agrees := effect.agrees uri same
    exact before.congr agrees.entries agrees.running agrees.held

end Preservation

section Results

variable [DecidableEq Uri] [DecidableEq Server] [DecidableEq Target]

/-- No lost subscription: in every quiescent state of an undisturbed run whose
release steps spare recorded owners, each entry is active, has a member, and its
recorded owner holds the upstream subscription. -/
theorem no_lost_subscription (connection : Server → Option Nat)
    (connected : ∀ server, (connection server).isSome = true)
    (trace : List (Action Uri Server Target)) (final : State Uri Server Target)
    (admitted : Runs.Admitted step
      (fun state action => Undisturbed action ∧ sparesOwner state action = true)
      (initial connection) trace)
    (ran : Runs.exec step (initial connection) trace = some final)
    (quiescent : Quiescent final) (uri : Uri) (entry : Entry Server Target)
    (present : final.entries uri = some entry) :
    entry.state = .active ∧ entry.members.Nonempty ∧
      ∃ owner, entry.ownerServerId = some owner ∧ final.held owner uri = true := by
  have initially : ∀ uri, Delivered (initial connection : State Uri Server Target) uri := by
    intro uri
    constructor <;> simp [initial]
  obtain ⟨wellFormed, delivered⟩ := undisturbed_invariant
    (fun state action => sparesOwner state action = true)
    (fun state => ∀ uri, Delivered state uri) connection connected initially
    (fun state action here next wellFormed spares effect delivered =>
      effect_delivered state next action here wellFormed spares effect delivered)
    trace final admitted ran
  obtain ⟨active, nonempty⟩ := quiescent_active final uri entry wellFormed quiescent present
  exact ⟨active, nonempty, (delivered uri).ownerHolds entry present active⟩

/-- The transition that holds the lock of `uri` takes `steps` steps. -/
def advances (uri : String) (steps : Nat) : List (Action String String String) :=
  List.replicate steps (.advance uri true)

/-- Two subscribers, a rebind and its release, run to the end. -/
def rebindTrace : List (Action String String String) :=
  List.flatten [
    [.subscribe "u" "t" "a", .subscribe "u" "s" "a", .start 0], advances "u" 4,
    [.rebind "u" "a" "b" true, .unsubscribe "u" "t" (some "b"), .start 0], advances "u" 4]

/-- The recorded owner after the rebind holds the subscription. -/
theorem no_lost_subscription_rebind :
    ∃ final entry, Runs.exec step (initial fun _ => some 0) rebindTrace = some final ∧
      final.entries "u" = some entry ∧ entry.ownerServerId = some "b" ∧
      entry.state = .active ∧ entry.members.Nonempty ∧
      ∃ owner, entry.ownerServerId = some owner ∧ final.held owner "u" = true := by
  have facts : (Runs.exec step (initial fun _ => some 0) rebindTrace).any (fun state =>
      state.queued.isEmpty && (state.running "u").isNone &&
        (state.entries "u").any (·.ownerServerId == some "b")) = true := by
    decide +kernel
  simp only [Option.any_eq_true, Bool.and_eq_true, List.isEmpty_iff, Option.isNone_iff_eq_none,
    beq_iff_eq] at facts
  obtain ⟨final, ran, ⟨empty, free⟩, entry, present, owned⟩ := facts
  have quiescent := quiescent_of_single (fun _ => some 0) (fun _ => rfl) rebindTrace final "u"
    (by decide +kernel) ran empty free
  exact ⟨final, entry, ran, present, owned, no_lost_subscription (fun _ => some 0) (fun _ => rfl)
    rebindTrace final (by decide +kernel) ran quiescent "u" entry present⟩

/-- The last member of an entry on server `a` leaves, a member joins on `b` and
leaves, and a member returns to `a`. The newest transition runs first and
confirms `a`; the one to `b` then releases the owner it displaced, which is `a`
again. -/
def lateReleaseTrace : List (Action String String String) :=
  List.flatten [
    [.subscribe "u" "t" "a", .start 0], advances "u" 4,
    [.unsubscribe "u" "t" (some "a"), .subscribe "u" "t" "b", .unsubscribe "u" "t" (some "b"),
      .subscribe "u" "t" "a", .start 3], advances "u" 4,
    [.start 1], advances "u" 2, [.start 0], advances "u" 1, [.start 0], advances "u" 1]

/-- A late release loses a subscription although every call succeeds: the run
ends quiescent with an active entry whose recorded owner holds nothing. -/
theorem late_release_loses_subscription :
    ∃ final entry, Runs.Admitted step (fun _ action => Undisturbed action)
        (initial fun _ => some 0) lateReleaseTrace ∧
      Runs.exec step (initial fun _ => some 0) lateReleaseTrace = some final ∧
      Quiescent final ∧ final.entries "u" = some entry ∧ entry.state = .active ∧
      entry.ownerServerId = some "a" ∧ final.held "a" "u" = false := by
  have facts : (Runs.exec step (initial fun _ => some 0) lateReleaseTrace).any (fun state =>
      state.queued.isEmpty && (state.running "u").isNone && !state.held "a" "u" &&
        (state.entries "u").any fun entry =>
          entry.state == .active && entry.ownerServerId == some "a") = true := by
    decide +kernel
  simp only [Option.any_eq_true, Bool.and_eq_true, List.isEmpty_iff, Option.isNone_iff_eq_none,
    beq_iff_eq, Bool.not_eq_true'] at facts
  obtain ⟨final, ran, ⟨⟨empty, free⟩, unheld⟩, entry, present, active, owned⟩ := facts
  have quiescent := quiescent_of_single (fun _ => some 0) (fun _ => rfl) lateReleaseTrace final
    "u" (by decide +kernel) ran empty free
  exact ⟨final, entry, by decide +kernel, ran, quiescent, present, active, owned, unheld⟩

end Results

end Plug.Subscriptions
