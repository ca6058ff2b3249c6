import Plug.CallKeys
import Plug.FanOut
import Plug.Tables

/-!
# Calls without a session

A tool call of the modern protocol comes in one POST without a session. Who calls is told by the
principal, or by the name and version that the client gives itself, and the call's key is that and
the request's id. The reply carries the notifications for the same caller that came meanwhile. When
the POST ends early its call is dropped and its key is cancelled.

The calls of others, with a context or without, go on beside it.
-/

namespace Plug.HttpCalls

open ActiveCalls
open FanOut (NotificationTarget ProtocolNotification notificationChannelSize resolve)
open BroadcastChannels (Received receive)

/-- Whom a request is from. -/
inductive Caller where
  | principal (ownerKey : String)
  | anonymous (name version : String)
  /-- A client that does not say what it is called. -/
  | unnamed (traceId : String)
deriving DecidableEq

def Caller.clientId : Caller → String
  | .principal ownerKey => ownerKey
  | .anonymous name version => "anonymous:" ++ name ++ ":" ++ version
  | .unnamed traceId => "anonymous:" ++ traceId

/-- `Note` stands for what a notification carries besides the token of its progress. -/
inductive Params (Note : Type) where
  | progress (progressToken : NumberOrString) (note : Note)
  | other (note : Note)
deriving DecidableEq

abbrev Notification (Note : Type) : Type := ProtocolNotification (Params Note)

def notificationTarget (context : DownstreamCallContext) : NotificationTarget :=
  match context.transport with
  | .stdio => .stdio context.clientId.toList
  | .http => .http context.clientId.toList
  | .ipc => .ipc context.clientId.toList

/-- How a call ends: with the answer of the server, or with an error. -/
inductive Outcome (Result : Type) where
  | answered (result : Result)
  | refused
  | failed
deriving DecidableEq

variable {Result Note : Type}

inductive Stage (Result Note : Type) where
  | running
  | replied (notifications : List (Notification Note)) (outcome : Outcome Result)
  | dropped
deriving DecidableEq

/-- A POST, with the place of its call and of its receiver of notifications. -/
structure HttpRequest (Result Note : Type) where
  caller : Caller
  requestId : NumberOrString
  position : Nat
  subscribed : Nat
  stage : Stage Result Note
deriving DecidableEq

/-- `modern_http_call_context`. -/
def callContext (caller : Caller) (requestId : NumberOrString) : DownstreamCallContext :=
  ⟨.http, caller.clientId, requestId, .modern⟩

def HttpRequest.context (request : HttpRequest Result Note) : DownstreamCallContext :=
  callContext request.caller request.requestId

/-- `outcomes` are those of the calls, the latest first. `refusals` has the place of each call that
was refused and of the one that held its key, and `cancellations` has each context whose key was
cancelled and the place of the call that this reached. -/
structure State (Result Note : Type) where
  router : Router
  requests : List (HttpRequest Result Note)
  outcomes : List (Nat × Outcome Result)
  published : List (Notification Note)
  refusals : List (Nat × Option Nat)
  cancellations : List (DownstreamCallContext × Option Nat)

def State.new : State Result Note := ⟨initial, [], [], [], [], []⟩

inductive Act (Result Note : Type) where
  | post (caller : Caller) (requestId : NumberOrString) (progressToken : Option NumberOrString)
  /-- A call goes on, whosever it is, or the key of one is cancelled. -/
  | call (action : Action)
  /-- The server answers. -/
  | answer (position : Nat) (result : Result)
  /-- A server reports progress. -/
  | progress (serverId : String) (progressToken : NumberOrString) (note : Note)
  | publish (notification : Notification Note)
  | reply (request : Nat)
  | drop (request : Nat)

/-- What a receiver gets for a target, with nothing but its reads. -/
def drain (published : List (Notification Note)) (target : NotificationTarget) :
    Nat → Nat → List (Notification Note)
  | 0, _ => []
  | fuel + 1, position =>
    match receive notificationChannelSize published position with
    | none => []
    | some (.item notification, next) =>
      (if resolve notification = .toTarget target then [notification] else []) ++
        drain published target fuel next
    | some (.lagged _, next) => drain published target fuel next

/-- `drain_targeted_notifications`: each read brings the receiver on by one at least. -/
def drainTargetedNotifications (published : List (Notification Note)) (position : Nat)
    (target : NotificationTarget) : List (Notification Note) :=
  drain published target (published.length - position) position

/-- `route_upstream_progress`. -/
def routeUpstreamProgress (index : Index) (serverId : String) (progressToken : NumberOrString)
    (note : Note) : Option (Notification Note) :=
  (index.upstreamProgressLookup ⟨serverId, progressToken⟩).bind fun callId =>
    (index.activeCalls callId).map fun record =>
      .progress (notificationTarget record.downstream)
        (.progress (record.downstreamProgressToken.getD progressToken) note)

/-- How a call ends by a step that no answer comes with. -/
def ending (router : Router) : Action → List (Nat × Outcome Result)
  | .register position =>
    match router.calls[position]? with
    | some ⟨some context, _, _, .numbered _ _⟩ =>
      if (router.index.activeCallLookup context.key).isSome then [(position, .refused)] else []
    | _ => []
  | .sendFailed position | .leave position => [(position, .failed)]
  | _ => []

def refusal (router : Router) : Action → List (Nat × Option Nat)
  | .register position =>
    match router.calls[position]? with
    | some ⟨some context, _, _, .numbered _ _⟩ =>
      if (router.index.activeCallLookup context.key).isSome then
        [(position, router.holder context)]
      else []
    | _ => []
  | _ => []

/-- Whom a cancellation reaches. -/
def reached (router : Router) (context : DownstreamCallContext) :
    List (DownstreamCallContext × Option Nat) :=
  if (router.index.activeCallLookup context.key).isSome then
    [(context, router.holder context)]
  else []

def cancellation (router : Router) : Action → List (DownstreamCallContext × Option Nat)
  | .cancelDownstream context _ _ => reached router context
  | _ => []

/-- The call of a POST that is dropped is removed before its key is cancelled. -/
def Router.dropped (router : Router) (position : Nat) : Router :=
  (ActiveCalls.step router (.leave position)).getD router

def endedReason : Option String := some "downstream HTTP request ended"

def step (state : State Result Note) : Act Result Note → Option (State Result Note)
  | .post caller requestId progressToken =>
    (ActiveCalls.step state.router
      (.enter (some (callContext caller requestId)) progressToken)).map fun router =>
        { state with
          router := router
          requests := state.requests ++
            [⟨caller, requestId, state.router.calls.length, state.published.length, .running⟩] }
  | .call action =>
    match action with
    | .finish _ => none
    | action =>
      (ActiveCalls.step state.router action).map fun router =>
        { state with
          router := router
          outcomes := ending state.router action ++ state.outcomes
          refusals := state.refusals ++ refusal state.router action
          cancellations := state.cancellations ++ cancellation state.router action }
  | .answer position result =>
    (ActiveCalls.step state.router (.finish position)).map fun router =>
      { state with
        router := router
        outcomes := (position, .answered result) :: state.outcomes }
  | .progress serverId progressToken note =>
    some { state with
      published := state.published ++
        (routeUpstreamProgress state.router.index serverId progressToken note).toList }
  | .publish notification =>
    match notification with
    | .progress _ _ => none
    | notification => some { state with published := state.published ++ [notification] }
  | .reply index =>
    match state.requests[index]? with
    | some request =>
      match request.stage, state.router.calls[request.position]?,
          state.outcomes.lookup request.position with
      | .running, some call, some outcome =>
        if call.phase = .settled ∨ call.phase = .ended then
          some { state with
            router := Router.dropped state.router request.position
            requests := state.requests.set index { request with
              stage := .replied (drainTargetedNotifications state.published request.subscribed
                (notificationTarget request.context)) outcome } }
        else none
      | _, _, _ => none
    | none => none
  | .drop index =>
    match state.requests[index]? with
    | some request =>
      match request.stage with
      | .running =>
        let router := Router.dropped state.router request.position
        (ActiveCalls.step router (.cancelDownstream request.context endedReason true)).map
          fun after =>
            { state with
              router := after
              requests := state.requests.set index { request with stage := .dropped }
              cancellations := state.cancellations ++ reached router request.context }
      | _ => none
    | none => none

/-! ### What a run keeps -/

/-- The call was refused for one whose context has the same key. -/
def Refused (calls : List Call) (entry : Nat × Option Nat) : Prop :=
  ∃ (holder : Nat) (call other : Call) (context taken : DownstreamCallContext),
    entry.2 = some holder ∧ entry.1 ≠ holder ∧ calls[entry.1]? = some call ∧
    call.downstream = some context ∧ calls[holder]? = some other ∧
    other.downstream = some taken ∧ taken.key = context.key

/-- What was cancelled is a call whose context has the key. -/
def Reached (calls : List Call) (entry : DownstreamCallContext × Option Nat) : Prop :=
  ∃ (holder : Nat) (other : Call) (taken : DownstreamCallContext),
    entry.2 = some holder ∧ calls[holder]? = some other ∧ other.downstream = some taken ∧
    taken.key = entry.1.key

theorem Refused.stays {calls next : List Call} {entry : Nat × Option Nat}
    (refused : Refused calls entry) (stays : Stays calls next) : Refused next entry := by
  obtain ⟨holder, call, other, context, taken, place, apart, found, own, there, held, same⟩ := refused
  obtain ⟨after, later, kept⟩ := stays _ call found
  obtain ⟨otherAfter, otherLater, otherKept⟩ := stays _ other there
  exact ⟨holder, after, otherAfter, context, taken, place, apart, later, kept.trans own, otherLater,
    otherKept.trans held, same⟩

theorem Reached.stays {calls next : List Call} {entry : DownstreamCallContext × Option Nat}
    (reached : Reached calls entry) (stays : Stays calls next) : Reached next entry := by
  obtain ⟨holder, other, taken, place, there, held, same⟩ := reached
  obtain ⟨after, later, kept⟩ := stays _ other there
  exact ⟨holder, after, taken, place, later, kept.trans held, same⟩

/-- A reply carries an outcome of the POST's own call, and notifications for its caller. -/
def Replied (outcomes : List (Nat × Outcome Result)) (request : HttpRequest Result Note) : Prop :=
  ∀ notifications outcome, request.stage = .replied notifications outcome →
    (request.position, outcome) ∈ outcomes ∧
    ∀ notification ∈ notifications,
      resolve notification = .toTarget (notificationTarget request.context)

structure Sound (state : State Result Note) : Prop where
  keyed : Keyed state.router
  placed : ∀ request ∈ state.requests, ∃ call,
    state.router.calls[request.position]? = some call ∧ call.downstream = some request.context
  apart : (state.requests.map HttpRequest.position).Nodup
  replied : ∀ request ∈ state.requests, Replied state.outcomes request
  refused : ∀ entry ∈ state.refusals, Refused state.router.calls entry
  cancelled : ∀ entry ∈ state.cancellations, Reached state.router.calls entry

theorem sound_new : Sound (State.new : State Result Note) := by
  refine ⟨initial_keyed, ?_, List.nodup_nil, ?_, ?_, ?_⟩
  all_goals
    intro entry member
    cases member

section Steps

variable {state next : State Result Note}

theorem drain_target (published : List (Notification Note)) (target : NotificationTarget) :
    ∀ fuel position, ∀ notification ∈ drain published target fuel position,
      resolve notification = .toTarget target := by
  intro fuel
  induction fuel with
  | zero =>
    intro position notification member
    cases member
  | succ fuel ih =>
    intro position notification member
    unfold drain at member
    split at member
    · cases member
    · obtain own | later := List.mem_append.mp member
      · split at own
        · rename_i addressed
          rw [List.mem_singleton.mp own]
          exact addressed
        · cases own
      · exact ih _ notification later
    · exact ih _ notification member

/-- The calls go on, and what they come to is added. -/
theorem Sound.moves (sound : Sound state) {router : Router} (keyed : Keyed router)
    (stays : Stays state.router.calls router.calls) {outcomes : List (Nat × Outcome Result)}
    (more : ∀ entry ∈ state.outcomes, entry ∈ outcomes) {refusals : List (Nat × Option Nat)}
    (refused : ∀ entry ∈ refusals, Refused state.router.calls entry)
    {cancellations : List (DownstreamCallContext × Option Nat)}
    (cancelled : ∀ entry ∈ cancellations, Reached state.router.calls entry)
    (published : List (Notification Note)) :
    Sound (State.mk router state.requests outcomes published (state.refusals ++ refusals)
      (state.cancellations ++ cancellations)) where
  keyed := keyed
  placed request member := by
    obtain ⟨call, found, own⟩ := sound.placed request member
    obtain ⟨after, later, kept⟩ := stays _ call found
    exact ⟨after, later, kept.trans own⟩
  apart := sound.apart
  replied request member notifications outcome stage :=
    let replied := sound.replied request member notifications outcome stage
    ⟨more _ replied.1, replied.2⟩
  refused entry member :=
    (List.mem_append.mp member).elim (fun before => (sound.refused entry before).stays stays)
      fun new => (refused entry new).stays stays
  cancelled entry member :=
    (List.mem_append.mp member).elim (fun before => (sound.cancelled entry before).stays stays)
      fun new => (cancelled entry new).stays stays

/-- A POST comes to another stage. -/
theorem Sound.staged (sound : Sound state) {index : Nat} {request : HttpRequest Result Note}
    (found : state.requests[index]? = some request) (stage : Stage Result Note)
    (replied : Replied state.outcomes { request with stage := stage }) :
    Sound { state with requests := state.requests.set index { request with stage := stage } } where
  keyed := sound.keyed
  placed other member := by
    obtain before | rfl := List.mem_or_eq_of_mem_set member
    · exact sound.placed other before
    · exact sound.placed request (List.mem_of_getElem? found)
  apart := by
    have same : (state.requests.map HttpRequest.position)[index]? = some request.position := by
      rw [List.getElem?_map, found]
      rfl
    have kept : (state.requests.map HttpRequest.position).set index request.position =
        state.requests.map HttpRequest.position := by
      apply List.ext_getElem?
      intro place
      rw [Runs.getElem?_set_found same]
      split
      · rename_i here
        rw [here, same]
      · rfl
    rw [List.map_set, kept]
    exact sound.apart
  replied other member := by
    obtain before | rfl := List.mem_or_eq_of_mem_set member
    · exact sound.replied other before
    · exact replied
  refused := sound.refused
  cancelled := sound.cancelled

theorem reached_sound (keyed : Keyed state.router) (context : DownstreamCallContext) :
    ∀ entry ∈ reached state.router context, Reached state.router.calls entry := by
  intro entry member
  unfold reached at member
  split at member
  · rename_i present
    obtain ⟨callId, taken⟩ := Option.isSome_iff_exists.mp present
    obtain ⟨position, call, other, place, found, -, own, same⟩ := keyed.holder taken
    rw [List.mem_singleton.mp member]
    exact ⟨position, call, other, place, found, own, same⟩
  · cases member

theorem refusal_sound (keyed : Keyed state.router) (action : Action) :
    ∀ entry ∈ refusal state.router action, Refused state.router.calls entry := by
  intro entry member
  unfold refusal at member
  split at member
  · rename_i position
    split at member
    · rename_i context progressToken isRetry callId serverId found
      split at member
      · rename_i present
        obtain ⟨winner, taken⟩ := Option.isSome_iff_exists.mp present
        obtain ⟨holder, call, other, place, there, held, own, same⟩ := keyed.holder taken
        rw [List.mem_singleton.mp member]
        refine ⟨holder, _, call, context, other, place, ?_, found, rfl, there, own, same⟩
        -- the refused call is not registered
        rintro rfl
        rw [found] at there
        cases there
        cases held
      · cases member
    · cases member
  · cases member

theorem cancellation_sound (keyed : Keyed state.router) (action : Action) :
    ∀ entry ∈ cancellation state.router action, Reached state.router.calls entry := by
  cases action with
  | cancelDownstream context reason connected => exact reached_sound keyed context
  | _ =>
    intro entry member
    cases member

theorem dropped_keyed {router : Router} (keyed : Keyed router) (position : Nat) :
    Keyed (Router.dropped router position) := by
  unfold Router.dropped
  cases left : ActiveCalls.step router (.leave position) with
  | none => exact keyed
  | some after => exact leave_keyed keyed left

theorem dropped_stays (router : Router) (position : Nat) :
    Stays router.calls (Router.dropped router position).calls := by
  unfold Router.dropped
  cases left : ActiveCalls.step router (.leave position) with
  | none => exact Stays.refl _
  | some after => exact step_stays left

/-- The call of a POST that is over is dropped. -/
theorem Sound.dropped (sound : Sound state) (position : Nat) :
    Sound { state with router := Router.dropped state.router position } := by
  have moved := sound.moves (dropped_keyed sound.keyed position)
    (dropped_stays state.router position) (fun _ member => member) (List.forall_mem_nil _)
    (List.forall_mem_nil _) state.published
  rwa [List.append_nil, List.append_nil] at moved

theorem call_sound (sound : Sound state) {action : Action}
    (stepped : step state (.call action) = some next) : Sound next := by
  have moved : ∃ router, ActiveCalls.step state.router action = some router ∧
      { state with
        router := router
        outcomes := ending state.router action ++ state.outcomes
        refusals := state.refusals ++ refusal state.router action
        cancellations := state.cancellations ++ cancellation state.router action } = next := by
    cases action with
    | finish position => cases stepped
    | _ => exact Option.map_eq_some_iff.mp stepped
  obtain ⟨router, went, rfl⟩ := moved
  exact sound.moves (keyed_step sound.keyed went) (step_stays went)
    (fun _ member => List.mem_append_right _ member) (refusal_sound sound.keyed action)
    (cancellation_sound sound.keyed action) state.published

theorem post_sound (sound : Sound state) {caller : Caller} {requestId : NumberOrString}
    {progressToken : Option NumberOrString}
    (stepped : step state (.post caller requestId progressToken) = some next) : Sound next := by
  rw [step] at stepped
  obtain ⟨router, went, rfl⟩ := Option.map_eq_some_iff.mp stepped
  have entered : router.calls =
      state.router.calls ++ [⟨some (callContext caller requestId), progressToken, false, .entering⟩] := by
    cases went
    rfl
  have stays := step_stays went
  constructor
  · exact keyed_step sound.keyed went
  · intro request member
    obtain before | new := List.mem_append.mp member
    · obtain ⟨call, found, own⟩ := sound.placed request before
      obtain ⟨after, later, kept⟩ := stays _ call found
      exact ⟨after, later, kept.trans own⟩
    · obtain rfl := List.mem_singleton.mp new
      refine ⟨⟨some (callContext caller requestId), progressToken, false, .entering⟩, ?_, rfl⟩
      change router.calls[state.router.calls.length]? = some _
      rw [entered, List.getElem?_concat_length]
  · rw [List.map_append, List.map_singleton]
    refine sound.apart.append (List.nodup_singleton _) ?_
    intro position before new
    obtain ⟨request, member, rfl⟩ := List.mem_map.mp before
    obtain ⟨call, found, -⟩ := sound.placed request member
    have inside := (List.getElem?_eq_some_iff.mp found).1
    exact absurd (List.mem_singleton.mp new) (Nat.ne_of_lt inside)
  · intro request member
    obtain before | new := List.mem_append.mp member
    · exact sound.replied request before
    · obtain rfl := List.mem_singleton.mp new
      intro notifications outcome stage
      cases stage
  · exact fun entry member => (sound.refused entry member).stays stays
  · exact fun entry member => (sound.cancelled entry member).stays stays

theorem sound_step {act : Act Result Note} (sound : Sound state)
    (stepped : step state act = some next) : Sound next := by
  cases act with
  | post caller requestId progressToken => exact post_sound sound stepped
  | call action => exact call_sound sound stepped
  | answer position result =>
    obtain ⟨router, went, rfl⟩ := Option.map_eq_some_iff.mp stepped
    have kept : ∀ entry ∈ state.outcomes, entry ∈ (position, .answered result) :: state.outcomes :=
      fun _ member => List.mem_cons_of_mem _ member
    have moved := sound.moves (keyed_step sound.keyed went) (step_stays went) kept
      (List.forall_mem_nil _) (List.forall_mem_nil _) state.published
    rwa [List.append_nil, List.append_nil] at moved
  | progress serverId progressToken note =>
    cases stepped
    exact ⟨sound.keyed, sound.placed, sound.apart, sound.replied, sound.refused, sound.cancelled⟩
  | publish notification =>
    dsimp only [step] at stepped
    split at stepped
    · cases stepped
    · cases stepped
      exact ⟨sound.keyed, sound.placed, sound.apart, sound.replied, sound.refused, sound.cancelled⟩
  | reply index =>
    dsimp only [step] at stepped
    split at stepped
    · rename_i request found
      split at stepped
      · rename_i call outcome running there came
        split at stepped
        · cases stepped
          refine (sound.dropped request.position).staged found _ ?_
          intro notifications result stage
          obtain ⟨rfl, rfl⟩ := Stage.replied.inj stage
          exact ⟨Tables.mem_of_lookup came, drain_target _ _ _ _⟩
        · cases stepped
      · cases stepped
    · cases stepped
  | drop index =>
    dsimp only [step] at stepped
    split at stepped
    · rename_i request found
      split at stepped
      · obtain ⟨after, went, rfl⟩ := Option.map_eq_some_iff.mp stepped
        have dropped := sound.dropped request.position
        have cancelled := dropped.moves (keyed_step dropped.keyed went) (step_stays went)
          (fun _ member => member) (List.forall_mem_nil _)
          (reached_sound dropped.keyed request.context) state.published
        rw [List.append_nil] at cancelled
        exact cancelled.staged found .dropped nofun
      · cases stepped
    · cases stepped

end Steps

/-! ### Ending and cancelling -/

/-- The call, and the record with its id, are as they were. -/
def Untouched (router next : Router) (position : Nat) : Prop :=
  next.calls[position]? = router.calls[position]? ∧
    ∀ call callId, router.calls[position]? = some call → call.phase.callId = some callId →
      next.index.activeCalls callId = router.index.activeCalls callId

section Ending

variable {router : Router} {position place : Nat} {call : Call}

theorem cancel_untouched (keyed : Keyed router) {context other : DownstreamCallContext}
    (found : router.calls[position]? = some call) (own : call.downstream = some other)
    (apart : other.key ≠ context.key) (reason : Option String) (connected : Bool) :
    Untouched router { router with
      index := (router.index.forwardCancelFromDownstream context reason connected).1 }
      position := by
  refine ⟨rfl, ?_⟩
  intro again callId there ownId
  obtain rfl : call = again := Option.some.inj (found.symm.trans there)
  dsimp only
  unfold Index.forwardCancelFromDownstream
  split
  · rfl
  · rename_i hit taken
    split
    · rfl
    · rename_i record present
      split
      · rfl
      · split
        · refine Function.update_of_ne ?_ _ _
          rintro rfl
          -- the record that was found has the key that was cancelled
          obtain ⟨_, downstream⟩ := keyed.held found ownId present
          obtain ⟨looked, there, carries⟩ := keyed.lookup context.key callId taken
          obtain rfl : record = looked := Option.some.inj (present.symm.trans there)
          obtain rfl : other = record.downstream :=
            Option.some.inj (own.symm.trans downstream)
          exact apart (Option.some.inj carries)
        · rfl

theorem removed_untouched (keyed : Keyed router) {ending after : Call} {ended : Nat}
    (there : router.calls[place]? = some ending) (ownId : ending.phase.callId = some ended)
    (elsewhere : position ≠ place) :
    Untouched router { router with
      index := router.index.removeActiveCall ended
      calls := router.calls.set place after } position := by
  constructor
  · exact (Runs.getElem?_set_found there _ _).trans (if_neg elsewhere)
  · intro call callId found callIs
    dsimp only
    rw [removeActiveCall_activeCalls]
    refine Function.update_of_ne ?_ _ _
    rintro rfl
    exact elsewhere (keyed.numbered.distinct position place callId call ending found there callIs
      ownId)

theorem dropped_untouched (keyed : Keyed router) (elsewhere : position ≠ place) :
    Untouched router (Router.dropped router place) position := by
  unfold Router.dropped
  cases left : ActiveCalls.step router (.leave place) with
  | none => exact ⟨rfl, fun _ _ _ _ => rfl⟩
  | some next =>
    dsimp only [ActiveCalls.step] at left
    split at left
    · rename_i ending there
      split at left
      · rename_i callId serverId context phase present
        cases left
        exact removed_untouched keyed there (by rw [phase]; rfl) elsewhere
      · rename_i callId serverId context phase present
        cases left
        exact removed_untouched keyed there (by rw [phase]; rfl) elsewhere
      · cases left
      · cases left
        exact ⟨(Runs.getElem?_set_found there _ _).trans (if_neg elsewhere), fun _ _ _ _ => rfl⟩
    · cases left

theorem Untouched.trans {middle next : Router} (first : Untouched router middle position)
    (second : Untouched middle next position) : Untouched router next position := by
  refine ⟨second.1.trans first.1, ?_⟩
  intro call callId found own
  exact (second.2 call callId (first.1.trans found) own).trans (first.2 call callId found own)

end Ending

/-- A registration that is refused leaves the index as it is. -/
theorem refused_register {state next : State Result Note} {position : Nat}
    (keyed : Keyed state.router) (stepped : step state (.call (.register position)) = some next)
    (grown : next.refusals ≠ state.refusals) : next.router.index = state.router.index := by
  obtain ⟨router, went, rfl⟩ := Option.map_eq_some_iff.mp stepped
  have some : refusal state.router (.register position) ≠ [] := by
    intro none
    exact grown (by dsimp only; rw [none, List.append_nil])
  unfold refusal at some
  dsimp only at some
  split at some
  · rename_i context progressToken isRetry callId serverId found
    split at some
    · rename_i present
      obtain ⟨winner, taken⟩ := Option.isSome_iff_exists.mp present
      dsimp only [ActiveCalls.step] at went
      rw [found] at went
      dsimp only at went
      rw [keyed.register_refused found rfl taken] at went
      cases went
      rfl
    · exact absurd rfl some
  · exact absurd rfl some

/-- Of two POSTs with different ids, what one has of the other: the outcome of its own call, only
notifications for its caller, no refusal and no cancellation. Nor does it touch the other's call
when it ends early or is cancelled. -/
structure Apart (state : State Result Note) (index : Nat) (first second : HttpRequest Result Note) :
    Prop where
  result : ∀ notifications outcome, first.stage = .replied notifications outcome →
    (first.position, outcome) ∈ state.outcomes ∧ first.position ≠ second.position
  notifications : ∀ notifications outcome, first.stage = .replied notifications outcome →
    ∀ notification ∈ notifications,
      resolve notification = .toTarget (.http first.caller.clientId.toList)
  refused : (first.position, some second.position) ∉ state.refusals
  cancelled : (first.context, some second.position) ∉ state.cancellations
  ends : ∀ next, step state (.drop index) = some next →
    Untouched state.router next.router second.position
  cancels : ∀ reason connected next,
    step state (.call (.cancelDownstream first.context reason connected)) = some next →
    Untouched state.router next.router second.position

theorem Sound.requests_apart {state : State Result Note} (sound : Sound state) {index other : Nat}
    {first second : HttpRequest Result Note} (found : state.requests[index]? = some first)
    (there : state.requests[other]? = some second) (differ : first.requestId ≠ second.requestId) :
    Apart state index first second := by
  have member := List.mem_of_getElem? found
  obtain ⟨call, placed, own⟩ := sound.placed first member
  obtain ⟨further, otherPlaced, otherOwn⟩ := sound.placed second (List.mem_of_getElem? there)
  have keys : second.context.key ≠ first.context.key := fun same =>
    differ (congrArg DownstreamCallKey.requestId same).symm
  have places : second.position ≠ first.position := by
    intro same
    rw [same, placed] at otherPlaced
    cases otherPlaced
    rw [own] at otherOwn
    exact keys (congrArg DownstreamCallContext.key (Option.some.inj otherOwn)).symm
  constructor
  · intro notifications outcome stage
    exact ⟨(sound.replied first member notifications outcome stage).1, places.symm⟩
  · intro notifications outcome stage
    exact (sound.replied first member notifications outcome stage).2
  · intro entry
    obtain ⟨holder, refused, held, context, taken, place, -, here, is, holds, has, same⟩ :=
      sound.refused _ entry
    cases place
    rw [placed] at here
    cases here
    rw [otherPlaced] at holds
    cases holds
    obtain rfl := Option.some.inj (own.symm.trans is)
    obtain rfl := Option.some.inj (otherOwn.symm.trans has)
    exact keys same
  · intro entry
    obtain ⟨holder, held, taken, place, holds, has, same⟩ := sound.cancelled _ entry
    cases place
    rw [otherPlaced] at holds
    cases holds
    obtain rfl := Option.some.inj (otherOwn.symm.trans has)
    exact keys same
  · intro next stepped
    dsimp only [step] at stepped
    rw [found] at stepped
    dsimp only at stepped
    split at stepped
    · obtain ⟨after, went, rfl⟩ := Option.map_eq_some_iff.mp stepped
      cases went
      have dropped := @dropped_untouched state.router second.position first.position sound.keyed places
      exact dropped.trans (cancel_untouched (dropped_keyed sound.keyed first.position)
        (dropped.1.trans otherPlaced) otherOwn keys endedReason true)
    · cases stepped
  · intro reason connected next stepped
    dsimp only [step] at stepped
    obtain ⟨after, went, rfl⟩ := Option.map_eq_some_iff.mp stepped
    cases went
    exact cancel_untouched sound.keyed otherPlaced otherOwn keys reason connected

def alice : Caller := .principal "alice"

/-- Two calls with ids and tokens of their own: the server reports the progress of the second one
and answers the first. -/
def crossing : List (Act String String) :=
  [.post alice (.number 1) (some (.string "first")),
    .post alice (.number 2) (some (.string "second")),
    .call (.number 0 "mail"), .call (.register 0), .call (.number 1 "mail"), .call (.register 1),
    .call (.send 0 (.number 10) (.number 10)), .call (.send 1 (.number 11) (.number 11)),
    .progress "mail" (.number 11) "half", .answer 0 "sent", .reply 0]

/-- Two calls with one id. -/
def sameId : List (Act String String) :=
  [.post alice (.number 1) none, .post alice (.number 1) none,
    .call (.number 0 "mail"), .call (.register 0), .call (.number 1 "mail"), .call (.register 1)]

end Plug.HttpCalls
