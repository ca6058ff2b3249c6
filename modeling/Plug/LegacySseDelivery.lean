import Plug.LegacySse

/-!
# What the legacy event stream delivers

Every response is on its way from the stream to the handler, in order, and so is every request as
long as there is room for each request at both hops. A request that meets a full channel is
dropped there like a notification, so a run loses none exactly if there always is room.
-/

namespace Plug.LegacySse

variable {transport : Transport} {state next : State}

def isRequest (message : ServerJsonRpcMessage) : Bool :=
  message.kind = .request

/-! ### Messages under way -/

/-- The response that the worker waits with. -/
def Phase.inHand : Phase → List ServerJsonRpcMessage
  | .initialized response _ => [response]
  | .sending response => [response]
  | _ => []

/-- The messages from before the answer to initialize. -/
def Phase.before : Phase → List ServerJsonRpcMessage
  | .initializing buffered => buffered
  | .initialized _ buffered => buffered
  | .delivering buffered => buffered
  | _ => []

/-- The response that the stream's task waits with. -/
def Stream.inHand : Stream → List ServerJsonRpcMessage
  | .sending message => [message]
  | _ => []

def State.pendingResponses (state : State) : List ServerJsonRpcMessage :=
  state.phase.inHand ++ state.responses ++ state.stream.inHand

def State.pendingOthers (state : State) : List ServerJsonRpcMessage :=
  state.phase.before ++ state.notifications

/-- Responses and other messages do not mix. -/
structure Sorted (state : State) : Prop where
  responses : ∀ message ∈ state.pendingResponses, isResponseMessage message = true
  others : ∀ message ∈ state.pendingOthers, isResponseMessage message = false

/-- What was parsed is what was handed over and what is under way, each message once and in the
order in which they came. -/
structure Lossless (state : State) : Prop where
  responses : state.parsed.filter isResponseMessage =
    state.handed.filter isResponseMessage ++ state.pendingResponses
  requests : state.parsed.filter isRequest =
    state.handed.filter isRequest ++ state.pendingOthers.filter isRequest

/-- A request is parsed only when the channel of the other messages has room for it, and taken
from there, or from the messages from before, only when the handler's channel has. -/
def RoomForRequests (transport : Transport) (state : State) : Action → Prop
  | .event event =>
    state.stream = .reading → state.phase ≠ .quit → event.event ≠ some "endpoint" →
      ∀ message, messageOf transport event = some message → isRequest message = true →
        state.notifications.length < transport.channelBufferCapacity
  | .takeNotification =>
    state.phase = .running → ∀ message rest, state.notifications = message :: rest →
      isRequest message = true → state.toHandler.length < transport.handlerCapacity
  | .deliverBuffered =>
    ∀ message rest, state.phase = .delivering (message :: rest) → isRequest message = true →
      state.toHandler.length < transport.handlerCapacity
  | _ => True

theorem not_request {message : ServerJsonRpcMessage} (response : isResponseMessage message = true) :
    isRequest message = false := by
  obtain ⟨kind, body⟩ := message
  cases kind <;> simp_all [isResponseMessage, isRequest]

/-! ### Single steps -/

/-- A message that is forwarded goes to those of its class. -/
theorem sorted_forward (sorted : Sorted state) (reading : state.stream = .reading)
    (message : ServerJsonRpcMessage) : Sorted (forward transport state message) := by
  have idle : state.pendingResponses = state.phase.inHand ++ state.responses := by
    rw [State.pendingResponses, reading]
    exact List.append_nil _
  rw [forward]
  split
  · rename_i response
    refine ⟨?_, sorted.others⟩
    intro other member
    rcases List.mem_append.mp member with before | new
    · exact sorted.responses other (idle ▸ before)
    · rw [List.mem_singleton.mp new]
      exact response
  · rename_i other
    rw [Bool.not_eq_true] at other
    split
    · refine ⟨sorted.responses, ?_⟩
      intro second member
      rw [State.pendingOthers, ← List.append_assoc] at member
      rcases List.mem_append.mp member with before | new
      · exact sorted.others second before
      · rw [List.mem_singleton.mp new]
        exact other
    · exact ⟨sorted.responses, sorted.others⟩

/-- Of the messages that are parsed, only a request without room is lost. -/
theorem lossless_forward (lossless : Lossless state) (reading : state.stream = .reading)
    (live : state.phase ≠ .quit) (message : ServerJsonRpcMessage) :
    Lossless (forward transport state message) ↔ (isRequest message = true →
      state.notifications.length < transport.channelBufferCapacity) := by
  have idle : state.pendingResponses = state.phase.inHand ++ state.responses := by
    rw [State.pendingResponses, reading]
    exact List.append_nil _
  have responses := lossless.responses
  have requests := lossless.requests
  rw [forward]
  split
  · rename_i response
    have request := not_request response
    have added : State.pendingResponses { state with
        stream := .sending message, parsed := state.parsed ++ [message] } =
        state.pendingResponses ++ [message] := by
      rw [idle]
      rfl
    refine iff_of_true ⟨?_, ?_⟩ (by simp [request])
    · rw [added]
      simp only [List.filter_append, List.filter_singleton, response, cond_true, responses,
        List.append_assoc]
    · simp only [List.filter_append, List.filter_singleton, request, cond_false, List.append_nil]
      exact requests
  · rename_i other
    rw [Bool.not_eq_true] at other
    have parsedResponses : (state.parsed ++ [message]).filter isResponseMessage =
        state.parsed.filter isResponseMessage := by
      rw [List.filter_append, List.filter_singleton, other, cond_false, List.append_nil]
    split
    · rename_i room
      have added : State.pendingOthers { state with
          notifications := state.notifications ++ [message], parsed := state.parsed ++ [message] } =
          state.pendingOthers ++ [message] :=
        (List.append_assoc _ _ _).symm
      refine iff_of_true ⟨parsedResponses.trans responses, ?_⟩ fun _ => room.1
      rw [added]
      simp only [List.filter_append, requests, List.append_assoc]
    · rename_i full
      constructor
      · -- A request that is parsed and not put anywhere is one more than those under way.
        intro kept request
        have more := kept.requests
        dsimp only at more
        rw [List.filter_append, requests] at more
        have length := congrArg List.length more
        have same : State.pendingOthers { state with parsed := state.parsed ++ [message] } =
            state.pendingOthers := rfl
        simp only [List.length_append, List.filter_singleton, request, cond_true,
          List.length_singleton, same] at length
        omega
      · intro room
        have request : isRequest message = false := by
          by_contra isRequest
          exact full ⟨room (by simpa using isRequest), live⟩
        refine ⟨parsedResponses.trans responses, ?_⟩
        simp only [List.filter_append, List.filter_singleton, request, cond_false, List.append_nil]
        exact requests

/-- Of the messages that are delivered with the best effort, only a request without room is
lost. -/
theorem lossless_deliver (lossless : Lossless state) {message : ServerJsonRpcMessage}
    {taken : State} (other : isResponseMessage message = false)
    (sameQueue : taken.toHandler = state.toHandler) (sameParsed : taken.parsed = state.parsed)
    (sameHanded : taken.handed = state.handed)
    (sameResponses : taken.pendingResponses = state.pendingResponses)
    (before : state.pendingOthers = message :: taken.pendingOthers) :
    Lossless (deliverNotificationBestEffort transport taken message) ↔
      (isRequest message = true → state.toHandler.length < transport.handlerCapacity) := by
  have responses := lossless.responses
  have requests := lossless.requests
  rw [before] at requests
  rw [deliverNotificationBestEffort, sameQueue]
  split
  · rename_i room
    refine iff_of_true ⟨?_, ?_⟩ fun _ => room
    · have same : State.pendingResponses { taken with
          toHandler := state.toHandler ++ [message], handed := taken.handed ++ [message] } =
          state.pendingResponses := sameResponses
      rw [same]
      dsimp only
      simp only [sameParsed, sameHanded, List.filter_append, List.filter_singleton, other,
        cond_false, List.append_nil]
      exact responses
    · have same : State.pendingOthers { taken with
          toHandler := state.toHandler ++ [message], handed := taken.handed ++ [message] } =
          taken.pendingOthers := rfl
      rw [same]
      dsimp only
      rw [sameParsed, sameHanded, requests, List.filter_append, List.append_assoc]
      exact congrArg _ (List.filter_append [message] _)
  · rename_i full
    constructor
    · intro kept request
      have more := kept.requests
      rw [sameParsed, sameHanded, requests, List.filter_cons_of_pos request] at more
      have length := congrArg List.length more
      simp only [List.length_append, List.length_cons] at length
      omega
    · intro room
      have request : isRequest message = false := by
        by_contra isRequest
        exact full (room (by simpa using isRequest))
      constructor
      · rw [sameParsed, sameHanded, sameResponses]
        exact responses
      · rw [sameParsed, sameHanded, requests, List.filter_cons_of_neg (by simp [request])]

/-- Neither the messages under way nor those that are recorded change. -/
structure Same (state next : State) : Prop where
  parsed : next.parsed = state.parsed
  handed : next.handed = state.handed
  responses : next.pendingResponses = state.pendingResponses
  others : next.pendingOthers = state.pendingOthers

theorem Same.sorted (same : Same state next) (sorted : Sorted state) : Sorted next :=
  ⟨same.responses ▸ sorted.responses, same.others ▸ sorted.others⟩

theorem Same.lossless (same : Same state next) (lossless : Lossless state) : Lossless next := by
  constructor
  · rw [same.parsed, same.handed, same.responses]
    exact lossless.responses
  · rw [same.parsed, same.handed, same.others]
    exact lossless.requests

theorem retry_same (idle : state.stream.inHand = []) : Same state (retry transport state) := by
  rw [retry]
  split
  · exact ⟨rfl, rfl, by rw [State.pendingResponses, State.pendingResponses, idle]; rfl, rfl⟩
  · exact ⟨rfl, rfl, by rw [State.pendingResponses, State.pendingResponses, idle]; rfl, rfl⟩

theorem retry_phase : (retry transport state).phase = state.phase := by
  rw [retry]
  split <;> rfl

theorem forward_phase (message : ServerJsonRpcMessage) :
    (forward transport state message).phase = state.phase := by
  rw [forward]
  split
  · rfl
  · split <;> rfl

theorem deliver_phase (message : ServerJsonRpcMessage) :
    (deliverNotificationBestEffort transport state message).phase = state.phase := by
  rw [deliverNotificationBestEffort]
  split <;> rfl

/-- A response that is handed over is the first one under way. -/
theorem handOver_spec {response : ServerJsonRpcMessage} (phase : Phase) (sorted : Sorted state)
    (inHand : state.phase.inHand = [response]) (free : phase.inHand = [])
    (before : phase.before = state.phase.before) :
    Sorted (handOver state response phase) ∧
      (Lossless state → Lossless (handOver state response phase)) := by
  have under : state.pendingResponses = response :: (handOver state response phase).pendingResponses := by
    rw [State.pendingResponses, State.pendingResponses, inHand, handOver, free]
    rfl
  have others : (handOver state response phase).pendingOthers = state.pendingOthers := by
    rw [State.pendingOthers, State.pendingOthers, handOver, before]
  have isResponse := sorted.responses response (under ▸ List.mem_cons_self)
  refine ⟨⟨?_, others ▸ sorted.others⟩, fun lossless => ⟨?_, ?_⟩⟩
  · intro message member
    exact sorted.responses message (under ▸ List.mem_cons_of_mem _ member)
  · have responses := lossless.responses
    rw [under] at responses
    rw [show (handOver state response phase).parsed = state.parsed from rfl, responses,
      show (handOver state response phase).handed = state.handed ++ [response] from rfl,
      List.filter_append, List.append_assoc, List.filter_singleton, isResponse]
    rfl
  · rw [others, show (handOver state response phase).parsed = state.parsed from rfl,
      lossless.requests,
      show (handOver state response phase).handed = state.handed ++ [response] from rfl,
      List.filter_append, List.filter_singleton, not_request isResponse, cond_false, List.append_nil]

/-- An event loses nothing unless it brings a request that the channel has no room for. -/
theorem processEvent_spec (sorted : Sorted state) (reading : state.stream = .reading) (event : Sse) :
    Sorted (processEvent transport state event) ∧
      ((state.phase ≠ .quit → Lossless state) →
        (((processEvent transport state event).phase ≠ .quit →
          Lossless (processEvent transport state event)) ↔
          RoomForRequests transport state (.event event))) := by
  generalize isSeen : { state with lastEventId := event.id <|> state.lastEventId } = seen
  have same : Same state seen := isSeen ▸ ⟨rfl, rfl, rfl, rfl⟩
  have seenReading : seen.stream = .reading := isSeen ▸ reading
  have seenPhase : seen.phase = state.phase := isSeen ▸ rfl
  have room : seen.notifications = state.notifications := isSeen ▸ rfl
  have idle : seen.pendingResponses = seen.phase.inHand ++ seen.responses := by
    rw [State.pendingResponses, seenReading]
    exact List.append_nil _
  have keeps {after : State} (unchanged : Same seen after) (phase : after.phase = state.phase)
      (spared : RoomForRequests transport state (.event event)) :
      Sorted after ∧ ((state.phase ≠ .quit → Lossless state) →
        ((after.phase ≠ .quit → Lossless after) ↔
          RoomForRequests transport state (.event event))) := by
    refine ⟨unchanged.sorted (same.sorted sorted), fun lossless => iff_of_true ?_ spared⟩
    intro live
    exact unchanged.lossless (same.lossless (lossless (phase ▸ live)))
  rw [processEvent, isSeen]
  by_cases endpoint : event.event = some "endpoint"
  · rw [if_pos endpoint]
    have spared : RoomForRequests transport state (.event event) :=
      fun _ _ other => absurd endpoint other
    split
    · exact keeps ⟨rfl, rfl, rfl, rfl⟩ seenPhase spared
    · refine keeps ⟨rfl, rfl, ?_, rfl⟩ seenPhase spared
      rw [idle]
      exact List.append_nil _
  · rw [if_neg endpoint]
    split
    · rename_i message carries
      refine ⟨sorted_forward (same.sorted sorted) seenReading message, fun lossless => ?_⟩
      rw [forward_phase, seenPhase]
      constructor
      · intro kept _ live _ other carried request
        obtain rfl := Option.some.inj (carries.symm.trans carried)
        rw [← room]
        exact (lossless_forward (same.lossless (lossless live)) seenReading (seenPhase ▸ live)
          message).mp (kept live) request
      · intro roomy live
        apply (lossless_forward (same.lossless (lossless live)) seenReading (seenPhase ▸ live)
          message).mpr
        intro request
        rw [room]
        exact roomy reading live endpoint message carries request
    · rename_i nothing
      refine keeps ⟨rfl, rfl, rfl, rfl⟩ seenPhase ?_
      intro _ _ _ message carries
      rw [nothing] at carries
      cases carries

/-- A message that is delivered with the best effort is no response. -/
theorem sorted_deliver {message : ServerJsonRpcMessage} {taken : State} (sorted : Sorted taken) :
    Sorted (deliverNotificationBestEffort transport taken message) := by
  rw [deliverNotificationBestEffort]
  split
  · exact ⟨sorted.responses, sorted.others⟩
  · exact sorted

/-- What one step does to the messages under way, whatever the step. -/
theorem step_spec (sorted : Sorted state) {action : Action}
    (stepped : step transport state action = some next) :
    Sorted next ∧ ((state.phase ≠ .quit → Lossless state) →
      ((next.phase ≠ .quit → Lossless next) ↔ RoomForRequests transport state action)) := by
  have keeps (same : Same state next) (phase : next.phase ≠ .quit → state.phase ≠ .quit)
      (spared : RoomForRequests transport state action) :
      Sorted next ∧ ((state.phase ≠ .quit → Lossless state) →
        ((next.phase ≠ .quit → Lossless next) ↔ RoomForRequests transport state action)) :=
    ⟨same.sorted sorted, fun lossless =>
      iff_of_true (fun live => same.lossless (lossless (phase live))) spared⟩
  cases action with
  | dial opened =>
    simp only [step] at stepped
    split at stepped
    · rename_i connecting
      have idle : state.stream.inHand = [] := by rw [connecting]; rfl
      split at stepped
      · cases stepped
        refine keeps ⟨rfl, rfl, ?_, rfl⟩ id trivial
        rw [State.pendingResponses, State.pendingResponses, idle]
        rfl
      · cases stepped
        exact keeps (retry_same idle) (fun live quit => live (retry_phase.trans quit)) trivial
    · cases stepped
  | event event =>
    simp only [step] at stepped
    split at stepped
    · rename_i reading
      cases stepped
      exact processEvent_spec sorted reading event
    · cases stepped
  | breakOff =>
    simp only [step] at stepped
    split at stepped
    · rename_i reading
      have idle : state.stream.inHand = [] := by rw [reading]; rfl
      cases stepped
      exact keeps (retry_same idle) (fun live quit => live (retry_phase.trans quit)) trivial
    · cases stepped
  | send =>
    simp only [step] at stepped
    split at stepped
    · rename_i message sending
      have under : state.pendingResponses = state.phase.inHand ++ (state.responses ++ [message]) := by
        rw [State.pendingResponses, sending, List.append_assoc]
        rfl
      split at stepped
      · rename_i quit
        cases stepped
        refine ⟨⟨?_, sorted.others⟩, fun _ => iff_of_true (fun live => absurd quit live) trivial⟩
        intro other member
        refine sorted.responses other ?_
        rw [under]
        simp only [State.pendingResponses, Stream.inHand, List.append_nil, List.mem_append] at member
        simp only [List.mem_append]
        exact member.imp_right Or.inl
      · split at stepped
        · cases stepped
          refine keeps ⟨rfl, rfl, ?_, rfl⟩ id trivial
          rw [under]
          exact List.append_nil _
        · cases stepped
    · cases stepped
  | takeEndpoint =>
    simp only [step] at stepped
    split at stepped
    · rename_i waiting
      cases stepped
      refine keeps ⟨rfl, rfl, ?_, ?_⟩ (fun _ => by rw [waiting.1]; simp) trivial
      · rw [State.pendingResponses, State.pendingResponses, waiting.1]
        rfl
      · rw [State.pendingOthers, State.pendingOthers, waiting.1]
        rfl
    · cases stepped
  | postInitialize posted =>
    simp only [step] at stepped
    split at stepped
    · rename_i waiting
      cases stepped
      refine keeps ⟨rfl, rfl, ?_, ?_⟩ (fun _ => by rw [waiting]; simp) trivial
      · rw [State.pendingResponses, State.pendingResponses, waiting]
        cases posted <;> rfl
      · rw [State.pendingOthers, State.pendingOthers, waiting]
        cases posted <;> rfl
    · cases stepped
  | takeResponse =>
    simp only [step] at stepped
    split at stepped
    · cases stepped
    · rename_i message rest queued
      split at stepped
      · rename_i buffered phase
        cases stepped
        refine keeps ⟨rfl, rfl, ?_, ?_⟩ (fun _ => by rw [phase]; simp) trivial
        · rw [State.pendingResponses, State.pendingResponses, phase, queued]
          rfl
        · rw [State.pendingOthers, State.pendingOthers, phase]
          rfl
      · rename_i phase
        cases stepped
        refine keeps ⟨rfl, rfl, ?_, ?_⟩ (fun _ => by rw [phase]; simp) trivial
        · rw [State.pendingResponses, State.pendingResponses, phase, queued]
          rfl
        · rw [State.pendingOthers, State.pendingOthers, phase]
          rfl
      · cases stepped
  | takeNotification =>
    simp only [step] at stepped
    split at stepped
    · cases stepped
    · rename_i message rest queued
      split at stepped
      · rename_i buffered phase
        cases stepped
        refine keeps ⟨rfl, rfl, ?_, ?_⟩ (fun _ => by rw [phase]; simp)
          fun running => absurd (phase.symm.trans running) (by simp)
        · rw [State.pendingResponses, State.pendingResponses, phase]
          rfl
        · rw [State.pendingOthers, State.pendingOthers, phase, queued]
          exact List.append_assoc _ _ _
      · rename_i phase
        cases stepped
        have others : state.pendingOthers = message :: State.pendingOthers
            { state with notifications := rest } := by
          rw [State.pendingOthers, State.pendingOthers, phase, queued]
          rfl
        have other := sorted.others message (others ▸ List.mem_cons_self)
        have live : state.phase ≠ .quit := by rw [phase]; simp
        refine ⟨sorted_deliver ⟨sorted.responses, ?_⟩, fun lossless => ?_⟩
        · intro second member
          exact sorted.others second (others ▸ List.mem_cons_of_mem _ member)
        · have decided : Lossless (deliverNotificationBestEffort transport
              { state with notifications := rest } message) ↔ _ :=
            lossless_deliver (lossless live) other rfl rfl rfl rfl others
          rw [deliver_phase]
          constructor
          · intro kept _ first _ isFirst request
            obtain ⟨rfl, -⟩ := List.cons.inj (queued.symm.trans isFirst)
            exact decided.mp (kept live) request
          · intro roomy _
            exact decided.mpr (roomy phase message rest queued)
      · cases stepped
  | hand =>
    simp only [step] at stepped
    split at stepped
    · split at stepped
      · rename_i response buffered phase
        cases stepped
        have live : state.phase ≠ .quit := by rw [phase]; simp
        obtain ⟨after, kept⟩ := handOver_spec (.delivering buffered) sorted (by rw [phase]; rfl) rfl
          (by rw [phase]; rfl)
        exact ⟨after, fun lossless => iff_of_true (fun _ => kept (lossless live)) trivial⟩
      · rename_i response phase
        cases stepped
        have live : state.phase ≠ .quit := by rw [phase]; simp
        obtain ⟨after, kept⟩ := handOver_spec .running sorted (by rw [phase]; rfl) rfl
          (by rw [phase]; rfl)
        exact ⟨after, fun lossless => iff_of_true (fun _ => kept (lossless live)) trivial⟩
      · cases stepped
    · cases stepped
  | deliverBuffered =>
    simp only [step] at stepped
    split at stepped
    · rename_i phase
      cases stepped
      refine keeps ⟨rfl, rfl, ?_, ?_⟩ (fun _ => by rw [phase]; simp)
        fun message rest other => absurd (phase.symm.trans other) (by simp)
      · rw [State.pendingResponses, State.pendingResponses, phase]
        rfl
      · rw [State.pendingOthers, State.pendingOthers, phase]
        rfl
    · rename_i message rest phase
      cases stepped
      have others : state.pendingOthers = message :: State.pendingOthers
          { state with phase := .delivering rest } := by
        rw [State.pendingOthers, State.pendingOthers, phase]
        rfl
      have responses : State.pendingResponses { state with phase := .delivering rest } =
          state.pendingResponses := by
        rw [State.pendingResponses, State.pendingResponses, phase]
        rfl
      have other := sorted.others message (others ▸ List.mem_cons_self)
      have live : state.phase ≠ .quit := by rw [phase]; simp
      refine ⟨sorted_deliver ⟨responses ▸ sorted.responses, ?_⟩, fun lossless => ?_⟩
      · intro second member
        exact sorted.others second (others ▸ List.mem_cons_of_mem _ member)
      · have decided : Lossless (deliverNotificationBestEffort transport
            { state with phase := .delivering rest } message) ↔ _ :=
          lossless_deliver (lossless live) other rfl rfl rfl responses others
        rw [deliver_phase]
        constructor
        · intro kept first later isFirst request
          obtain ⟨rfl, -⟩ := List.cons.inj (Phase.delivering.inj (phase.symm.trans isFirst))
          exact decided.mp (kept (by simp)) request
        · intro roomy _
          exact decided.mpr (roomy message rest phase)
    · cases stepped
  | handlerTakes =>
    simp only [step] at stepped
    split at stepped
    · cases stepped
    · cases stepped
      exact keeps ⟨rfl, rfl, rfl, rfl⟩ id trivial
  | quit =>
    cases stepped
    refine ⟨⟨?_, ?_⟩, fun _ => iff_of_true (fun live => absurd rfl live) trivial⟩
    · intro message member
      refine sorted.responses message ?_
      simp only [State.pendingResponses, Phase.inHand, List.nil_append, List.mem_append] at member ⊢
      exact member.imp_left Or.inr
    · intro message member
      exact sorted.others message (List.mem_append_right _ member)

/-! ### Runs -/

/-- The worker has the answer to initialize, and there is nothing left to pass on. -/
structure AtRest (transport : Transport) (state : State) : Prop where
  started : state.phase ≠ .waitingForEndpoint ∧ state.phase ≠ .waitingForInitialize ∧
    (∀ buffered, state.phase ≠ .initializing buffered) ∧ state.phase ≠ .quit
  rests : ∀ action ∈ [Action.send, .takeResponse, .takeNotification, .hand, .deliverBuffered,
    .handlerTakes], step transport state action = none

/-- At rest nothing is under way. -/
theorem AtRest.pending (rest : AtRest transport state) (capacity : 0 < transport.channelBufferCapacity)
    (room : 0 < transport.handlerCapacity) :
    state.pendingResponses = [] ∧ state.pendingOthers = [] := by
  obtain ⟨endpoint, initial, initializing, live⟩ := rest.started
  have none (action : Action) := rest.rests action
  have emptied : state.toHandler = [] := by
    have stuck := none .handlerTakes (by decide)
    simp only [step] at stuck
    split at stuck
    · assumption
    · cases stuck
  have hand := none .hand (by decide)
  have deliver := none .deliverBuffered (by decide)
  simp only [step, emptied, List.length_nil, if_pos room] at hand deliver
  have running : state.phase = .running := by
    cases phase : state.phase with
    | waitingForEndpoint => exact absurd phase endpoint
    | waitingForInitialize => exact absurd phase initial
    | initializing buffered => exact absurd phase (initializing buffered)
    | initialized response buffered => simp [phase] at hand
    | delivering buffered => cases buffered <;> simp [phase] at deliver
    | running => rfl
    | sending response => simp [phase] at hand
    | quit => exact absurd phase live
  have responses : state.responses = [] := by
    have stuck := none .takeResponse (by decide)
    simp only [step, running] at stuck
    split at stuck
    · assumption
    · cases stuck
  have notifications : state.notifications = [] := by
    have stuck := none .takeNotification (by decide)
    simp only [step, running] at stuck
    split at stuck
    · assumption
    · cases stuck
  have stream : state.stream.inHand = [] := by
    have stuck := none .send (by decide)
    simp only [step, running, responses, List.length_nil, if_pos capacity] at stuck
    split at stuck
    · cases stuck
    · rename_i other
      cases isStream : state.stream with
      | sending message => exact absurd isStream (other message)
      | _ => rfl
  constructor
  · rw [State.pendingResponses, running, responses, stream]
    rfl
  · rw [State.pendingOthers, running, notifications]
    rfl

/-- Every response, error and request that was parsed has been handed over, once and in order. -/
structure Delivered (state : State) : Prop where
  responses : state.handed.filter isResponseMessage = state.parsed.filter isResponseMessage
  requests : state.handed.filter isRequest = state.parsed.filter isRequest

theorem Lossless.delivered (lossless : Lossless state) (capacity : 0 < transport.channelBufferCapacity)
    (room : 0 < transport.handlerCapacity) (rest : AtRest transport state) : Delivered state := by
  obtain ⟨responses, others⟩ := rest.pending capacity room
  constructor
  · rw [lossless.responses, responses, List.append_nil]
  · rw [lossless.requests, others, List.filter_nil, List.append_nil]

/-- A step that cannot be taken loses nothing. -/
theorem room_of_none {action : Action} (refused : step transport state action = none) :
    RoomForRequests transport state action := by
  cases action with
  | event event =>
    intro reading
    simp [step, reading] at refused
  | takeNotification =>
    intro running message rest queued
    simp [step, running, queued] at refused
  | deliverBuffered =>
    intro message rest delivering
    simp [step, delivering] at refused
  | _ => trivial

theorem sorted_start : Sorted start :=
  ⟨fun message member => absurd member (by simp [State.pendingResponses, start, Phase.inHand,
    Stream.inHand]), fun message member => absurd member (by simp [State.pendingOthers, start,
    Phase.before])⟩

/-- In a run, all responses, errors and requests that were parsed are handed over or under way in
every state while the worker lives, and handed over whenever it comes to rest, exactly if there was
room for each request. -/
theorem delivered_iff (transport : Transport) (capacity : 0 < transport.channelBufferCapacity)
    (room : 0 < transport.handlerCapacity) (trace : List Action) :
    (∀ front final, front <+: trace → Runs.exec (step transport) start front = some final →
      final.phase ≠ .quit → Lossless final ∧ (AtRest transport final → Delivered final)) ↔
    Runs.Admitted (step transport) (RoomForRequests transport) start trace := by
  have lasts : Runs.Admitted (step transport) (RoomForRequests transport) start trace ↔
      ∀ front final, front <+: trace → Runs.exec (step transport) start front = some final →
        Sorted final ∧ (final.phase ≠ .quit → Lossless final) := by
    apply Runs.admitted_iff
    · rintro state action next ⟨sorted, lossless⟩ stepped
      obtain ⟨after, decided⟩ := step_spec sorted stepped
      rw [← decided lossless]
      exact (and_iff_right after).symm
    · intro state action
      exact room_of_none
    · exact ⟨sorted_start, fun _ => ⟨rfl, rfl⟩⟩
  rw [lasts]
  constructor
  · intro kept front final starts ran
    refine ⟨?_, fun live => (kept front final starts ran live).1⟩
    refine Runs.exec_invariant (step transport) (fun _ _ => True) Sorted ?_ front start final
      sorted_start (Runs.Admitted.of_forall (fun _ _ => trivial) start) ran
    intro state action next _ sorted stepped
    exact (step_spec sorted stepped).1
  · intro kept front final starts ran live
    have lossless := (kept front final starts ran).2 live
    exact ⟨lossless, lossless.delivered capacity room⟩

/-! ### A full channel -/

def notified : Sse := ⟨none, some "message", some "\x7b\"method\":\"notifications/progress\"\x7d"⟩

/-- A transport with the default capacity. -/
def legacyTransport : Transport where
  channelBufferCapacity := 16
  handlerCapacity := 16
  retries _ := true
  resolveEndpoint data := some ("https://mcp.example.com" ++ data)
  parse data :=
    if data = "\x7b\"method\":\"notifications/progress\"\x7d" then some ⟨.notification, data⟩
    else if data = "\x7b\"id\":7,\"method\":\"elicitation/create\"\x7d" then some ⟨.request, data⟩
    else some ⟨.response, data⟩

/-- The worker has the answer to initialize, then sixteen notifications and a request come before
it goes on. -/
def busy : List Action :=
  [.dial true, .event ⟨none, some "endpoint", some "/messages?session=1"⟩, .takeEndpoint,
    .postInitialize true, .event ⟨none, none, some "\x7b\"id\":0,\"result\":\x7b\x7d\x7d"⟩, .send,
    .takeResponse, .hand, .deliverBuffered, .handlerTakes] ++
    List.replicate 16 (.event notified) ++
    [.event ⟨none, none, some "\x7b\"id\":7,\"method\":\"elicitation/create\"\x7d"⟩]

theorem delivered_iff_busy :
    (∀ front final, front <+: busy → Runs.exec (step legacyTransport) start front = some final →
      final.phase ≠ .quit → Lossless final ∧ (AtRest legacyTransport final → Delivered final)) ↔
    Runs.Admitted (step legacyTransport) (RoomForRequests legacyTransport) start busy :=
  delivered_iff legacyTransport (by decide) (by decide) busy

/-- A request that comes when the channel of the notifications is full is lost. -/
theorem request_lost : ¬ ∀ (transport : Transport) (trace : List Action) (final : State),
    0 < transport.channelBufferCapacity → 0 < transport.handlerCapacity →
    Runs.exec (step transport) start trace = some final → final.phase ≠ .quit →
    Lossless final ∧ (AtRest transport final → Delivered final) := by
  intro claim
  have run : (Runs.exec (step legacyTransport) start busy).map (fun final =>
      ((final.parsed.filter isRequest).length, (final.handed.filter isRequest).length,
        (final.pendingOthers.filter isRequest).length, final.phase)) = some (1, 0, 0, .running) := by
    decide +kernel
  obtain ⟨final, ran, observed⟩ := Option.map_eq_some_iff.mp run
  simp only [Prod.mk.injEq] at observed
  obtain ⟨parsed, handed, pending, running⟩ := observed
  obtain ⟨lossless, -⟩ := claim legacyTransport busy final (by decide) (by decide) ran
    (by rw [running]; simp)
  have length := congrArg List.length lossless.requests
  rw [List.length_append, parsed, handed, pending] at length
  exact absurd length (by decide)

end Plug.LegacySse
