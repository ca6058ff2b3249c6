import Plug.Runs

/-!
# The legacy event stream of an upstream

One task reads the stream of events, dials again when it breaks and passes the messages on in two
bounded channels. The worker takes them from there and hands them to the handler, whose channel
is bounded too. Responses and errors wait for room in both hops; other messages are dropped when a
channel is full. What is parsed and what is handed over is recorded in order.
-/

namespace Plug.LegacySse

inductive Kind where
  | request
  | response
  | notification
  | error
deriving DecidableEq

/-- A message of the server, with the rest of its text. -/
structure ServerJsonRpcMessage where
  kind : Kind
  body : String
deriving DecidableEq

def isResponseMessage (message : ServerJsonRpcMessage) : Bool :=
  message.kind = .response || message.kind = .error

structure Sse where
  id : Option String
  event : Option String
  data : Option String
deriving DecidableEq

/-- The configuration of the transport and what it takes from elsewhere. -/
structure Transport where
  /-- The messages that each of the two channels holds, and the handler's channel. -/
  channelBufferCapacity : Nat
  handlerCapacity : Nat
  /-- Another try is made after so many retries. -/
  retries : Nat → Bool
  /-- The endpoint that an event names, of the server's own origin. -/
  resolveEndpoint : String → Option String
  parse : String → Option ServerJsonRpcMessage

/-- What the stream's task is doing. -/
inductive Stream where
  | connecting
  | reading
  /-- Waiting for room for a response. -/
  | sending (message : ServerJsonRpcMessage)
  | ended
deriving DecidableEq

/-- What the worker is doing, with the messages that came before the answer to initialize. -/
inductive Phase where
  | waitingForEndpoint
  | waitingForInitialize
  | initializing (buffered : List ServerJsonRpcMessage)
  /-- Waiting for room for the answer to initialize. -/
  | initialized (response : ServerJsonRpcMessage) (buffered : List ServerJsonRpcMessage)
  | delivering (buffered : List ServerJsonRpcMessage)
  | running
  /-- Waiting for room for a response. -/
  | sending (response : ServerJsonRpcMessage)
  | quit
deriving DecidableEq

structure State where
  stream : Stream
  lastEventId : Option String
  retryCount : Nat
  endpoint : Option String
  /-- Endpoints that replaced another one. -/
  replaced : List String
  responses : List ServerJsonRpcMessage
  notifications : List ServerJsonRpcMessage
  phase : Phase
  /-- The messages in the handler's channel. -/
  toHandler : List ServerJsonRpcMessage
  parsed : List ServerJsonRpcMessage
  handed : List ServerJsonRpcMessage
deriving DecidableEq

def start : State where
  stream := .connecting
  lastEventId := none
  retryCount := 0
  endpoint := none
  replaced := []
  responses := []
  notifications := []
  phase := .waitingForEndpoint
  toHandler := []
  parsed := []
  handed := []

inductive Action where
  /-- The stream is opened, or the attempt fails. -/
  | dial (opened : Bool)
  | event (event : Sse)
  /-- The stream fails or comes to its end. -/
  | breakOff
  /-- The response that waits for room is put into its channel. -/
  | send
  | takeEndpoint
  /-- The handler's initialize message is posted, or that fails. -/
  | postInitialize (posted : Bool)
  | takeResponse
  | takeNotification
  /-- The message that waits for room is put into the handler's channel. -/
  | hand
  /-- The next of the messages from before is delivered, or there is none left. -/
  | deliverBuffered
  | handlerTakes
  | quit
deriving DecidableEq

variable (transport : Transport)

def publishEndpoint (state : State) (endpoint : String) : State :=
  { state with
    endpoint := some endpoint
    replaced := match state.endpoint with
      | some previous => if previous = endpoint then state.replaced else endpoint :: state.replaced
      | none => state.replaced }

def isMessageEvent (event : Sse) : Bool :=
  event.event = none || event.event = some "" || event.event = some "message"

/-- The message that an event carries. -/
def messageOf (event : Sse) : Option ServerJsonRpcMessage :=
  if isMessageEvent event then event.data.bind transport.parse else none

/-- A response waits for room in its channel; another message is put into the other channel if
there is room, and dropped if there is none or nobody reads it any more. -/
def forward (state : State) (message : ServerJsonRpcMessage) : State :=
  let parsed := state.parsed ++ [message]
  if isResponseMessage message then { state with stream := .sending message, parsed := parsed }
  else if state.notifications.length < transport.channelBufferCapacity ∧ state.phase ≠ .quit then
    { state with notifications := state.notifications ++ [message], parsed := parsed }
  else { state with parsed := parsed }

def processEvent (state : State) (event : Sse) : State :=
  let state := { state with lastEventId := event.id <|> state.lastEventId }
  if event.event = some "endpoint" then
    match event.data.bind transport.resolveEndpoint with
    | some endpoint => publishEndpoint state endpoint
    | none => { state with stream := .ended }
  else
    match messageOf transport event with
    | some message => forward transport state message
    | none => state

/-- The stream is dialled again if the policy allows another try. -/
def retry (state : State) : State :=
  if transport.retries state.retryCount then
    { state with stream := .connecting, retryCount := state.retryCount + 1 }
  else { state with stream := .ended }

/-- The message is handed over if the handler's channel has room, and dropped otherwise. -/
def deliverNotificationBestEffort (state : State) (message : ServerJsonRpcMessage) : State :=
  if state.toHandler.length < transport.handlerCapacity then
    { state with
      toHandler := state.toHandler ++ [message]
      handed := state.handed ++ [message] }
  else state

/-- The message is put into the handler's channel, which has room. -/
def handOver (state : State) (message : ServerJsonRpcMessage) (phase : Phase) : State :=
  { state with
    toHandler := state.toHandler ++ [message]
    handed := state.handed ++ [message]
    phase := phase }

def step (state : State) : Action → Option State
  | .dial opened =>
    if state.stream = .connecting then
      if opened then some { state with stream := .reading, retryCount := 0 }
      else some (retry transport state)
    else none
  | .event event =>
    if state.stream = .reading then some (processEvent transport state event) else none
  | .breakOff => if state.stream = .reading then some (retry transport state) else none
  | .send =>
    match state.stream with
    | .sending message =>
      if state.phase = .quit then some { state with stream := .ended }
      else if state.responses.length < transport.channelBufferCapacity then
        some { state with stream := .reading, responses := state.responses ++ [message] }
      else none
    | _ => none
  | .takeEndpoint =>
    if state.phase = .waitingForEndpoint ∧ state.endpoint.isSome then
      some { state with phase := .waitingForInitialize }
    else none
  | .postInitialize posted =>
    if state.phase = .waitingForInitialize then
      some { state with phase := if posted then .initializing [] else .quit }
    else none
  | .takeResponse =>
    match state.responses with
    | [] => none
    | message :: rest =>
      match state.phase with
      | .initializing buffered =>
        some { state with responses := rest, phase := .initialized message buffered }
      | .running => some { state with responses := rest, phase := .sending message }
      | _ => none
  | .takeNotification =>
    match state.notifications with
    | [] => none
    | message :: rest =>
      match state.phase with
      | .initializing buffered =>
        some { state with notifications := rest, phase := .initializing (buffered ++ [message]) }
      | .running =>
        some (deliverNotificationBestEffort transport { state with notifications := rest } message)
      | _ => none
  | .hand =>
    if state.toHandler.length < transport.handlerCapacity then
      match state.phase with
      | .initialized response buffered => some (handOver state response (.delivering buffered))
      | .sending response => some (handOver state response .running)
      | _ => none
    else none
  | .deliverBuffered =>
    match state.phase with
    | .delivering [] => some { state with phase := .running }
    | .delivering (message :: rest) =>
      some (deliverNotificationBestEffort transport { state with phase := .delivering rest } message)
    | _ => none
  | .handlerTakes =>
    match state.toHandler with
    | [] => none
    | _ :: rest => some { state with toHandler := rest }
  | .quit => some { state with phase := .quit }

end Plug.LegacySse
