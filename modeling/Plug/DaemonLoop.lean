import Plug.DaemonRequests

/-!
# The loop of a connection

One loop reads the frames of a proxy and writes all replies. A request runs in the loop, which
goes on reading meanwhile and keeps what it reads for later, or, when it is tagged and the
connection registered, on a task of its own. A reverse request comes from a bridge call through a
channel, and its reply is handed to that call.

Each operation between two points at which something else may happen is one action. What a
request's dispatch answers, when tasks finish or panic and when callers give up is free. Frames
are numbered as they are read, and bridge calls as they are made.
-/

namespace Plug.Daemon

open Proxy (insertWaiter removeWaiter waiterOf)

variable {Content Result Body : Type}

/-- What the reader yields: a frame, the end of the stream, or an error. -/
inductive Received (Content : Type) where
  | frame (number : Nat) (frame : Frame Content)
  | closed
  | failed
deriving DecidableEq

/-- A request that dispatches on its own task, and what came of it. -/
structure RequestTask (Body : Type) where
  id : Nat
  number : Nat
  /-- Nothing while it runs. A task that panicked has no response. -/
  outcome : Option (Option (IpcResponse Body)) := none

inductive Phase where
  /-- The loop is about to take the next frame. -/
  | idle
  /-- A request runs in the loop, which holds the channel of reverse requests meanwhile. -/
  | dispatching (number : Nat) (ipcId : Option Nat) (kind : RequestKind)
      (reverseRx : Option (List Nat)) (readAhead : Bool)
  | ended
deriving DecidableEq

/-- A reply that was written, with the number of the frame that it answers. -/
structure Reply (Body : Type) where
  number : Nat
  ipcId : Option Nat
  response : IpcResponse Body

/-- A response that was handed to a call that still waits. `position` counts the replies read
before it. -/
structure Handed (Result : Type) where
  id : Nat
  call : Nat
  position : Nat
  response : IpcClientResponse Result

structure Connection (Content Result Body : Type) where
  phase : Phase := .idle
  /-- `Register` gave the connection a session. -/
  session : Bool := false
  /-- The connection has been registered, and reads may be cancelled. -/
  subscribed : Bool := false
  /-- The channel of reverse requests, with the calls in it. -/
  reverseRx : Option (List Nat) := none
  deferred : List (Received Content) := []
  tasks : List (RequestTask Body) := []
  /-- The `ipc_id` of each task. -/
  ids : Nat → Option Nat := fun _ => none
  nextTask : Nat := 0
  pendingReverse : PendingReverse := []
  /-- Shared with the other connections. -/
  reverseRequestCounter : Nat := 1
  nextCall : Nat := 0
  /-- The calls that do not wait any more. -/
  gaveUp : List Nat := []
  /-- The frames that were read. -/
  read : List (Frame Content) := []
  written : List (Reply Body) := []
  /-- The reverse requests that were written, with their calls. -/
  sent : List (Nat × Nat) := []
  /-- The frames that were taken for replies to reverse requests. -/
  replies : List (Frame Content) := []
  handed : List (Handed Result) := []

def maxConcurrentRequestsPerConnection : Nat := 32

/-- How many reverse requests the channel holds. -/
def reverseCapacity : Nat := 8

namespace Connection

def write (state : Connection Content Result Body) (number : Nat) (ipcId : Option Nat)
    (response : IpcResponse Body) : Connection Content Result Body :=
  { state with written := state.written ++ [⟨number, ipcId, response⟩] }

def reads (state : Connection Content Result Body) (frame : Frame Content) :
    Connection Content Result Body :=
  { state with read := state.read ++ [frame] }

/-- The queue without its first frame. -/
def popped (state : Connection Content Result Body) (rest : List (Received Content)) :
    Connection Content Result Body :=
  { state with deferred := rest }

/-- After the loop the channel is dropped, and calls of the bridge fail at once. -/
def close (state : Connection Content Result Body) : Connection Content Result Body :=
  { state with phase := .ended, reverseRx := none }

/-! ### Reverse requests -/

def sendReverseRequest (state : Connection Content Result Body) (call : Nat) :
    Connection Content Result Body :=
  { state with
    pendingReverse := insertWaiter state.reverseRequestCounter call state.pendingReverse
    reverseRequestCounter := state.reverseRequestCounter + 1
    sent := state.sent ++ [(state.reverseRequestCounter, call)] }

def deliverReverseReply (serde : Serde Content Result) (state : Connection Content Result Body)
    (reverseId : Nat) (frame : Frame Content) : Connection Content Result Body :=
  { state with
    pendingReverse := removeWaiter reverseId state.pendingReverse
    replies := state.replies ++ [frame]
    handed :=
      match waiterOf reverseId state.pendingReverse with
      | some call =>
        if call ∈ state.gaveUp then state.handed
        else state.handed ++ [⟨reverseId, call, state.replies.length, replyOf serde frame⟩]
      | none => state.handed }

/-! ### Requests -/

def authorize (authToken : String) (request : IpcRequest) : Option (IpcResponse Body) :=
  if requiresAuth request then
    match extractAuthToken request with
    | some provided =>
      if provided = authToken then none else some (.error "AUTH_FAILED" "invalid auth token")
    | none => some (.error "AUTH_REQUIRED" "auth_token required for this command")
  else none

/-- A task holds a permit while it runs. -/
def running (state : Connection Content Result Body) : Nat :=
  (state.tasks.filter fun task => task.outcome.isNone).length

def spawn (state : Connection Content Result Body) (number ipcId : Nat) :
    Connection Content Result Body :=
  { state with
    tasks := state.tasks ++ [{ id := state.nextTask, number := number }]
    ids := Function.update state.ids state.nextTask (some ipcId)
    nextTask := state.nextTask + 1 }

/-- The channel is taken out for the time of the dispatch. -/
def dispatch (state : Connection Content Result Body) (number : Nat) (ipcId : Option Nat)
    (kind : RequestKind) : Connection Content Result Body :=
  { state with
    phase := .dispatching number ipcId kind state.reverseRx state.subscribed
    reverseRx := none }

def busy : IpcResponse Body :=
  .error "BUSY" "this connection already has 32 requests running; retry"

def handleRequest (state : Connection Content Result Body) (number : Nat) (ipcId : Option Nat)
    (request : IpcRequest) : Connection Content Result Body :=
  match ipcId with
  | some id =>
    if state.session = true ∧ mustRunInline request = false then
      if state.running < maxConcurrentRequestsPerConnection then state.spawn number id
      else state.write number (some id) busy
    else state.dispatch number (some id) request.kind
  | none => state.dispatch number none request.kind

/-- What the loop does with the next frame. -/
def handleFrame (serde : Serde Content Result) (authToken : String)
    (state : Connection Content Result Body) (number : Nat) (frame : Frame Content) :
    Connection Content Result Body :=
  match reverseReplyTarget serde state.pendingReverse frame with
  | some reverseId => state.deliverReverseReply serde reverseId frame
  | none =>
    match parseRequest serde frame with
    | none =>
      (state.write number frame.ids.ipcId ((protocolParseErrorResponse serde frame).getD
        (.error "PARSE_ERROR" "invalid request format"))).close
    | some request =>
      match authorize authToken request with
      | some refusal => state.write number frame.ids.ipcId refusal
      | none => state.handleRequest number frame.ids.ipcId request

/-- The next of what was read. After an error the proxy is told, and after either end there is
nothing more. -/
def handle (serde : Serde Content Result) (authToken : String)
    (state : Connection Content Result Body) :
    Received Content → Connection Content Result Body
  | .frame number frame => state.handleFrame serde authToken number frame
  | _ => state.close

/-- What is read while a request runs waits for its turn, but for a reply to a reverse request. -/
def readAhead (serde : Serde Content Result) (state : Connection Content Result Body)
    (number : Nat) (frame : Frame Content) : Connection Content Result Body :=
  match reverseReplyTarget serde state.pendingReverse frame with
  | some reverseId => state.deliverReverseReply serde reverseId frame
  | none => { state with deferred := state.deferred ++ [.frame number frame] }

/-- The reply of a task, under the id of its request. -/
def writeInFlightReply (state : Connection Content Result Body) (task : RequestTask Body)
    (outcome : Option (IpcResponse Body)) : Connection Content Result Body :=
  let response := outcome.getD (.error "INTERNAL_ERROR" "request handler failed")
  match state.ids task.id with
  | some ipcId =>
    { state.write task.number (some ipcId) response with
      ids := Function.update state.ids task.id none }
  | none => state

def registers : RequestKind → IpcResponse Body → Bool
  | .register, .registered _ => true
  | _, _ => false

def deregisters : RequestKind → IpcResponse Body → Bool
  | .deregister, .ok => true
  | _, _ => false

/-- The end of an inline dispatch. `Register` gives the connection a session and a new channel, and
`Deregister` takes them away; after any other request the channel is put back. -/
def finish (state : Connection Content Result Body) (number : Nat) (ipcId : Option Nat)
    (kind : RequestKind) (reverseRx : Option (List Nat)) (response : IpcResponse Body) :
    Connection Content Result Body :=
  let session := registers kind response || (state.session && !deregisters kind response)
  let answered :=
    { state.write number ipcId response with
      phase := .idle
      session := session
      subscribed := state.subscribed || session
      reverseRx :=
        if registers kind response then some []
        else if deregisters kind response then none else reverseRx }
  if kind = .shutdown then answered.close else answered

end Connection

/-! ### Actions -/

/-- What comes from the socket. -/
inductive Input (Content : Type) where
  | frame (frame : Frame Content)
  | closed
  | failed
deriving DecidableEq

inductive Act (Content Body : Type) where
  | receive (input : Input Content)
  /-- The loop takes a frame that was read ahead. -/
  | next
  /-- The request in the loop is answered. -/
  | finish (response : IpcResponse Body)
  /-- The task at a place finishes with a response, or panics. -/
  | settle (place : Nat) (outcome : Option (IpcResponse Body))
  /-- The loop writes the reply of the finished task at a place. -/
  | join (place : Nat)
  /-- A bridge call puts its request into the channel. -/
  | call
  | giveUp (call : Nat)
  /-- The loop takes a request from the channel and writes it. -/
  | reverse
  /-- Another connection takes a number from the counter. -/
  | elsewhere
  /-- The daemon is shut down, the connection idles too long, a write fails, or a request panics in
  the loop. -/
  | stop

namespace Connection

/-- The channel, with the loop or held by the request that runs. -/
def channel (state : Connection Content Result Body) : Option (List Nat) :=
  match state.phase with
  | .dispatching _ _ _ reverseRx _ => reverseRx
  | _ => state.reverseRx

def setChannel (state : Connection Content Result Body) (calls : List Nat) :
    Connection Content Result Body :=
  match state.phase with
  | .dispatching number ipcId kind _ readAhead =>
    { state with phase := .dispatching number ipcId kind (some calls) readAhead }
  | _ => { state with reverseRx := some calls }

/-- The loop also waits for tasks and reverse requests: while a request runs, and on a connection
that has been registered. -/
def listens (state : Connection Content Result Body) : Bool :=
  match state.phase with
  | .idle => state.subscribed && state.deferred.isEmpty
  | .dispatching .. => true
  | .ended => false

end Connection

open Connection

def step (serde : Serde Content Result) (authToken : String)
    (state : Connection Content Result Body) :
    Act Content Body → Option (Connection Content Result Body)
  | .receive input =>
    match state.phase with
    | .idle =>
      if state.deferred.isEmpty then
        match input with
        | .frame frame =>
          some ((state.reads frame).handleFrame serde authToken state.read.length frame)
        | _ => some state.close
      else none
    | .dispatching number ipcId kind reverseRx true =>
      match input with
      | .frame frame =>
        some ((state.reads frame).readAhead serde state.read.length frame)
      | .closed =>
        some { state with
          phase := .dispatching number ipcId kind reverseRx false
          deferred := state.deferred ++ [.closed] }
      | .failed =>
        some { state with
          phase := .dispatching number ipcId kind reverseRx false
          deferred := state.deferred ++ [.failed] }
    | _ => none
  | .next =>
    match state.phase, state.deferred with
    | .idle, item :: rest => some ((state.popped rest).handle serde authToken item)
    | _, _ => none
  | .finish response =>
    match state.phase with
    | .dispatching number ipcId kind reverseRx _ =>
      some (state.finish number ipcId kind reverseRx response)
    | _ => none
  | .settle place outcome =>
    match state.tasks[place]? with
    | some task =>
      if task.outcome.isNone then
        some { state with tasks := state.tasks.set place { task with outcome := some outcome } }
      else none
    | none => none
  | .join place =>
    if state.listens then
      match state.tasks[place]? with
      | some task =>
        task.outcome.map fun outcome =>
          { state with tasks := state.tasks.eraseIdx place }.writeInFlightReply task outcome
      | none => none
    else none
  | .call =>
    match state.channel with
    | some calls =>
      if calls.length < reverseCapacity then
        some { state.setChannel (calls ++ [state.nextCall]) with nextCall := state.nextCall + 1 }
      else none
    | none => none
  | .giveUp call => some { state with gaveUp := call :: state.gaveUp }
  | .reverse =>
    if state.listens then
      match state.channel with
      | some (call :: calls) => some ((state.setChannel calls).sendReverseRequest call)
      | _ => none
    else none
  | .elsewhere => some { state with reverseRequestCounter := state.reverseRequestCounter + 1 }
  | .stop => some state.close

end Plug.Daemon
