import Plug.Queues

/-!
# Events of a downstream session

A session numbers its events, and keeps the latest of them twice: those that no stream took
wait in `pending_notifications`, and all of them in `replay_events`, from which a client that
names the last event it saw is served again. A stream is a bounded channel. The session's
entry is locked in every step, but `send_to_live_session` gives the lock up between the
numbering of an event and what it does when no stream took it. Consumers take events from
their channels, and drop them, at any time.
-/

namespace Plug.Sse

def pendingLimit : Nat := 32
def replayLimit : Nat := 128
/-- `u64::MAX`, at which ids stop. -/
def maxEventId : Nat := 18446744073709551615

inductive SseReplayKey where
  | reverseRequest (id : Int)
deriving DecidableEq

structure SseMessage where
  serialized : String
  replayKey : Option SseReplayKey
deriving DecidableEq

structure SseEvent where
  id : Nat
  message : SseMessage
deriving DecidableEq

/-! ### Channels -/

/-- `sent` has everything that was put on the channel. -/
structure Channel where
  capacity : Nat
  buffered : Nat
  closed : Bool
  sent : List SseEvent
deriving DecidableEq

def Channel.new (capacity : Nat) : Channel where
  capacity := capacity
  buffered := 0
  closed := false
  sent := []

/-- `try_send`; nothing when the channel is full or closed. -/
def Channel.trySend (channel : Channel) (event : SseEvent) : Option Channel :=
  if channel.closed = false ∧ channel.buffered < channel.capacity then
    some { channel with
      buffered := channel.buffered + 1
      sent := channel.sent ++ [event] }
  else none

def Channel.receive (channel : Channel) (count : Nat) : Channel :=
  { channel with buffered := channel.buffered - count }

def Channel.close (channel : Channel) : Channel :=
  { channel with closed := true }

/-- What a consumer does between two sends. -/
structure Gap where
  received : Nat
  closes : Bool
deriving DecidableEq

def Channel.during (channel : Channel) (gap : Gap) : Channel :=
  let channel := channel.receive gap.received
  if gap.closes then channel.close else channel

/-! ### Sessions -/

structure SessionState where
  lastActivity : Nat
  sseSender : Option Nat
  pendingNotifications : List SseEvent
  replayEvents : List SseEvent
  nextEventId : Nat
  reopened : Bool
deriving DecidableEq

def SessionState.new (now : Nat) (reopened : Bool) : SessionState where
  lastActivity := now
  sseSender := none
  pendingNotifications := []
  replayEvents := []
  nextEventId := 1
  reopened := reopened

def SessionState.enqueuePending (entry : SessionState) (event : SseEvent) : SessionState :=
  { entry with
    pendingNotifications := Queues.push pendingLimit entry.pendingNotifications event }

def SessionState.requeueFront (entry : SessionState) (events : List SseEvent) : SessionState :=
  { entry with pendingNotifications := events ++ entry.pendingNotifications }

def SessionState.enqueueReplay (entry : SessionState) (event : SseEvent) : SessionState :=
  { entry with replayEvents := Queues.push replayLimit entry.replayEvents event }

def SessionState.nextEvent (entry : SessionState) (message : SseMessage) :
    SseEvent × SessionState :=
  let event : SseEvent := ⟨entry.nextEventId, message⟩
  let numbered := { entry with nextEventId := min (entry.nextEventId + 1) maxEventId }
  (event, numbered.enqueueReplay event)

def SessionState.touch (entry : SessionState) (now : Nat) : SessionState :=
  { entry with lastActivity := now }

def SessionState.clearSender (entry : SessionState) : SessionState :=
  { entry with sseSender := none }

/-! ### Replay -/

/-- Events sent one after another until one is refused: those sent, those that were not, and
the channel after them. -/
def sendAll (channel : Channel) (gaps : List Gap) :
    List SseEvent → List SseEvent × List SseEvent × Channel
  | [] => ([], [], channel)
  | event :: rest =>
    let channel := (gaps.head?.map channel.during).getD channel
    match channel.trySend event with
    | some after =>
      let (sent, unsent, last) := sendAll after gaps.tail rest
      (event :: sent, unsent, last)
    | none => ([], event :: rest, channel)

/-- The events a stream is first served. -/
def SessionState.replayFor (entry : SessionState) (lastEventId : Option Nat) : List SseEvent :=
  match lastEventId with
  | some last => entry.replayEvents.filter fun event => last < event.id
  | none => entry.pendingNotifications

/-- The session when a stream has taken the events `sent`, before the cleanup. -/
def SessionState.stopped (entry : SessionState) (lastEventId : Option Nat) (now : Nat)
    (sent unsent : List SseEvent) : SessionState :=
  let drained :=
    if lastEventId.isNone then { entry with pendingNotifications := [] } else entry
  let touched := if sent.isEmpty then drained else drained.touch now
  match unsent with
  | [] => touched
  | failed :: rest =>
    if lastEventId.isNone then (touched.requeueFront (failed :: rest)).clearSender
    else (touched.enqueuePending failed).clearSender

def sentThrough (lastEventId : Option Nat) (sent : List SseEvent) : Option Nat :=
  (sent.getLast?.map SseEvent.id).or lastEventId

/-- What is queued is dropped up to the last event that was sent. -/
def SessionState.cleaned (entry : SessionState) (sentThrough : Option Nat) : SessionState :=
  match sentThrough with
  | some sentId => { entry with
      pendingNotifications := entry.pendingNotifications.filter fun event => sentId < event.id }
  | none => entry

def SessionState.sendReplayEvents (entry : SessionState) (channel : Channel)
    (lastEventId : Option Nat) (now : Nat) (gaps : List Gap) : SessionState × Channel :=
  let (sent, unsent, channel) := sendAll channel gaps (entry.replayFor lastEventId)
  ((entry.stopped lastEventId now sent unsent).cleaned (sentThrough lastEventId sent), channel)

/-! ### The store, for one session -/

/-- An event between the phases of `send_to_live_session`, and the stream that refused it. -/
structure Sending where
  event : SseEvent
  failedSender : Option Nat
deriving DecidableEq

/-- Channels are never forgotten here, so that one that is no longer attached can be asked
what was put on it. -/
structure System where
  timeout : Nat
  session : Option SessionState
  channels : List Channel
  sends : List Sending
deriving DecidableEq

def System.new (timeout : Nat) : System where
  timeout := timeout
  session := none
  channels := []
  sends := []

def trySendOn (channels : List Channel) (sender : Nat) (event : SseEvent) :
    Option (List Channel) :=
  (channels[sender]?).bind fun channel => (channel.trySend event).map (channels.set sender)

def SessionState.expired (entry : SessionState) (timeout now : Nat) : Bool :=
  decide (timeout < now - entry.lastActivity)

/-- `enqueue_or_deliver_racy`: whether the event went out, and what is left. -/
def SessionState.enqueueOrDeliverRacy (entry : SessionState) (channels : List Channel)
    (event : SseEvent) (now : Nat) : Bool × SessionState × List Channel :=
  match entry.sseSender with
  | some sender =>
    match trySendOn channels sender event with
    | some after => (true, entry.touch now, after)
    | none => (false, entry.enqueuePending event, channels)
  | none => (false, entry.enqueuePending event, channels)

/-- The stream that refused the event is taken out; another one that came in is tried. -/
def SessionState.clearSenderIfMatching (entry : SessionState) (channels : List Channel)
    (failedSender : Nat) (event : SseEvent) (now : Nat) : SessionState × List Channel :=
  if entry.sseSender = some failedSender then
    (entry.clearSender.enqueuePending event, channels)
  else (entry.enqueueOrDeliverRacy channels event now).2

/-- The second phase of `try_send_to_session`. -/
def SessionState.finishSend (entry : SessionState) (channels : List Channel) (sending : Sending)
    (now : Nat) : SessionState × List Channel :=
  match sending.failedSender with
  | some failedSender => entry.clearSenderIfMatching channels failedSender sending.event now
  | none => (entry.enqueueOrDeliverRacy channels sending.event now).2

inductive Act where
  /-- `create_session`, or `reopen_session` under the same id. -/
  | opened (now : Nat) (reopened : Bool)
  /-- The session is removed, for whatever reason. -/
  | remove
  /-- The first phase of `send_to_live_session`; `allowed` is the answer of the access check. -/
  | send (now : Nat) (message : SseMessage) (allowed : Bool)
  | finish (index now : Nat)
  /-- What `broadcast_where` does to this session; `admitted` says that its audience and its
  grant are meant. -/
  | broadcast (now : Nat) (message : SseMessage) (allowed admitted : Bool)
  | setSseSender (now capacity : Nat) (lastEventId : Option Nat) (gaps : List Gap)
  | removeReplayEventsByKey (key : SseReplayKey)
  | receive (channel count : Nat)
  | close (channel : Nat)

/-- A session that has expired, or whose access has ended, is sent nothing. -/
def System.sendable (state : System) (now : Nat) (allowed : Bool) : Option SessionState :=
  state.session.filter fun entry => !entry.expired state.timeout now && allowed

/-- An id this session never issued says nothing about what the client has seen. -/
def SessionState.honouredId (entry : SessionState) (lastEventId : Option Nat) : Option Nat :=
  if entry.reopened then none else lastEventId.filter fun id => id < entry.nextEventId

def SessionState.attach (entry : SessionState) (now sender : Nat) : SessionState :=
  { entry with
    lastActivity := now
    sseSender := some sender
    reopened := false }

def System.setSseSender (state : System) (entry : SessionState) (now capacity : Nat)
    (lastEventId : Option Nat) (gaps : List Gap) : System :=
  let (served, channel) :=
    (entry.attach now state.channels.length).sendReplayEvents (Channel.new capacity)
      (entry.honouredId lastEventId) now gaps
  { state with
    session := some served
    channels := state.channels ++ [channel] }

def System.beginSend (state : System) (entry : SessionState) (now : Nat) (message : SseMessage) :
    System :=
  let (event, numbered) := entry.nextEvent message
  match numbered.sseSender with
  | some sender =>
    match trySendOn state.channels sender event with
    | some channels => { state with
        session := some (numbered.touch now)
        channels := channels }
    | none => { state with
        session := some numbered
        sends := state.sends ++ [⟨event, some sender⟩] }
  | none => { state with
      session := some numbered
      sends := state.sends ++ [⟨event, none⟩] }

def System.broadcast (state : System) (entry : SessionState) (now : Nat) (message : SseMessage) :
    System :=
  let (event, numbered) := entry.nextEvent message
  match numbered.sseSender with
  | some sender =>
    match trySendOn state.channels sender event with
    | some channels => { state with
        session := some (numbered.touch now)
        channels := channels }
    | none => { state with session := some (numbered.clearSender.enqueuePending event) }
  | none => { state with session := some (numbered.enqueuePending event) }

def SessionState.removeReplayEventsByKey (entry : SessionState) (key : SseReplayKey) :
    SessionState :=
  { entry with
    replayEvents := entry.replayEvents.filter fun event =>
      decide (event.message.replayKey ≠ some key)
    pendingNotifications := entry.pendingNotifications.filter fun event =>
      decide (event.message.replayKey ≠ some key) }

def step (state : System) : Act → Option System
  | .opened now reopened =>
    if state.session.isNone then some { state with session := some (.new now reopened) } else none
  | .remove => some { state with session := none }
  | .send now message allowed =>
    match state.sendable now allowed with
    | some entry => some (state.beginSend entry now message)
    | none => some state
  | .finish index now =>
    match state.sends[index]? with
    | some sending =>
      let rest := { state with sends := state.sends.eraseIdx index }
      match state.session with
      | some entry =>
        let (entry, channels) := entry.finishSend state.channels sending now
        some { rest with
          session := some entry
          channels := channels }
      | none => some rest
    | none => none
  | .broadcast now message allowed admitted =>
    match state.sendable now allowed with
    | some entry => some (if admitted then state.broadcast entry now message else state)
    | none => some state
  | .setSseSender now capacity lastEventId gaps =>
    match state.session with
    | some entry => some (state.setSseSender entry now capacity lastEventId gaps)
    | none => none
  | .removeReplayEventsByKey key =>
    some { state with session := state.session.map fun entry => entry.removeReplayEventsByKey key }
  | .receive channel count =>
    some { state with channels := state.channels.modify channel fun found => found.receive count }
  | .close channel =>
    some { state with channels := state.channels.modify channel Channel.close }

end Plug.Sse
