import Mathlib.Logic.Function.Basic
import Plug.IpcFrames
import Plug.Runs

/-!
# One connection to the daemon

The requests of a proxy share a connection. Each call of `roundTrip` takes a slot, an id and a
place in the table of waiters, hands its request to the writer and waits. The reader hands a reply
to the waiter of its id, or to the oldest waiter when the daemon is too old to send ids. Each
operation between two points at which another task may run is one action, and the clocks, the
socket and the daemon are free to act at any time.

A response is named by the call whose request it answers.
-/

namespace Plug.Proxy

open Ipc (TransportFailure)

variable {Caller : Type}

/-! ### Waiters by id -/

/-- Put a waiter in the table, which is ordered by the ids. A waiter of the same id is replaced. -/
def insertWaiter (id : Nat) (waiter : Caller) : List (Nat × Caller) → List (Nat × Caller)
  | [] => [(id, waiter)]
  | item :: rest =>
    if id < item.1 then (id, waiter) :: item :: rest
    else if id = item.1 then (id, waiter) :: rest
    else item :: insertWaiter id waiter rest

def waiterOf (id : Nat) (pending : List (Nat × Caller)) : Option Caller :=
  (pending.find? fun item => item.1 = id).map Prod.snd

def removeWaiter (id : Nat) (pending : List (Nat × Caller)) : List (Nat × Caller) :=
  pending.filter fun item => item.1 ≠ id

theorem mem_insertWaiter {id : Nat} {waiter : Caller} {pending : List (Nat × Caller)}
    {item : Nat × Caller} (member : item ∈ insertWaiter id waiter pending) :
    item = (id, waiter) ∨ item ∈ pending := by
  induction pending with
  | nil => exact Or.inl (List.mem_singleton.mp member)
  | cons first rest ih =>
    rw [insertWaiter] at member
    split at member
    · exact List.mem_cons.mp member
    · split at member
      · exact (List.mem_cons.mp member).imp_right (List.mem_cons_of_mem first)
      · cases List.mem_cons.mp member with
        | inl same => exact Or.inr (same ▸ List.mem_cons_self)
        | inr later => exact (ih later).imp_right (List.mem_cons_of_mem first)

/-- The newest id stands last. -/
theorem insertWaiter_newest {id : Nat} {waiter : Caller} {pending : List (Nat × Caller)}
    (newest : ∀ item ∈ pending, item.1 < id) :
    insertWaiter id waiter pending = pending ++ [(id, waiter)] := by
  induction pending with
  | nil => rfl
  | cons first rest ih =>
    have older : first.1 < id := newest first List.mem_cons_self
    rw [insertWaiter, if_neg (by omega), if_neg (by omega), List.cons_append,
      ih fun item member => newest item (List.mem_cons_of_mem first member)]

theorem mem_of_waiterOf {id : Nat} {pending : List (Nat × Caller)} {waiter : Caller}
    (found : waiterOf id pending = some waiter) : (id, waiter) ∈ pending := by
  obtain ⟨item, present, same⟩ := Option.map_eq_some_iff.mp found
  have matching : item.1 = id := by simpa using List.find?_some present
  have whole : item = (id, waiter) := Prod.ext matching same
  exact whole ▸ List.mem_of_find?_eq_some present

/-! ### The connection -/

/-- Where a call of `roundTrip` is. -/
inductive Phase where
  | absent
  | acquiring
  /-- The slot is held. -/
  | admitted
  | numbered
  | encoded
  /-- The waiter is in the table, and the payload still to be handed over. -/
  | registered
  | waiting
  | finished
  | dropped
deriving DecidableEq

structure RoundTrip (Caller : Type) where
  phase : Phase := .absent
  /-- The request is one that the daemon answers inline, and needs no slot. -/
  bypass : Bool := false
  id : Option Nat := none
  /-- What was sent to the waiter. -/
  reply : Option (Except TransportFailure Caller) := none
  result : Option (Except TransportFailure Caller) := none

structure Frame (Caller : Type) where
  ipcId : Option Nat
  request : Caller
deriving DecidableEq

/-- A frame of the daemon, as far as waiters are concerned. -/
inductive Incoming (Caller : Type) where
  | reply (frame : Frame Caller)
  /-- A frame that cannot be decoded: the reply to a request, or no reply at all. -/
  | garbled (answers : Option (Frame Caller))
  /-- A notification, a reverse request, or a chunk that is not the last. -/
  | other
deriving DecidableEq

inductive Writer where
  | running
  /-- A write failed, which was not noted yet. -/
  | failed (failure : TransportFailure)
  /-- The waiters are left to the reader for a while. -/
  | grace (failure : TransportFailure)
  | stopped

structure DaemonMux (Caller : Type) where
  /-- False when the daemon predates tagged requests. -/
  tagged : Bool
  slots : Nat
  /-- Seconds that one request waits for its reply. -/
  ceiling : Nat
  nextId : Nat := 1
  pending : List (Nat × Caller) := []
  closed : Option String := none
  roundTrips : Caller → RoundTrip Caller := fun _ => {}
  writer : Writer := .running
  /-- The payloads that the writer has not finished. -/
  outbound : List (Frame Caller) := []
  /-- The requests on their way to the daemon. -/
  toDaemon : List (Frame Caller) := []
  /-- The requests that the daemon has read and not answered. -/
  unanswered : List (Frame Caller) := []
  /-- The frames on their way from the daemon. -/
  toProxy : List (Incoming Caller) := []
  /-- The calls whose payload was handed to the writer. -/
  handed : List Caller := []
  /-- The calls of whose payload the writer began to write. -/
  written : List Caller := []
  /-- Who got a reply, and to which request. -/
  delivered : List (Caller × Caller) := []

def maxConcurrentRequestsPerConnection : Nat := 32

def readWatchdog : Nat := 120

def DaemonMux.start (tagged : Bool) (ceiling : Nat) : DaemonMux Caller :=
  { tagged := tagged
    slots := if tagged then maxConcurrentRequestsPerConnection else 1
    ceiling := ceiling }

/-! ### Failures -/

def encodeFailure (e : String) : TransportFailure :=
  ⟨"failed to encode IPC request: " ++ e, false, false⟩

def tooLarge (length : Nat) : TransportFailure :=
  ⟨s!"IPC write failed: payload too large: {length} bytes (max {Ipc.maxFrameSize})", false, false⟩

/-- The only failure that is marked as never sent. -/
def refusal (reason : String) : TransportFailure := ⟨reason, true, true⟩

def writerStopped : TransportFailure := ⟨"IPC write failed: connection writer stopped", true, false⟩

def connectionClosed : TransportFailure := ⟨"daemon connection closed", true, false⟩

def ceilingReached (ceiling : Nat) : TransportFailure :=
  ⟨s!"daemon did not answer within {ceiling}s", false, false⟩

def watchdogExpired : TransportFailure :=
  ⟨s!"daemon read watchdog expired after {readWatchdog}s", true, false⟩

def daemonClosed : TransportFailure := ⟨"daemon closed connection", true, false⟩

def sessionReplaced : TransportFailure := ⟨"daemon session replaced by reconnect", true, false⟩

/-- Whether the connection can be opened again depends on the kind of the error. -/
def ioFailure (context error : String) (reconnectable : Bool) : TransportFailure :=
  ⟨context ++ ": " ++ error, reconnectable, false⟩

/-- Why a reader or a reconnect closes the connection. -/
inductive Closer where
  | endOfFile
  | readFailed (error : String) (reconnectable : Bool)
  | replaced

def Closer.failure : Closer → TransportFailure
  | .endOfFile => daemonClosed
  | .readFailed error reconnectable => ioFailure "IPC read failed" error reconnectable
  | .replaced => sessionReplaced

/-! ### Operations -/

/-- The call waits, or is about to. -/
def Phase.waits : Phase → Bool
  | .registered => true
  | .waiting => true
  | _ => false

/-- The call holds a slot, unless its request needs none. -/
def Phase.holds : Phase → Bool
  | .admitted => true
  | .numbered => true
  | .encoded => true
  | .registered => true
  | .waiting => true
  | _ => false

/-- The payload may have been handed over. -/
def Phase.sent : Phase → Bool
  | .waiting => true
  | .finished => true
  | .dropped => true
  | _ => false

/-- What is sent to a waiter is lost when its call is gone. -/
def RoundTrip.resolve (trip : RoundTrip Caller) (reply : Except TransportFailure Caller) :
    RoundTrip Caller :=
  if trip.phase.waits then { trip with reply := some reply } else trip

namespace DaemonMux

variable [DecidableEq Caller] (mux : DaemonMux Caller) (caller : Caller)

def setPhase (phase : Phase) : DaemonMux Caller :=
  { mux with
    roundTrips := Function.update mux.roundTrips caller
      { mux.roundTrips caller with phase := phase } }

def resolve (waiters : List Caller) (reply : Except TransportFailure Caller) : DaemonMux Caller :=
  { mux with
    roundTrips := fun other =>
      if other ∈ waiters then (mux.roundTrips other).resolve reply else mux.roundTrips other }

/-- The slot of a call that is over is free again. -/
def release (trip : RoundTrip Caller) : Nat :=
  if trip.phase.holds && !trip.bypass then mux.slots + 1 else mux.slots

def finish (result : Except TransportFailure Caller) : DaemonMux Caller :=
  { mux with
    roundTrips := Function.update mux.roundTrips caller
      { mux.roundTrips caller with phase := .finished, result := some result }
    slots := mux.release (mux.roundTrips caller) }

def drop : DaemonMux Caller :=
  { mux with
    roundTrips := Function.update mux.roundTrips caller
      { mux.roundTrips caller with phase := .dropped }
    slots := mux.release (mux.roundTrips caller) }

def fetchId : DaemonMux Caller :=
  { mux with
    roundTrips := Function.update mux.roundTrips caller
      { mux.roundTrips caller with phase := .numbered, id := some mux.nextId }
    nextId := (mux.nextId + 1) % 18446744073709551616 }

def failPending (failure : TransportFailure) : DaemonMux Caller :=
  { mux.resolve (mux.pending.map Prod.snd) (.error failure) with pending := [] }

/-- Idempotent; the first failure is the one later requests see. -/
def close (failure : TransportFailure) : DaemonMux Caller :=
  { mux.failPending failure with closed := some (mux.closed.getD failure.message) }

/-- New requests are refused, but the waiters are left to the reader. -/
def writesFailed (failure : TransportFailure) : DaemonMux Caller :=
  { mux with closed := some (mux.closed.getD failure.message), writer := .grace failure }

def deliverTo (waiter : Caller) (request : Caller) : DaemonMux Caller :=
  { mux.resolve [waiter] (.ok request) with
    delivered :=
      if (mux.roundTrips waiter).phase.waits then (waiter, request) :: mux.delivered
      else mux.delivered }

def deliver (frame : Frame Caller) : DaemonMux Caller :=
  match frame.ipcId with
  | some id =>
    match waiterOf id mux.pending with
    | some waiter =>
      { mux.deliverTo waiter frame.request with pending := removeWaiter id mux.pending }
    | none => mux
  | none =>
    match mux.pending with
    | (_, waiter) :: rest => { mux.deliverTo waiter frame.request with pending := rest }
    | [] => mux

/-- A waiter that is replaced in the table finds its channel closed. -/
def insertPending (id : Nat) : DaemonMux Caller :=
  { (mux.resolve (waiterOf id mux.pending).toList (.error connectionClosed)).setPhase caller
      .registered with pending := insertWaiter id caller mux.pending }

def handOver (frame : Frame Caller) : DaemonMux Caller :=
  { mux.setPhase caller .waiting with
    outbound := mux.outbound ++ [frame]
    handed := caller :: mux.handed }

def handle (frame : Incoming Caller) : DaemonMux Caller :=
  match frame with
  | .reply reply => mux.deliver reply
  | .garbled _ => mux.failPending (.invalid "invalid IPC response")
  | .other => mux

end DaemonMux

inductive Action (Caller : Type) where
  | start (caller : Caller) (control : Bool)
  | acquire (caller : Caller)
  | number (caller : Caller)
  /-- The length of the payload, unless the request cannot be encoded. -/
  | encode (caller : Caller) (encoded : Except String Nat)
  | register (caller : Caller)
  | send (caller : Caller)
  | receive (caller : Caller)
  | giveUp (caller : Caller)
  | expire (caller : Caller)
  | drop (caller : Caller)
  | write
  | writeFails (error : String) (reconnectable : Bool)
  | noteFailure
  | graceEnds
  /-- The tasks of a closed connection are aborted. -/
  | abort
  | daemonReads
  | daemonAnswers (index : Nat) (readable : Bool)
  | daemonPushes (readable : Bool)
  | read
  | close (closer : Closer)

namespace DaemonMux

variable [DecidableEq Caller]

/-- The id that a request is sent with. -/
def ipcId (mux : DaemonMux Caller) (caller : Caller) : Option Nat :=
  if mux.tagged then (mux.roundTrips caller).id else none

def step (mux : DaemonMux Caller) : Action Caller → Option (DaemonMux Caller)
  | .start caller control =>
    if (mux.roundTrips caller).phase = .absent then
      some { mux with
        roundTrips := Function.update mux.roundTrips caller
          { phase := .acquiring, bypass := mux.tagged && control } }
    else none
  | .acquire caller =>
    if (mux.roundTrips caller).phase = .acquiring then
      if (mux.roundTrips caller).bypass then some (mux.setPhase caller .admitted)
      else if 0 < mux.slots then
        some { mux.setPhase caller .admitted with slots := mux.slots - 1 }
      else none
    else none
  | .number caller =>
    if (mux.roundTrips caller).phase = .admitted then some (mux.fetchId caller) else none
  | .encode caller encoded =>
    if (mux.roundTrips caller).phase = .numbered then
      match encoded with
      | .error e => some (mux.finish caller (.error (encodeFailure e)))
      | .ok length =>
        if Ipc.maxFrameSize < length then some (mux.finish caller (.error (tooLarge length)))
        else some (mux.setPhase caller .encoded)
    else none
  | .register caller =>
    if (mux.roundTrips caller).phase = .encoded then
      match mux.closed with
      | some reason => some (mux.finish caller (.error (refusal reason)))
      | none => (mux.roundTrips caller).id.map (mux.insertPending caller)
    else none
  | .send caller =>
    if (mux.roundTrips caller).phase = .registered then
      match mux.writer with
      | .stopped => some ((mux.close writerStopped).setPhase caller .waiting)
      | _ => some (mux.handOver caller ⟨mux.ipcId caller, caller⟩)
    else none
  | .receive caller =>
    if (mux.roundTrips caller).phase = .waiting then
      (mux.roundTrips caller).reply.map (mux.finish caller)
    else none
  | .giveUp caller =>
    if (mux.roundTrips caller).phase = .waiting then
      (mux.roundTrips caller).id.map fun id =>
        { mux.finish caller (.error (ceilingReached mux.ceiling)) with
          pending := removeWaiter id mux.pending }
    else none
  | .expire caller =>
    if (mux.roundTrips caller).phase = .waiting then
      some ((mux.close watchdogExpired).finish caller (.error watchdogExpired))
    else none
  | .drop caller =>
    if (mux.roundTrips caller).phase = .acquiring ∨ (mux.roundTrips caller).phase = .waiting then
      some (mux.drop caller)
    else none
  | .write =>
    match mux.writer, mux.outbound with
    | .running, frame :: rest =>
      some { mux with
        outbound := rest
        toDaemon := mux.toDaemon ++ [frame]
        written := frame.request :: mux.written }
    | _, _ => none
  | .writeFails error reconnectable =>
    match mux.writer, mux.outbound with
    | .running, frame :: _ =>
      some { mux with
        writer := .failed (ioFailure "IPC write failed" error reconnectable)
        written := frame.request :: mux.written }
    | _, _ => none
  | .noteFailure =>
    match mux.writer with
    | .failed failure => some (mux.writesFailed failure)
    | _ => none
  | .graceEnds =>
    match mux.writer with
    | .grace failure => some { mux.close failure with writer := .stopped }
    | _ => none
  | .abort => if mux.closed.isSome then some { mux with writer := .stopped } else none
  | .daemonReads =>
    match mux.toDaemon with
    | frame :: rest =>
      some { mux with toDaemon := rest, unanswered := mux.unanswered ++ [frame] }
    | [] => none
  | .daemonAnswers index readable =>
    if mux.tagged ∨ index = 0 then
      mux.unanswered[index]?.map fun frame =>
        { mux with
          unanswered := mux.unanswered.eraseIdx index
          toProxy := mux.toProxy ++ [if readable then .reply frame else .garbled (some frame)] }
    else none
  | .daemonPushes readable =>
    some { mux with toProxy := mux.toProxy ++ [if readable then .other else .garbled none] }
  | .read =>
    match mux.toProxy with
    | frame :: rest => some ({ mux with toProxy := rest }.handle frame)
    | [] => none
  | .close closer => some (mux.close closer.failure)

end DaemonMux

/-! ### Replies that are due -/

/-- The request that a frame stands for the reply to. -/
def Incoming.answers : Incoming Caller → Option (Frame Caller)
  | .reply frame => some frame
  | .garbled answers => answers
  | .other => none

/-- The requests whose reply is still to be read, in the order of an old daemon. -/
def DaemonMux.due (mux : DaemonMux Caller) : List (Frame Caller) :=
  mux.toProxy.filterMap Incoming.answers ++ mux.unanswered ++ mux.toDaemon ++ mux.outbound

/-- A frame that cannot be decoded stands for the reply to the only waiter. -/
def Incoming.settles (pending : List (Nat × Caller)) : Incoming Caller → Prop
  | .garbled answers => ∀ item ∈ pending, answers.map Frame.request = some item.2
  | _ => True

instance [DecidableEq Caller] (pending : List (Nat × Caller)) (frame : Incoming Caller) :
    Decidable (frame.settles pending) :=
  match frame with
  | .reply _ => isTrue trivial
  | .garbled answers =>
    inferInstanceAs (Decidable (∀ item ∈ pending, answers.map Frame.request = some item.2))
  | .other => isTrue trivial

/-- The waiters may leave the table early. -/
def DaemonMux.lenient (mux : DaemonMux Caller) : Bool := mux.tagged || mux.closed.isSome

/-- On an open connection without ids a caller gives up only when its waiter has left the table,
and a frame that cannot be decoded stands for the reply to the only waiter. No connection is used
for 2^64 requests. -/
def Aligned (mux : DaemonMux Caller) : Action Caller → Prop
  | .number _ => mux.nextId ≠ 0
  | .giveUp caller => mux.lenient = true ∨
      ∀ item ∈ mux.pending, (mux.roundTrips caller).id ≠ some item.1
  | .read => mux.lenient = true ∨ ∀ frame ∈ mux.toProxy.head?, frame.settles mux.pending
  | _ => True

instance [DecidableEq Caller] (mux : DaemonMux Caller) (action : Action Caller) :
    Decidable (Aligned mux action) :=
  match action with
  | .number _ => inferInstanceAs (Decidable (mux.nextId ≠ 0))
  | .giveUp caller => inferInstanceAs (Decidable (mux.lenient = true ∨
      ∀ item ∈ mux.pending, (mux.roundTrips caller).id ≠ some item.1))
  | .read => inferInstanceAs (Decidable (mux.lenient = true ∨
      ∀ frame ∈ mux.toProxy.head?, frame.settles mux.pending))
  | .start .. | .acquire _ | .encode .. | .register _ | .send _ | .receive _ | .expire _
  | .drop _ | .write | .writeFails .. | .noteFailure | .graceEnds | .abort | .daemonReads
  | .daemonAnswers .. | .daemonPushes _ | .close _ => isTrue trivial

end Plug.Proxy
