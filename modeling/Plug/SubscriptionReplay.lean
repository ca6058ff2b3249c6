import Mathlib.Data.Finset.Basic
import Plug.Runs

/-!
# Subscriptions over a reconnect

A subscribe or unsubscribe call of the proxy makes a round trip to the daemon and then records its
success in the set that is replayed onto the next session. A reconnect holds the connection while
it establishes a session and replays the set, so that no call reaches the session before; but a
call records after its round trip has let the connection go.

A call in flight is known by its kind, its URI and its phase. The daemon's side of a session that
is not the current one does not matter, and is left out.
-/

namespace Plug.Replay

open Runs

inductive Kind where
  | subscribe
  | unsubscribe
deriving DecidableEq

inductive Phase where
  /-- It waits for the connection. -/
  | connecting
  /-- Its request is on the way to a session, for the first time or again. -/
  | sent (session : Nat) (again : Bool)
  /-- The daemon has carried it out, or refused it. -/
  | answered (session : Nat) (again success : Bool)
  /-- The round trip is over, and the success is to be recorded. -/
  | returned
  /-- The connection of the session was lost, and it waits to open a new one. -/
  | reconnecting (session : Nat)
  /-- The caller gave up, and the request is still on its way. -/
  | orphaned (session : Nat)
deriving DecidableEq

structure Call where
  kind : Kind
  uri : String
  phase : Phase
deriving DecidableEq

/-- A reconnect under way, which holds the connection. -/
structure Reconnect where
  /-- The call that reconnects, unless it is the heartbeat. -/
  caller : Option (Kind × String)
  established : Bool
deriving DecidableEq

structure State where
  session : Nat := 0
  /-- The connection of the session is up. -/
  up : Bool := true
  /-- The replay onto the session has succeeded. -/
  restored : Bool := true
  /-- What the session is subscribed to. -/
  subscribed : Finset String := ∅
  replay : Finset String := ∅
  reconnect : Option Reconnect := none
  calls : List Call := []
  /-- The latest completed call for a URI, and whether it reported success. -/
  latest : String → Option (Kind × Bool) := fun _ => none
  /-- The latest call for a URI that reported success. -/
  succeeded : String → Option Kind := fun _ => none

inductive Act where
  | call (kind : Kind) (uri : String)
  | connect (call : Call)
  | answer (call : Call) (success : Bool)
  | deliver (call : Call)
  /-- The connection that a call waits on is gone. -/
  | fail (call : Call)
  /-- The round trip alone fails: at its ceiling, or with a reply that cannot be read. -/
  | giveUp (call : Call)
  | record (call : Call)
  | reconnect (call : Call)
  | heartbeat
  | establish
  | establishFails
  | replay
  /-- The replay fails, and the daemon restored this much. -/
  | replayFails (restored : Finset String)
  /-- The daemon restarts, or the connection is lost. -/
  | lose
deriving DecidableEq

/-- The set with a URI put in or taken out. -/
def Kind.apply (kind : Kind) (uri : String) (uris : Finset String) : Finset String :=
  match kind with
  | .subscribe => insert uri uris
  | .unsubscribe => uris.erase uri

theorem mem_apply {kind : Kind} {uri other : String} {uris : Finset String} :
    other ∈ kind.apply uri uris ↔
      if other = uri then kind = .subscribe else other ∈ uris := by
  cases kind with
  | subscribe =>
    rw [Kind.apply, Finset.mem_insert]
    split <;> simp_all
  | unsubscribe =>
    rw [Kind.apply, Finset.mem_erase]
    split <;> simp_all

namespace State

variable (state : State)

/-- A call is in another phase. -/
def advance (call : Call) (phase : Phase) : State :=
  { state with calls := { call with phase := phase } :: state.calls.erase call }

def complete (call : Call) (success : Bool) : State :=
  { state with
    calls := state.calls.erase call
    latest := Function.update state.latest call.uri (some (call.kind, success)) }

/-- The daemon carries out a request, if it belongs to the session. -/
def carryOut (call : Call) (session : Nat) (success : Bool) : State :=
  if success && session = state.session && state.up then
    { state with subscribed := call.kind.apply call.uri state.subscribed }
  else state

/-- A request of a session can have no reply any more. -/
def gone (session : Nat) : Bool :=
  session ≠ state.session || !state.up

/-- The replay set is updated, and the call returns. -/
def record (call : Call) : State :=
  { state.complete call true with
    replay := call.kind.apply call.uri state.replay
    succeeded := Function.update state.succeeded call.uri (some call.kind) }

/-- The connection is free again, and the call that reconnected is sent once more. -/
def release (caller : Option (Kind × String)) : State :=
  { state with
    reconnect := none
    calls := (caller.map fun call => Call.mk call.1 call.2 (.sent state.session true)).toList ++
      state.calls }

def abandon (caller : Option (Kind × String)) : State :=
  { state with
    reconnect := none
    latest := match caller with
      | some (kind, uri) => Function.update state.latest uri (some (kind, false))
      | none => state.latest }

/-- A step of a call that is in flight. -/
def move (call : Call) : Act → Option State
  | .connect _ =>
    match call.phase with
    | .connecting =>
      if state.reconnect = none then some (state.advance call (.sent state.session false))
      else none
    | _ => none
  | .answer _ success =>
    match call.phase with
    | .sent session again =>
      some ((state.carryOut call session success).advance call
        (.answered session again success))
    | .orphaned session =>
      some { state.carryOut call session success with calls := state.calls.erase call }
    | _ => none
  | .deliver _ =>
    match call.phase with
    | .answered session _ success =>
      if session = state.session then
        if success then some (state.advance call .returned) else some (state.complete call false)
      else none
    | _ => none
  | .fail _ =>
    match call.phase with
    | .sent session again =>
      if state.gone session then
        some (if again then state.complete call false
          else state.advance call (.reconnecting session))
      else none
    | .answered session again _ =>
      if state.gone session then
        some (if again then state.complete call false
          else state.advance call (.reconnecting session))
      else none
    | _ => none
  | .giveUp _ =>
    match call.phase with
    | .sent session _ =>
      some { state.complete call false with
        calls := { call with phase := .orphaned session } :: state.calls.erase call }
    | .answered _ _ _ => some (state.complete call false)
    | _ => none
  | .record _ =>
    match call.phase with
    | .returned => some (state.record call)
    | _ => none
  | .reconnect _ =>
    match call.phase with
    | .reconnecting session =>
      if state.reconnect = none then
        if session = state.session then
          some { state with
            reconnect := some ⟨some (call.kind, call.uri), false⟩
            calls := state.calls.erase call }
        else some (state.advance call (.sent state.session true))
      else none
    | _ => none
  | _ => none

def step (state : State) : Act → Option State
  | .call kind uri => some { state with calls := ⟨kind, uri, .connecting⟩ :: state.calls }
  | .heartbeat =>
    if state.reconnect = none ∧ state.up = false then
      some { state with reconnect := some ⟨none, false⟩ }
    else none
  | .establish =>
    match state.reconnect with
    | some ⟨caller, false⟩ =>
      some { state with
        session := state.session + 1
        up := true
        restored := false
        subscribed := ∅
        reconnect := some ⟨caller, true⟩ }
    | _ => none
  | .establishFails =>
    match state.reconnect with
    | some ⟨caller, false⟩ => some (state.abandon caller)
    | _ => none
  | .replay =>
    match state.reconnect with
    | some ⟨caller, true⟩ =>
      if state.up then
        some ({ state with subscribed := state.replay, restored := true }.release caller)
      else none
    | _ => none
  | .replayFails restored =>
    match state.reconnect with
    | some ⟨caller, true⟩ => some ({ state with subscribed := restored }.release caller)
    | _ => none
  | .lose => some { state with up := false }
  | .connect call => if call ∈ state.calls then state.move call (.connect call) else none
  | .answer call success =>
    if call ∈ state.calls then state.move call (.answer call success) else none
  | .deliver call => if call ∈ state.calls then state.move call (.deliver call) else none
  | .fail call => if call ∈ state.calls then state.move call (.fail call) else none
  | .giveUp call => if call ∈ state.calls then state.move call (.giveUp call) else none
  | .record call => if call ∈ state.calls then state.move call (.record call) else none
  | .reconnect call => if call ∈ state.calls then state.move call (.reconnect call) else none

/-- The session carried out the call, which has not been recorded. -/
def unrecorded (call : Call) : Bool :=
  match call.phase with
  | .answered session _ success => success && session = state.session
  | .returned => true
  | _ => false

/-- The replay set already says what the call is about to record. -/
def foreseen (call : Call) : Bool :=
  call.kind = .subscribe ↔ call.uri ∈ state.replay

/-- The unrecorded calls for the URI are of the same kind. -/
def undisputed (call : Call) : Bool :=
  state.calls.all fun other =>
    !(state.unrecorded other && other.uri = call.uri) || other.kind = call.kind

/-- A session is not asked for a URI while the other kind of call for it is unrecorded; no replay
runs before what was carried out is recorded, unless the replay set says the same; and a round trip
fails alone only when its request can have no effect any more. -/
def orderly (state : State) : Act → Bool
  | .answer call success =>
    match call.phase with
    | .sent session _ => !success || state.gone session || state.undisputed call
    | _ => true
  | .giveUp call =>
    match call.phase with
    | .sent session _ => state.gone session
    | .answered session _ success => state.gone session || !success || state.foreseen call
    | _ => true
  | .replay => state.calls.all fun call => !state.unrecorded call || state.foreseen call
  | _ => true

/-- No call is in flight, and the connection is up with everything replayed. -/
def Quiescent (state : State) : Prop :=
  (∀ call ∈ state.calls, ∃ session, call.phase = .orphaned session) ∧ state.reconnect = none ∧
    state.up = true ∧ state.restored = true

end State

end Plug.Replay
