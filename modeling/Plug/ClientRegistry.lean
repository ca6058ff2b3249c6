import Plug.Runs
import Plug.Tables

/-!
# The registry of proxy sessions

A client id is mapped to its session, and a session knows its client. Registering and
deregistering update the two maps one after the other, and then publish how many sessions there
are; each of these operations is one step, and those of several calls interleave in any order. A
client that reconnects while its old connection is torn down runs both at once.
-/

namespace Plug.Registry

open Tables

/-- Where a call is: before the operation that gives the state its name. -/
inductive Call where
  /-- Registering: the client is mapped to the session. -/
  | mapping (client session : String)
  /-- The session that the client had is removed. -/
  | replacing (client session replaced : String)
  | adding (client session : String)
  /-- The count is published, and the session id returned. -/
  | registered (client session : String)
  /-- Deregistering: the session is removed. -/
  | removing (session : String)
  /-- The client's session is looked up. -/
  | checking (session client : String)
  | unmapping (session client : String)
  /-- The count is published. -/
  | deregistered (session : String)
deriving DecidableEq

structure State where
  /-- The client of each session. -/
  sessions : List (String × String)
  clientSessions : List (String × String)
  count : Nat
  calls : List Call
  /-- The client each session id was made for. -/
  issued : List (String × String)
  /-- The session ids that registrations returned. -/
  returned : List String
deriving DecidableEq

def State.new : State := ⟨[], [], 0, [], [], []⟩

inductive Act where
  /-- A session id is made, which is new. -/
  | register (client session : String)
  /-- The connection of a session is gone. -/
  | deregister (session : String)
  | advance (call : Call)
deriving DecidableEq

/-- The next operation of a call, which is no longer among the others. -/
def State.advance (state : State) : Call → State
  | .mapping client session =>
    let next := match get state.clientSessions client with
      | some replaced => .replacing client session replaced
      | none => .adding client session
    { state with
      clientSessions := insert state.clientSessions client session
      calls := next :: state.calls }
  | .replacing client session replaced =>
    { state with
      sessions := remove state.sessions replaced
      calls := .adding client session :: state.calls }
  | .adding client session =>
    { state with
      sessions := insert state.sessions session client
      calls := .registered client session :: state.calls }
  | .registered _ session =>
    { state with count := state.sessions.length, returned := session :: state.returned }
  | .removing session =>
    match get state.sessions session with
    | some client =>
      { state with
        sessions := remove state.sessions session
        calls := .checking session client :: state.calls }
    | none => state
  | .checking session client =>
    let next := if get state.clientSessions client = some session then .unmapping session client
      else .deregistered session
    { state with calls := next :: state.calls }
  | .unmapping session client =>
    { state with
      clientSessions := remove state.clientSessions client
      calls := .deregistered session :: state.calls }
  | .deregistered _ => { state with count := state.sessions.length }

def step (state : State) : Act → Option State
  | .register client session =>
    if containsKey state.issued session then none
    else
      some { state with
        issued := insert state.issued session client
        calls := .mapping client session :: state.calls }
  | .deregister session =>
    if session ∈ state.returned then
      some { state with calls := .removing session :: state.calls }
    else none
  | .advance call =>
    if call ∈ state.calls then
      some ({ state with calls := state.calls.erase call }.advance call)
    else none

/-- The session that a registration is still to add. -/
def Call.adds : Call → Option String
  | .mapping _ session => some session
  | .replacing _ session _ => some session
  | .adding _ session => some session
  | _ => none

/-- The session that a call deregisters. -/
def Call.deregisters : Call → Option String
  | .removing session => some session
  | .checking session _ => some session
  | .unmapping session _ => some session
  | .deregistered session => some session
  | _ => none

/-- An act that should wait for a call: a client is about to lose its mapping, or a session that is
replaced has not been added. -/
def Act.waitsFor : Act → Call → Bool
  | .advance (.mapping client _), .unmapping _ other => client = other
  | .advance (.replacing _ _ replaced), call => call.adds = some replaced
  | _, _ => false

/-- A client is mapped anew only while no deregistration is about to take its mapping away, and a
replaced session is removed only after it was added. -/
def Timely (state : State) (act : Act) : Prop :=
  ∀ call ∈ state.calls, act.waitsFor call = false

instance (state : State) (act : Act) : Decidable (Timely state act) :=
  inferInstanceAs (Decidable (∀ call ∈ state.calls, act.waitsFor call = false))

/-- The two maps say the same, and the published count is the number of sessions. -/
structure Agrees (state : State) : Prop where
  maps : ∀ client session,
    get state.clientSessions client = some session ↔ get state.sessions session = some client
  once : ∀ client session other, get state.sessions session = some client →
    get state.sessions other = some client → session = other
  keys : Distinct state.sessions
  count : state.count = state.sessions.length

/-- A deregistration neither removes another session nor takes its mapping away. -/
def Spares (state : State) (act : Act) (next : State) : Prop :=
  ∀ call session, act = .advance call → call.deregisters = some session →
    ∀ other client, other ≠ session →
      (get state.sessions other = some client → get next.sessions other = some client) ∧
      (get state.clientSessions client = some other →
        get next.clientSessions client = some other)

end Plug.Registry
