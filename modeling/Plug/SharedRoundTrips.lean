import Plug.MuxHandover

/-!
# Requests on a connection that is replaced

A request goes to the connection there is. When that one fails in a way that a new one may cure,
the caller waits for the lock of the connection, opens a new session unless another caller already
did, and sends the request again if its policy allows, or if the failure says that it was never
sent. The heartbeat opens sessions as well, and heartbeats and replays share the connections.
-/

namespace Plug.Proxy

open Runs Ipc

/-- A call of `roundTrip`: the first or the second one for a request, or one of another task. -/
inductive Attempt where
  | first (request : Nat)
  | again (request : Nat)
  | other (number : Nat)
deriving DecidableEq

inductive RetryPolicy where
  | safeToRetry
  | unsafeToRetry
deriving DecidableEq

/-- Where a call of `sharedRoundTrip` is. -/
inductive Stage where
  | absent
  /-- It waits for the lock, to read which connection there is. -/
  | connecting
  | first
  /-- It waits for the lock, to open a new session. -/
  | reconnecting
  /-- It opens a new session, and holds the lock. -/
  | refreshing
  | again
  | finished
  | dropped
deriving DecidableEq

/-- A call, with what it has bound so far. -/
structure SharedCall where
  policy : RetryPolicy := .safeToRetry
  /-- The daemon answers the request inline. -/
  control : Bool := false
  stage : Stage := .absent
  mux : Option Nat := none
  failure : Option TransportFailure := none
  /-- The connection that the request was sent again on. -/
  retried : Option Nat := none
  result : Option (Except String Attempt) := none

/-- Who holds the lock over a wait. -/
inductive Holder where
  | call (request : Nat)
  | heartbeat
deriving DecidableEq

structure SharedConnection where
  /-- The connections so far; the last one is the current one. -/
  muxes : Nat → DaemonMux Attempt
  latest : Nat := 0
  /-- Who opens a new session, and whether it has replaced the former one. -/
  holder : Option (Holder × Bool) := none
  calls : Nat → SharedCall := fun _ => {}

def SharedConnection.start (tagged : Bool) (ceiling : Nat) : SharedConnection :=
  { muxes := fun _ => DaemonMux.start tagged ceiling }

inductive SharedAction where
  | issue (request : Nat) (policy : RetryPolicy) (control : Bool)
  | connect (request : Nat)
  /-- A step of a connection. -/
  | mux (index : Nat) (action : Action Attempt)
  | firstReturns (request : Nat)
  | reconnect (request : Nat)
  | heartbeatReconnects (failed : Nat)
  /-- A session is established, and takes the place of the former one. -/
  | replace (tagged : Bool) (ceiling : Nat)
  | refreshFails (error : String)
  /-- The replay is done. -/
  | refreshed
  | againReturns (request : Nat)
  | drop (request : Nat)

/-- Calls of `roundTrip` for requests are begun by `sharedRoundTrip` only. -/
def Action.outside : Action Attempt → Bool
  | .start (.first _) _ => false
  | .start (.again _) _ => false
  | _ => true

namespace SharedConnection

variable (shared : SharedConnection) (request : Nat)

def setCall (call : SharedCall) : SharedConnection :=
  { shared with calls := Function.update shared.calls request call }

def setMux (index : Nat) (mux : DaemonMux Attempt) : SharedConnection :=
  { shared with muxes := Function.update shared.muxes index mux }

/-- The request is sent on the current connection. -/
def begin (attempt : Attempt) (call : SharedCall) : Option SharedConnection :=
  ((shared.muxes shared.latest).step (.start attempt call.control)).map fun mux =>
    (shared.setMux shared.latest mux).setCall request call

def finish (result : Except String Attempt) : SharedConnection :=
  shared.setCall request
    { shared.calls request with stage := .finished, result := some result }

/-- A request that found the connection already closed was never written, so it is sent now
whatever its policy. -/
def retryPolicy (call : SharedCall) (failure : TransportFailure) : RetryPolicy :=
  if failure.neverSent then .safeToRetry else call.policy

/-- With the connection to retry on. -/
def resume : Option SharedConnection :=
  let call := shared.calls request
  call.failure.bind fun failure =>
    match retryPolicy call failure with
    | .safeToRetry =>
      shared.begin request (.again request)
        { call with stage := .again, retried := some shared.latest }
    | .unsafeToRetry =>
      some (shared.finish request (.error
        "REQUEST_RETRY_UNSAFE: daemon connection recovered; retry the tool call"))

def firstReturns (result : Except TransportFailure Attempt) : SharedConnection :=
  match result with
  | .ok response => shared.finish request (.ok response)
  | .error failure =>
    if failure.reconnectable then
      shared.setCall request
        { shared.calls request with stage := .reconnecting, failure := some failure }
    else shared.finish request (.error failure.message)

def againReturns (result : Except TransportFailure Attempt) : SharedConnection :=
  shared.finish request
    (result.mapError fun e => "IPC retry failed after reconnect: " ++ e.message)

/-- The new session takes the place of the former one, whose waiters fail over. -/
def replace (holder : Holder) (tagged : Bool) (ceiling : Nat) : SharedConnection :=
  let replaced := (shared.muxes shared.latest).close sessionReplaced
  { (shared.setMux shared.latest replaced).setMux (shared.latest + 1)
      (DaemonMux.start tagged ceiling) with
    latest := shared.latest + 1
    holder := some (holder, true) }

/-- The lock is free again, and the caller that held it goes on. -/
def refreshed (holder : Holder) : Option SharedConnection :=
  match holder with
  | .call request => { shared with holder := none }.resume request
  | .heartbeat => some { shared with holder := none }

def refreshFails (holder : Holder) (error : String) : SharedConnection :=
  match holder with
  | .call request =>
    { shared with holder := none }.finish request (.error ("daemon reconnect failed: " ++ error))
  | .heartbeat => { shared with holder := none }

def step (shared : SharedConnection) : SharedAction → Option SharedConnection
  | .issue request policy control =>
    if (shared.calls request).stage = .absent then
      some (shared.setCall request
        { policy := policy, control := control, stage := .connecting })
    else none
  | .connect request =>
    if (shared.calls request).stage = .connecting ∧ shared.holder = none then
      shared.begin request (.first request)
        { shared.calls request with stage := .first, mux := some shared.latest }
    else none
  | .mux index action =>
    if action.outside then
      ((shared.muxes index).step action).map (shared.setMux index)
    else none
  | .firstReturns request =>
    if (shared.calls request).stage = .first then
      (shared.calls request).mux.bind fun index =>
        ((shared.muxes index).roundTrips (.first request)).result.map
          (shared.firstReturns request)
    else none
  | .reconnect request =>
    if (shared.calls request).stage = .reconnecting ∧ shared.holder = none then
      if (shared.calls request).mux = some shared.latest then
        some { shared.setCall request { shared.calls request with stage := .refreshing } with
          holder := some (.call request, false) }
      else shared.resume request
    else none
  | .heartbeatReconnects failed =>
    if shared.holder = none ∧ failed = shared.latest then
      some { shared with holder := some (.heartbeat, false) }
    else none
  | .replace tagged ceiling =>
    match shared.holder with
    | some (holder, false) => some (shared.replace holder tagged ceiling)
    | _ => none
  | .refreshFails error =>
    match shared.holder with
    | some (holder, false) => some (shared.refreshFails holder error)
    | _ => none
  | .refreshed =>
    match shared.holder with
    | some (holder, true) => shared.refreshed holder
    | _ => none
  | .againReturns request =>
    if (shared.calls request).stage = .again then
      (shared.calls request).retried.bind fun index =>
        ((shared.muxes index).roundTrips (.again request)).result.map
          (shared.againReturns request)
    else none
  | .drop request =>
    if (shared.calls request).stage = .absent ∨ (shared.calls request).stage = .finished then none
    else
      some { shared.setCall request { shared.calls request with stage := .dropped } with
        holder := if shared.holder.map Prod.fst = some (.call request) then none
          else shared.holder }

end SharedConnection

/-- The payload of an attempt was handed to the writer of a connection. -/
def SharedConnection.HandedOn (shared : SharedConnection) (attempt : Attempt) (index : Nat) :
    Prop :=
  attempt ∈ (shared.muxes index).handed

end Plug.Proxy
