import Mathlib.Logic.Function.Basic
import Plug.Runs
import Plug.ServerConfigs

/-!
# Starts of servers beside reloads

A reload stops and starts servers under a lock, from the comparison of the configurations until the
new one is in place. A restart and a reconnect read the configuration, connect without the lock,
and put their connection in place under it, unless the server has gone or changed meanwhile. The
loop that refreshes the sign-in of a server reconnects it too.
-/

namespace Plug.Reload

/-- A server that is connected, and what it was connected with. -/
structure Upstream where
  config : ServerConfig
  protocolGateState : Nat
deriving DecidableEq

inductive Origin where
  | restart
  | reconnect
  | refreshLoop
deriving DecidableEq

inductive StartPhase where
  | due
  | requested
  | claimed
  | configured (config : ServerConfig)
  | gated (config : ServerConfig) (gateState : Nat)
  | connecting (config : ServerConfig) (gateState : Nat)
  | connected (upstream : Upstream)
  | finished
deriving DecidableEq

/-- The configuration that the start goes by. -/
def StartPhase.config : StartPhase → Option ServerConfig
  | .configured config | .gated config _ | .connecting config _ => some config
  | .connected upstream => some upstream.config
  | .due | .requested | .claimed | .finished => none

structure Start where
  server : String
  origin : Origin
  attempts : Nat
  phase : StartPhase
deriving DecidableEq

/-- What a reload has still to stop and to start before the new configuration is in place. -/
structure Reloading where
  next : Config
  stops : List String
  starts : List (String × ServerConfig)
deriving DecidableEq

structure Runtime where
  config : Config
  modernUpstreamGateState : Nat
  servers : String → Option Upstream
  reconnecting : String → Bool
  reloading : Option Reloading
  starts : List Start

/-- The lowest bit is the switch, and each move of it gives a state not seen before. -/
def setModernUpstreamEnabled (current : Nat) (enabled : Bool) : Nat :=
  if current % 2 = enabled.toNat then current else ((current + 2) % 18446744073709551616) ^^^ 1

def Runtime.put (runtime : Runtime) (index : Nat) (start : Start) (phase : StartPhase) : Runtime :=
  { runtime with starts := runtime.starts.set index { start with phase := phase } }

def tryClaimUpstreamStart (runtime : Runtime) (index : Nat) (start : Start) (phase : StartPhase) :
    Runtime :=
  if runtime.reconnecting start.server then runtime.put index start .finished
  else
    { runtime.put index start phase with
      reconnecting := Function.update runtime.reconnecting start.server true }

/-- The start is over, and the server can be started again. -/
def Runtime.release (runtime : Runtime) (index : Nat) (start : Start) : Runtime :=
  { runtime.put index start .finished with
    reconnecting := Function.update runtime.reconnecting start.server false }

/-- The server is still there, and neither its settings nor the switch for the newer protocol have
moved. -/
def isCurrent (runtime : Runtime) (name : String) (config : ServerConfig) (gateState : Nat) : Bool :=
  (runtime.config.servers.lookup name).any fun server =>
    !serverConfigChanged config server &&
      (config.protocolMode == .legacy || gateState == runtime.modernUpstreamGateState)

def commitReplacement (runtime : Runtime) (index : Nat) (start : Start) (upstream : Upstream) :
    Runtime :=
  if isCurrent runtime start.server upstream.config upstream.protocolGateState then
    { runtime.release index start with
      servers := Function.update runtime.servers start.server (some upstream) }
  else runtime.release index start

inductive ConnectOutcome where
  | connected
  | retryable
  | failed
deriving DecidableEq

/-- A start takes its next step. -/
def advanceStart (runtime : Runtime) (index : Nat) (start : Start) (outcome : ConnectOutcome) :
    Option Runtime :=
  match start.phase with
  | .due =>
    match runtime.config.servers.lookup start.server with
    | none => some (runtime.put index start .finished)
    | some config =>
      if config.enabled && config.auth == some "oauth" then
        some (runtime.put index start .requested)
      else some (runtime.put index start .finished)
  | .requested =>
    if start.origin = .restart then
      match runtime.config.servers.lookup start.server with
      | none => some (runtime.put index start .finished)
      | some config =>
        if config.enabled then some (runtime.put index start (.configured config))
        else some (runtime.put index start .finished)
    else some (tryClaimUpstreamStart runtime index start .claimed)
  | .claimed =>
    match runtime.config.servers.lookup start.server with
    | none => some (runtime.release index start)
    | some config => some (runtime.put index start (.configured config))
  | .configured config =>
    some (runtime.put index start (.gated config runtime.modernUpstreamGateState))
  | .gated config gateState =>
    if start.origin = .restart then
      some (tryClaimUpstreamStart runtime index start (.connecting config gateState))
    else if isCurrent runtime start.server config gateState then
      some (runtime.put index start (.connecting config gateState))
    else some (runtime.release index start)
  | .connecting config gateState =>
    match outcome with
    | .connected => some (runtime.put index start (.connected ⟨config, gateState⟩))
    | .retryable =>
      if start.origin ≠ .restart ∧ 1 < start.attempts then
        some (runtime.put index { start with attempts := start.attempts - 1 }
          (.gated config gateState))
      else some (runtime.release index start)
    | .failed => some (runtime.release index start)
  | .connected upstream =>
    if runtime.reloading = none then some (commitReplacement runtime index start upstream) else none
  | .finished => none

/-- The reload takes the lock, finds what changed and sets the switch for the newer protocol. -/
def beginReload (runtime : Runtime) (next : Config) : Option Runtime :=
  if runtime.reloading = none then
    some
      { runtime with
        modernUpstreamGateState :=
          setModernUpstreamEnabled runtime.modernUpstreamGateState next.modernUpstreamEnabled
        reloading := some
          { next := next
            stops := (diffConfigs runtime.config next).removed ++
              (diffConfigs runtime.config next).changed.map Prod.fst
            starts := reloadStartActions (diffConfigs runtime.config next) } }
  else none

def stopServer (runtime : Runtime) : Option Runtime :=
  match runtime.reloading with
  | some reloading =>
    match reloading.stops with
    | name :: rest =>
      some
        { runtime with
          servers := Function.update runtime.servers name none
          reloading := some { reloading with stops := rest } }
    | [] => none
  | none => none

/-- One of the servers to start is connected, or fails to. -/
def startServer (runtime : Runtime) (index : Nat) (connected : Bool) : Option Runtime :=
  match runtime.reloading with
  | some reloading =>
    if reloading.stops = [] then
      match reloading.starts[index]? with
      | some (name, config) =>
        some
          { runtime with
            servers :=
              if connected then
                Function.update runtime.servers name
                  (some ⟨config, runtime.modernUpstreamGateState⟩)
              else runtime.servers
            reloading := some { reloading with starts := reloading.starts.eraseIdx index } }
      | none => none
    else none
  | none => none

def storeConfig (runtime : Runtime) : Option Runtime :=
  match runtime.reloading with
  | some reloading =>
    if reloading.stops = [] ∧ reloading.starts = [] then
      some
        { runtime with
          config := reloading.next
          modernUpstreamGateState :=
            setModernUpstreamEnabled runtime.modernUpstreamGateState
              reloading.next.modernUpstreamEnabled
          reloading := none }
    else none
  | none => none

inductive StartAction where
  | call (origin : Origin) (server : String) (attempts : Nat)
  | advance (index : Nat) (outcome : ConnectOutcome)
  | beginReload (next : Config)
  | stopServer
  | startServer (index : Nat) (connected : Bool)
  | storeConfig

def startStep (runtime : Runtime) : StartAction → Option Runtime
  | .call origin server attempts =>
    let phase := if origin = .refreshLoop then .due else .requested
    some { runtime with starts := runtime.starts ++ [⟨server, origin, attempts, phase⟩] }
  | .advance index outcome =>
    runtime.starts[index]?.bind fun start => advanceStart runtime index start outcome
  | .beginReload next => beginReload runtime next
  | .stopServer => stopServer runtime
  | .startServer index connected => startServer runtime index connected
  | .storeConfig => storeConfig runtime

/-- A reconnect that reads the configuration finds the server on in it, or does not find it. -/
def readsEnabled (runtime : Runtime) : StartAction → Bool
  | .advance index _ =>
    runtime.starts[index]?.all fun start =>
      start.phase != .claimed ||
        (runtime.config.servers.lookup start.server).all fun config => config.enabled
  | _ => true

end Plug.Reload
