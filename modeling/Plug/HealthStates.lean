import Mathlib.Logic.Function.Basic
import Plug.Runs

/-!
# Health of the servers

Each server has a state of health. A task checks it at intervals: it reads the state, asks the
server for its tools, and records the outcome, or marks the server as failed when its connection
has ended. A recovery reconnects a server that is down, and a loop refreshes its sign-in, or marks
it as one that needs the owner to sign in again. Each read and each write is a step of its own.
-/

namespace Plug.Health

inductive ServerHealth where
  | healthy
  | degraded
  | failed
  | authRequired
deriving DecidableEq

def ServerHealth.isRoutable : ServerHealth → Bool
  | .healthy | .degraded => true
  | .failed | .authRequired => false

structure HealthState where
  health : ServerHealth
  consecutiveFailures : Nat
deriving DecidableEq

def HealthState.new : HealthState where
  health := .healthy
  consecutiveFailures := 0

def HealthState.recordSuccess (state : HealthState) : HealthState where
  health :=
    match state.health with
    | .healthy => .healthy
    | .degraded => .healthy
    | .failed => .degraded
    | .authRequired => .authRequired
  consecutiveFailures := 0

/-- The count is a machine word of 32 bits. -/
def HealthState.recordFailure (state : HealthState) : HealthState :=
  let failures := (state.consecutiveFailures + 1) % 4294967296
  { health :=
      match state.health with
      | .healthy => if 3 ≤ failures then .degraded else .healthy
      | .degraded => if 6 ≤ failures then .failed else .degraded
      | .failed => .failed
      | .authRequired => .authRequired
    consecutiveFailures := failures }

/-- The outcome of a probe, recorded. -/
def HealthState.record (state : HealthState) (success : Bool) : HealthState :=
  if success then state.recordSuccess else state.recordFailure

/-- Neither outcome of a probe takes the mark away. -/
@[simp] theorem record_authRequired (state : HealthState) (success : Bool) :
    (state.record success).health = .authRequired ↔ state.health = .authRequired := by
  obtain ⟨health, failures⟩ := state
  cases success with
  | true => cases health <;> simp [HealthState.record, HealthState.recordSuccess]
  | false =>
    rw [HealthState.record, if_neg Bool.false_ne_true, HealthState.recordFailure]
    cases health with
    | healthy =>
      by_cases bound : 3 ≤ (failures + 1) % 4294967296
      · simp [bound]
      · simp [bound]
    | degraded =>
      by_cases bound : 6 ≤ (failures + 1) % 4294967296
      · simp [bound]
      · simp [bound]
    | failed => simp
    | authRequired => simp

/-! ### What runs beside one another -/

inductive Phase where
  | due
  | checked
  | seen (missing : Bool)
  | reachable
  | connectionEnded
  | probing
  | probed (success : Bool)
  | supervising
  | recovering
  | recovered
  | waiting
  | watching
  | reconnecting
  | reconnected
  | rejected
  | finished
deriving DecidableEq

structure Worker where
  server : String
  phase : Phase
deriving DecidableEq

structure Manager where
  health : String → Option HealthState
  connected : String → Bool
  workers : List Worker

/-- What a worker meets on its way. -/
inductive Event where
  | goesOn
  | ended
  | succeeds
  | fails
  | busy
  | authError
  | discarded
deriving DecidableEq

def Manager.setHealth (manager : Manager) (name : String) (state : Option HealthState) : Manager :=
  { manager with health := Function.update manager.health name state }

def markStartFailure (manager : Manager) (name : String) : Manager :=
  manager.setHealth name (some ⟨.failed, 6⟩)

def markAuthRequired (manager : Manager) (name : String) : Manager :=
  manager.setHealth name (some ⟨.authRequired, 0⟩)

def recordStartFailure (manager : Manager) (name : String) (signIn : Bool) : Manager :=
  if signIn then markAuthRequired manager name else markStartFailure manager name

/-- A fresh connection: a server that has a state of health gets a new one. -/
def replaceServer (manager : Manager) (name : String) : Manager :=
  { manager with
    connected := Function.update manager.connected name true
    health := Function.update manager.health name
      ((manager.health name).map fun _ => HealthState.new) }

def registerStarted (manager : Manager) (name : String) : Manager :=
  { manager with
    connected := Function.update manager.connected name true
    health := Function.update manager.health name (some HealthState.new) }

def stopServer (manager : Manager) (name : String) : Manager :=
  { manager with
    connected := Function.update manager.connected name false
    health := Function.update manager.health name none }

/-- The health of a server that has none yet counts as healthy when a probe is recorded. -/
def recordProbe (manager : Manager) (name : String) (success : Bool) : Manager :=
  manager.setHealth name
    (some (((manager.health name).getD HealthState.new).record success))

def isHealth (manager : Manager) (name : String) (health : ServerHealth) : Bool :=
  (manager.health name).any fun state => state.health == health

def Manager.put (manager : Manager) (index : Nat) (worker : Worker) (phase : Phase) : Manager :=
  { manager with workers := manager.workers.set index { worker with phase := phase } }

def Phase.recovers : Phase → Bool
  | .recovering | .recovered | .waiting => true
  | _ => false

/-- A recovery is started, unless one runs for the server. -/
def triggerRecovery (manager : Manager) (name : String) : Manager :=
  if manager.workers.any fun worker => worker.server == name && worker.phase.recovers then manager
  else { manager with workers := manager.workers ++ [⟨name, .recovering⟩] }

/-- A worker takes its next step: the task that checks the health, a recovery, or the loop that
refreshes the sign-in. -/
def work (manager : Manager) (index : Nat) (worker : Worker) (event : Event) : Manager :=
  match worker.phase with
  | .due =>
    if isHealth manager worker.server .authRequired then manager.put index worker .due
    else manager.put index worker .checked
  | .checked => manager.put index worker (.seen (!manager.connected worker.server))
  | .seen missing =>
    if missing && isHealth manager worker.server .failed then
      triggerRecovery (manager.put index worker .due) worker.server
    else manager.put index worker .reachable
  | .reachable =>
    if manager.connected worker.server && event == .ended then
      manager.put index worker .connectionEnded
    else manager.put index worker .probing
  | .connectionEnded =>
    triggerRecovery (markStartFailure (manager.put index worker .due) worker.server) worker.server
  | .probing =>
    if manager.connected worker.server && event != .busy then
      manager.put index worker (.probed (event == .succeeds))
    else manager.put index worker .supervising
  | .probed success =>
    let recorded := recordProbe (manager.put index worker .supervising) worker.server success
    if isHealth recorded worker.server .failed && !isHealth manager worker.server .failed then
      triggerRecovery recorded worker.server
    else recorded
  | .supervising =>
    if event = .fails then triggerRecovery (manager.put index worker .due) worker.server
    else manager.put index worker .due
  | .recovering =>
    if event = .succeeds then manager.put index worker .recovered
    else if event = .discarded then manager.put index worker .finished
    else manager.put index worker .waiting
  | .recovered =>
    if event = .discarded then manager.put index worker .finished
    else replaceServer (manager.put index worker .finished) worker.server
  | .waiting =>
    if isHealth manager worker.server .authRequired || event == .discarded ||
        (manager.connected worker.server && isHealth manager worker.server .healthy &&
          event != .fails) then
      manager.put index worker .finished
    else manager.put index worker .recovering
  | .watching =>
    if event = .succeeds then manager.put index worker .reconnecting
    else if event = .authError then manager.put index worker .rejected
    else if event = .discarded then manager.put index worker .finished
    else manager
  | .reconnecting =>
    if event = .succeeds then manager.put index worker .reconnected
    else if event = .authError then manager.put index worker .rejected
    else manager.put index worker .watching
  | .reconnected =>
    if event = .discarded then manager.put index worker .watching
    else replaceServer (manager.put index worker .watching) worker.server
  | .rejected => markAuthRequired (manager.put index worker .finished) worker.server
  | .finished => manager

inductive Action where
  | checkHealth (server : String)
  | refreshSignIn (server : String)
  | work (index : Nat) (event : Event)
  | replace (server : String)
  | register (server : String)
  | startFails (server : String) (signIn : Bool)
  | stop (server : String)
deriving DecidableEq

def step (manager : Manager) : Action → Option Manager
  | .checkHealth server => some { manager with workers := manager.workers ++ [⟨server, .due⟩] }
  | .refreshSignIn server => some { manager with workers := manager.workers ++ [⟨server, .watching⟩] }
  | .work index event =>
    manager.workers[index]?.map fun worker => work manager index worker event
  | .replace server => some (replaceServer manager server)
  | .register server => some (registerStarted manager server)
  | .startFails server signIn => some (recordStartFailure manager server signIn)
  | .stop server => some (stopServer manager server)

/-- The server needs the owner to sign in. -/
def Marked (name : String) (manager : Manager) : Prop :=
  isHealth manager name .authRequired = true

/-- The step puts a fresh connection of the server in place, or stops it. -/
def ends (name : String) (manager : Manager) : Action → Bool
  | .work index event =>
    manager.workers[index]?.any fun worker =>
      worker.server == name && event != .discarded &&
        (worker.phase == .recovered || worker.phase == .reconnected)
  | .replace server | .register server | .stop server => server == name
  | .checkHealth _ | .refreshSignIn _ | .startFails _ _ => false

/-- The step marks the server as failed to start. -/
def marksFailure (name : String) (manager : Manager) : Action → Bool
  | .work index _ =>
    manager.workers[index]?.any fun worker =>
      worker.server == name && worker.phase == .connectionEnded
  | .startFails server signIn => server == name && !signIn
  | .checkHealth _ | .refreshSignIn _ | .replace _ | .register _ | .stop _ => false

end Plug.Health
