import Mathlib.Logic.Function.Basic
import Plug.Runs
import Plug.ReloadCoverage

/-!
# Background tasks of the servers

A server has a task that checks its health and, where it signs in, one that refreshes the sign-in.
Each task is given a number that is stored for its kind and server, and gives up when it wakes and
finds another number there. Reloads, restarts and the tasks themselves change these entries beside
one another, and a task can sleep through any number of changes.
-/

namespace Plug.Background

open Reload

inductive TaskKind where
  | health
  | refresh
deriving DecidableEq

inductive TaskPhase where
  | asleep
  | checked
  | acting
  | clearing
  | ended
deriving DecidableEq

/-- The task can come to its check again. -/
def TaskPhase.returns : TaskPhase → Bool
  | .asleep | .checked | .acting => true
  | .clearing | .ended => false

structure Task where
  kind : TaskKind
  server : String
  generation : Nat
  intervalSecs : Nat
  phase : TaskPhase
deriving DecidableEq

/-- What a reload, a restart or the start of the service does, one access to shared state at a
time. -/
inductive Job where
  | clearGeneration (kind : TaskKind) (server : String)
  | storeConfig (config : Config)
  | spawn (kind : TaskKind) (server : String) (intervalSecs : Nat)
  | insertGeneration (kind : TaskKind) (server : String) (intervalSecs next : Nat)
deriving DecidableEq

structure Supervision where
  config : Config
  generations : TaskKind → String → Option Nat
  tasks : List Task
  reload : List Job
  others : List (List Job)

def signsIn (config : ServerConfig) : Bool :=
  config.enabled && config.auth == some "oauth"

def syncRefreshLoopForServer (name : String) (config : ServerConfig) : List Job :=
  if signsIn config then [.spawn .refresh name config.healthCheckIntervalSecs]
  else [.clearGeneration .refresh name]

def spawnBackgroundTasksForServer (name : String) (config : ServerConfig) : List Job :=
  .spawn .health name config.healthCheckIntervalSecs :: syncRefreshLoopForServer name config

/-- The jobs of a reload that spawns the tasks of the started servers in the given order. -/
def applyReload (old new : Config) (started : List (String × ServerConfig)) : List Job :=
  (diffConfigs old new).removed.flatMap (fun name =>
      [.clearGeneration .health name, .clearGeneration .refresh name]) ++
    .storeConfig new :: started.flatMap fun item => spawnBackgroundTasksForServer item.1 item.2

/-- The jobs of the start of the service. -/
def startJobs (config : Config) : List Job :=
  (config.servers.filter fun item => item.2.enabled).map (fun item =>
      .spawn .health item.1 item.2.healthCheckIntervalSecs) ++
    (config.servers.filter fun item => signsIn item.2).map fun item =>
      .spawn .refresh item.1 item.2.healthCheckIntervalSecs

def Supervision.start (config : Config) : Supervision where
  config := config
  generations _ _ := none
  tasks := []
  reload := []
  others := [startJobs config]

/-- One more than the stored number, in a machine word, or the first one. -/
def nextGeneration : Option Nat → Nat
  | none => 1
  | some generation => (generation + 1) % 18446744073709551616

def setGeneration (generations : TaskKind → String → Option Nat) (kind : TaskKind) (server : String)
    (generation : Option Nat) : TaskKind → String → Option Nat :=
  Function.update generations kind (Function.update (generations kind) server generation)

/-- Do a job; reading a number leaves the job to store the next one and to spawn the task. -/
def perform (state : Supervision) : Job → Supervision × List Job
  | .clearGeneration kind server =>
    ({ state with generations := setGeneration state.generations kind server none }, [])
  | .storeConfig config => ({ state with config := config }, [])
  | .spawn kind server intervalSecs =>
    (state,
      [.insertGeneration kind server intervalSecs
        (nextGeneration (state.generations kind server))])
  | .insertGeneration kind server intervalSecs next =>
    ({ state with
        generations := setGeneration state.generations kind server (some next)
        tasks := state.tasks ++ [⟨kind, server, next, intervalSecs, .asleep⟩] }, [])

/-- What a task that checked its number makes of the configuration. -/
def continues (task : Task) (config : ServerConfig) : Bool :=
  match task.kind with
  | .health => config.enabled && config.healthCheckIntervalSecs == task.intervalSecs
  | .refresh => signsIn config

inductive Outcome where
  | goesOn
  | ends
  | finds
deriving DecidableEq

def Supervision.put (state : Supervision) (index : Nat) (task : Task) (phase : TaskPhase) :
    Supervision :=
  { state with tasks := state.tasks.set index { task with phase := phase } }

/-- A task takes its next step. A refresh can end for good, or find the server or its address gone
after its check. -/
def wake (state : Supervision) (index : Nat) (task : Task) (outcome : Outcome) :
    Option Supervision :=
  match task.phase with
  | .asleep =>
    if state.generations task.kind task.server = some task.generation then
      some (state.put index task .checked)
    else some (state.put index task .ended)
  | .checked =>
    match state.config.servers.lookup task.server with
    | none => some (state.put index task .clearing)
    | some config =>
      if continues task config then some (state.put index task .acting)
      else some (state.put index task .ended)
  | .acting =>
    match outcome with
    | .goesOn => some (state.put index task .asleep)
    | .ends => if task.kind = .refresh then some (state.put index task .ended) else none
    | .finds =>
      if task.kind = .refresh ∧
          (state.config.servers.lookup task.server).all (fun config => config.url.isNone) then
        some (state.put index task .clearing)
      else none
  | .clearing =>
    some
      { state.put index task .ended with
        generations := setGeneration state.generations task.kind task.server none }
  | .ended => none

inductive TaskAction where
  | reload (config : Config) (started : List (String × ServerConfig))
  | reloadJob
  | restarted (server : String)
  | job (index : Nat)
  | wake (index : Nat) (outcome : Outcome)
deriving DecidableEq

def taskStep (state : Supervision) : TaskAction → Option Supervision
  | .reload config started =>
    if state.reload = [] ∧ started.Perm (reloadStartActions (diffConfigs state.config config)) then
      some { state with reload := applyReload state.config config started }
    else none
  | .reloadJob =>
    match state.reload with
    | [] => none
    | job :: rest =>
      let (next, left) := perform state job
      some { next with reload := left ++ rest }
  | .restarted server =>
    match state.config.servers.lookup server with
    | none => none
    | some config =>
      if config.enabled then
        some { state with others := state.others ++ [syncRefreshLoopForServer server config] }
      else none
  | .job index =>
    match state.others[index]? with
    | some (job :: rest) =>
      let (next, left) := perform state job
      some { next with others := state.others.set index (left ++ rest) }
    | _ => none
  | .wake index outcome =>
    state.tasks[index]?.bind fun task => wake state index task outcome

/-! ### One task of a kind -/

/-- Once a task was spawned, none of the same kind and server that was spawned before it passes the
check. -/
def Superseded (generations : TaskKind → String → Option Nat) (older newer : Task) : Prop :=
  older.kind = newer.kind → older.server = newer.server → older.phase.returns = true →
    generations older.kind older.server ≠ some older.generation

instance Superseded.decidable (generations : TaskKind → String → Option Nat) (older newer : Task) :
    Decidable (Superseded generations older newer) := by
  unfold Superseded
  infer_instance

/-- At most one task of a kind can still act on a server: the one spawned last. -/
def Single (state : Supervision) : Prop :=
  state.tasks.Pairwise (Superseded state.generations)

instance Single.decidable (state : Supervision) : Decidable (Single state) :=
  inferInstanceAs (Decidable (state.tasks.Pairwise (Superseded state.generations)))

/-- The number that a task is given is not one that a task of the kind and server still carries. -/
def Job.Fresh (tasks : List Task) : Job → Prop
  | .insertGeneration kind server _ next =>
    ∀ task ∈ tasks, task.kind = kind → task.server = server → task.phase.returns = true →
      task.generation ≠ next
  | _ => True

/-- The job that a step does, if any, gives a fresh number. -/
def Fresh (state : Supervision) : TaskAction → Prop
  | .reloadJob => ∀ job ∈ state.reload.head?, job.Fresh state.tasks
  | .job index => ∀ jobs ∈ state.others[index]?, ∀ job ∈ jobs.head?, job.Fresh state.tasks
  | .reload _ _ | .restarted _ | .wake _ _ => True

end Plug.Background
