import Plug.Tables
import Plug.ActiveCalls

/-!
# The task store

Tasks are tool calls whose results are collected later. The store keeps a record for
each, owned by the client or session that asked for it, and a ledger of the creates in
flight for each owner. Every operation runs under one lock. A task runs here, or upstream
(`create_passthrough`), where its status and its result are fetched separately.

Time, timestamps and the order in which a hash table is walked come with each operation.
-/

namespace Plug.Tasks

open ActiveCalls (NumberOrString)

def defaultTaskTtlMs : Nat := 60 * 60 * 1000
def defaultTaskPollIntervalMs : Nat := 1000
def defaultMaxCompletedTasksPerOwner : Nat := 100
def defaultStaleInFlightTtlMs : Nat := 24 * 60 * 60 * 1000

inductive TaskStatus where
  | working
  | inputRequired
  | completed
  | failed
  | cancelled
deriving DecidableEq

def TaskStatus.isTerminal : TaskStatus → Bool
  | .completed => true
  | .failed => true
  | .cancelled => true
  | _ => false

structure Task where
  taskId : String
  status : TaskStatus
  statusMessage : Option String
  createdAt : String
  lastUpdatedAt : String
  ttl : Option Nat
  pollInterval : Option Nat
deriving DecidableEq

inductive TaskUpstreamRef where
  | request (serverId : String) (requestId : NumberOrString)
  | task (serverId taskId : String)
deriving DecidableEq

structure TaskSource where
  listed : String
  behind : Option (String × String)
deriving DecidableEq

/-- `abortHandle` names the spawned future. -/
structure TaskRecord (Value : Type) where
  task : Task
  owner : String
  source : TaskSource
  result : Option Value
  abortHandle : Option Nat
  upstream : Option TaskUpstreamRef
  lastTouched : Nat
  pendingCancelReason : Option String
deriving DecidableEq

structure OwnerLifecycleState where
  inFlightCreates : Nat
  tornDown : Bool
deriving DecidableEq

structure TaskStore (Value : Type) where
  tasks : List (String × TaskRecord Value)
  nextTaskId : Nat
  lifecycle : List (String × OwnerLifecycleState)
  expiredCleanup : List (Option TaskUpstreamRef)

def TaskStore.new {Value : Type} : TaskStore Value where
  tasks := []
  nextTaskId := 1
  lifecycle := []
  expiredCleanup := []

inductive ErrorCode where
  | invalidRequest
  | internalError
deriving DecidableEq

structure McpError where
  code : ErrorCode
  message : String
deriving DecidableEq

def ownerClosedDuringCreateError : McpError :=
  ⟨.invalidRequest, "session closed during task creation"⟩

def taskNotFound (taskId : String) : McpError :=
  ⟨.invalidRequest, "task not found: " ++ taskId⟩

def notTheOwner : McpError :=
  ⟨.invalidRequest, "task does not belong to this client/session"⟩

/-- What an operation reads besides the store. -/
structure Clock where
  now : Nat
  timestamp : String
  order : String → Nat

variable {Value : Type}

/-! ### The ledger -/

def TaskStore.beginOwnerCreate (store : TaskStore Value) (owner : String) : TaskStore Value :=
  let state := (Tables.get store.lifecycle owner).getD ⟨0, false⟩
  { store with
    lifecycle := Tables.insert store.lifecycle owner
      { state with inFlightCreates := state.inFlightCreates + 1 } }

/-- `end_create`, by which an `OwnerCreateGuard` is dropped. -/
def TaskStore.endCreate (store : TaskStore Value) (owner : String) : TaskStore Value :=
  match Tables.get store.lifecycle owner with
  | none => store
  | some state =>
    let left := state.inFlightCreates - 1
    { store with
      lifecycle :=
        if left = 0 then Tables.remove store.lifecycle owner
        else Tables.insert store.lifecycle owner { state with inFlightCreates := left } }

def TaskStore.tombstoneIfInFlight (store : TaskStore Value) (owner : String) : TaskStore Value :=
  match Tables.get store.lifecycle owner with
  | none => store
  | some state =>
    if state.inFlightCreates > 0 then
      { store with
        lifecycle := Tables.insert store.lifecycle owner { state with tornDown := true } }
    else store

def TaskStore.isTombstoned (store : TaskStore Value) (owner : String) : Bool :=
  (Tables.get store.lifecycle owner).any OwnerLifecycleState.tornDown

/-! ### Expiry and retention -/

def TaskRecord.expired (record : TaskRecord Value) (now : Nat) : Bool :=
  if record.task.status.isTerminal then
    decide (record.task.ttl.getD defaultTaskTtlMs ≤ now - record.lastTouched)
  else decide (defaultStaleInFlightTtlMs ≤ now - record.lastTouched)

/-- The upstream work of a task that expired in flight is left to be cancelled. -/
def TaskStore.pruneExpired (store : TaskStore Value) (clock : Clock) : TaskStore Value :=
  { store with
    tasks := store.tasks.filter fun item => !item.2.expired clock.now
    expiredCleanup := store.expiredCleanup ++
      (((Tables.iterate clock.order store.tasks).filter fun item =>
        item.2.expired clock.now && !item.2.task.status.isTerminal).map fun item =>
          item.2.upstream) }

/-- The finished tasks of an owner, the one touched longest ago first. -/
def completedByOwner (clock : Clock) (tasks : List (String × TaskRecord Value)) (owner : String) :
    List (String × TaskRecord Value) :=
  (Tables.iterate clock.order (tasks.filter fun item =>
    decide (item.2.owner = owner) && item.2.task.status.isTerminal)).insertionSort
      fun item other => item.2.lastTouched ≤ other.2.lastTouched

/-- The finished tasks of an owner beyond the limit. -/
def droppedOfOwner (clock : Clock) (tasks : List (String × TaskRecord Value)) (owner : String) :
    List String :=
  let completed := completedByOwner clock tasks owner
  (completed.take (completed.length - defaultMaxCompletedTasksPerOwner)).map Prod.fst

def TaskStore.enforceOwnerCompletedRetention (store : TaskStore Value) (clock : Clock) :
    TaskStore Value :=
  { store with
    tasks := store.tasks.filter fun item =>
      decide (item.1 ∉ droppedOfOwner clock store.tasks item.2.owner) }

def TaskStore.takeExpiredCleanup (store : TaskStore Value) : TaskStore Value :=
  { store with expiredCleanup := [] }

/-! ### Creating tasks -/

def TaskStore.nextName (store : TaskStore Value) : String :=
  "task_" ++ toString store.nextTaskId

/-- The record is put in under the next name. -/
def TaskStore.insertRecord (store : TaskStore Value) (clock : Clock)
    (record : TaskRecord Value) : TaskStore Value :=
  { store with
    tasks := Tables.insert store.tasks store.nextName record
    nextTaskId := store.nextTaskId + 1 }.enforceOwnerCompletedRetention clock

def TaskStore.create (store : TaskStore Value) (clock : Clock) (owner name : String) :
    Except McpError Task × TaskStore Value :=
  if store.isTombstoned owner then (.error ownerClosedDuringCreateError, store)
  else
    let pruned := store.pruneExpired clock
    let task : Task := {
      taskId := pruned.nextName
      status := .working
      statusMessage := some ("Running " ++ name)
      createdAt := clock.timestamp
      lastUpdatedAt := clock.timestamp
      ttl := some defaultTaskTtlMs
      pollInterval := some defaultTaskPollIntervalMs }
    (.ok task, pruned.insertRecord clock {
      task := task
      owner := owner
      source := ⟨name, none⟩
      result := none
      abortHandle := none
      upstream := none
      lastTouched := clock.now
      pendingCancelReason := none })

def TaskStore.createPassthrough (store : TaskStore Value) (clock : Clock) (owner name : String)
    (upstreamTask : Task) (upstream : TaskUpstreamRef) : Except McpError Task × TaskStore Value :=
  if store.isTombstoned owner then (.error ownerClosedDuringCreateError, store)
  else
    let pruned := store.pruneExpired clock
    let task := { upstreamTask with
      taskId := pruned.nextName
      statusMessage := some (upstreamTask.statusMessage.getD ("Running " ++ name)) }
    (.ok task, pruned.insertRecord clock {
      task := task
      owner := owner
      source := ⟨name, none⟩
      result := none
      abortHandle := none
      upstream := some upstream
      lastTouched := clock.now
      pendingCancelReason := none })

/-! ### Running tasks -/

def TaskStore.update (store : TaskStore Value) (taskId : String)
    (change : TaskRecord Value → TaskRecord Value) : TaskStore Value :=
  { store with tasks := Tables.modify store.tasks taskId change }

def TaskRecord.attach (handle : Nat) (record : TaskRecord Value) : TaskRecord Value :=
  { record with abortHandle := some handle }

def TaskStore.attachAbortHandle (store : TaskStore Value) (taskId : String) (handle : Nat) :
    TaskStore Value :=
  store.update taskId (TaskRecord.attach handle)

inductive UpstreamRecordOutcome where
  | missing
  | recorded (pendingCancel : Option String)
deriving DecidableEq

def TaskRecord.sent (clock : Clock) (upstream : TaskUpstreamRef) (record : TaskRecord Value) :
    TaskRecord Value :=
  { record with
    upstream := some upstream
    lastTouched := clock.now
    pendingCancelReason := none }

def TaskStore.setUpstreamRequest (store : TaskStore Value) (clock : Clock) (taskId : String)
    (upstream : TaskUpstreamRef) : UpstreamRecordOutcome × TaskStore Value :=
  match Tables.get store.tasks taskId with
  | some record =>
    (.recorded record.pendingCancelReason, store.update taskId (TaskRecord.sent clock upstream))
  | none => (.missing, store)

def TaskRecord.sourced (server ownTool : String) (record : TaskRecord Value) : TaskRecord Value :=
  { record with source := { record.source with behind := some (server, ownTool) } }

def TaskStore.recordSource (store : TaskStore Value) (taskId server ownTool : String) :
    TaskStore Value :=
  store.update taskId (TaskRecord.sourced server ownTool)

def TaskRecord.touched (clock : Clock) (record : TaskRecord Value) : TaskRecord Value :=
  { record with lastTouched := clock.now }

/-- A task whose end is recorded holds nothing that runs. -/
def TaskRecord.settled (clock : Clock) (status : TaskStatus) (message : String)
    (record : TaskRecord Value) : TaskRecord Value :=
  { record with
    task := { record.task with
      status := status
      statusMessage := some message
      lastUpdatedAt := clock.timestamp }
    abortHandle := none
    upstream := none
    lastTouched := clock.now }

/-- The end of a task is recorded once; a task that has ended is only touched. -/
def TaskStore.settle (store : TaskStore Value) (clock : Clock) (taskId : String)
    (settle : TaskRecord Value → TaskRecord Value) : TaskStore Value :=
  match Tables.get store.tasks taskId with
  | some record =>
    if record.task.status.isTerminal then store.update taskId (TaskRecord.touched clock)
    else (store.update taskId settle).enforceOwnerCompletedRetention clock
  | none => store.enforceOwnerCompletedRetention clock

def TaskRecord.complete (clock : Clock) (result : Value) (record : TaskRecord Value) :
    TaskRecord Value :=
  { record.settled clock .completed "Completed" with result := some result }

def TaskStore.complete (store : TaskStore Value) (clock : Clock) (taskId : String)
    (result : Value) : TaskStore Value :=
  store.settle clock taskId (TaskRecord.complete clock result)

def TaskStore.fail (store : TaskStore Value) (clock : Clock) (taskId message : String) :
    TaskStore Value :=
  store.settle clock taskId (TaskRecord.settled clock .failed message)

/-! ### Operations of an owner -/

/-- `get` and `ensure_owner`. -/
def TaskStore.owned (store : TaskStore Value) (owner taskId : String) :
    Except McpError (TaskRecord Value) :=
  match Tables.get store.tasks taskId with
  | none => .error (taskNotFound taskId)
  | some record => if record.owner = owner then .ok record else .error notTheOwner

/-- An operation that reads a record of its owner. -/
def TaskStore.readForOwner {Result : Type} (store : TaskStore Value) (clock : Clock)
    (owner taskId : String) (read : TaskRecord Value → Except McpError Result) :
    Except McpError Result × TaskStore Value :=
  let pruned := store.pruneExpired clock
  ((pruned.owned owner taskId).bind read, pruned)

def TaskRecord.cancelled (clock : Clock) (record : TaskRecord Value) : TaskRecord Value :=
  { record.settled clock .cancelled "Cancelled" with
    result := none
    pendingCancelReason :=
      if record.upstream.isNone then some "task cancelled" else record.pendingCancelReason }

def TaskStore.markCancelled (store : TaskStore Value) (clock : Clock) (owner taskId : String) :
    Except McpError (Task × Option TaskUpstreamRef × Option Nat) × TaskStore Value :=
  let pruned := store.pruneExpired clock
  match pruned.owned owner taskId with
  | .error error => (.error error, pruned)
  | .ok record =>
    if record.task.status.isTerminal then
      (.ok (record.task, none, none), pruned.update taskId (TaskRecord.touched clock))
    else
      (.ok ((record.cancelled clock).task, record.upstream, record.abortHandle),
        (pruned.update taskId (TaskRecord.cancelled clock)).enforceOwnerCompletedRetention clock)

def TaskStore.cacheResultForOwner (store : TaskStore Value) (clock : Clock)
    (owner taskId : String) (result : Value) : Except McpError Unit × TaskStore Value :=
  let pruned := store.pruneExpired clock
  match pruned.owned owner taskId with
  | .error error => (.error error, pruned)
  | .ok _ =>
    (.ok (), (pruned.update taskId
      (TaskRecord.complete clock result)).enforceOwnerCompletedRetention clock)

/-- What the records held that has to be stopped. -/
def TaskStore.cleanupOwner (store : TaskStore Value) (clock : Clock) (owner : String) :
    List (Option TaskUpstreamRef × Option Nat) × TaskStore Value :=
  let marked := store.tombstoneIfInFlight owner
  ((Tables.iterate clock.order (marked.tasks.filter fun item =>
      decide (item.2.owner = owner))).map fun item => (item.2.upstream, item.2.abortHandle),
    { marked with tasks := marked.tasks.filter fun item => decide (item.2.owner ≠ owner) })

structure ListTasksResult where
  tasks : List Task
  nextCursor : Option String
deriving DecidableEq

/-- `str::parse::<usize>`. -/
def parseUsize (text : String) : Option Nat :=
  let digits := match text.toList with
    | '+' :: rest => rest
    | characters => characters
  if digits.isEmpty || digits.any (fun character => !character.isDigit) then none
  else
    let value := digits.foldl (fun value character => value * 10 + (character.toNat - 48)) 0
    if value ≤ 18446744073709551615 then some value else none

def paginateTasks (tasks : List Task) (cursor : Option String) : ListTasksResult :=
  let start := ((cursor.bind parseUsize).filter fun index => index < tasks.length).getD 0
  let stop := min (start + 500) tasks.length
  { tasks := (tasks.take stop).drop start
    nextCursor := if stop < tasks.length then some (toString stop) else none }

def TaskStore.listForOwner (store : TaskStore Value) (clock : Clock) (owner : String)
    (cursor : Option String) : ListTasksResult × TaskStore Value :=
  let pruned := store.pruneExpired clock
  let tasks := (Tables.iterate clock.order (pruned.tasks.filter fun item =>
    decide (item.2.owner = owner))).map fun item => item.2.task
  (paginateTasks (tasks.insertionSort fun task other => task.createdAt ≤ other.createdAt) cursor,
    pruned)

def TaskStore.getInfoForOwner (store : TaskStore Value) (clock : Clock) (owner taskId : String) :
    Except McpError Task × TaskStore Value :=
  store.readForOwner clock owner taskId fun record => .ok record.task

inductive TaskPayload (Object : Type) where
  | working
  | completed (result : Object)
  | failed (code : ErrorCode) (message : String)
  | cancelled

/-- `asObject` is `serde_json::Value::as_object`. -/
def TaskStore.getModernForOwner {Object : Type} (store : TaskStore Value) (clock : Clock)
    (owner taskId : String) (asObject : Value → Option Object) :
    Except McpError (Task × TaskPayload Object) × TaskStore Value :=
  store.readForOwner clock owner taskId fun record =>
    match record.task.status with
    | .working => .ok (record.task, .working)
    | .inputRequired =>
      .error ⟨.invalidRequest, "task input requests are not bridged to modern clients yet"⟩
    | .completed =>
      match record.result.bind asObject with
      | some result => .ok (record.task, .completed result)
      | none => .error ⟨.internalError, "task result missing or malformed"⟩
    | .failed =>
      .ok (record.task, .failed .internalError (record.task.statusMessage.getD "task failed"))
    | .cancelled => .ok (record.task, .cancelled)

def TaskStore.validateOwner (store : TaskStore Value) (clock : Clock) (owner taskId : String) :
    Except McpError Unit × TaskStore Value :=
  store.readForOwner clock owner taskId fun _ => .ok ()

def TaskRecord.synced (clock : Clock) (upstreamTask : Task) (record : TaskRecord Value) :
    TaskRecord Value :=
  { record with
    task := { upstreamTask with taskId := record.task.taskId }
    lastTouched := clock.now }

def TaskStore.syncFromUpstreamForOwner (store : TaskStore Value) (clock : Clock)
    (owner taskId : String) (upstreamTask : Task) : Except McpError Task × TaskStore Value :=
  let pruned := store.pruneExpired clock
  match pruned.owned owner taskId with
  | .error error => (.error error, pruned)
  | .ok record =>
    if record.task.status.isTerminal ∧ record.task.status ≠ upstreamTask.status then
      (.ok record.task, pruned.update taskId (TaskRecord.touched clock))
    else
      (.ok (record.synced clock upstreamTask).task,
        pruned.update taskId (TaskRecord.synced clock upstreamTask))

def TaskStore.upstreamForOwner (store : TaskStore Value) (clock : Clock) (owner taskId : String) :
    Except McpError (Option TaskUpstreamRef) × TaskStore Value :=
  store.readForOwner clock owner taskId fun record => .ok record.upstream

def TaskStore.getResultForOwner (store : TaskStore Value) (clock : Clock) (owner taskId : String) :
    Except McpError Value × TaskStore Value :=
  store.readForOwner clock owner taskId fun record =>
    match record.task.status with
    | .completed =>
      match record.result with
      | some result => .ok result
      | none => .error ⟨.internalError, "task result missing"⟩
    | _ => .error ⟨.invalidRequest, "task " ++ taskId ++ " is not in a completed state"⟩

def TaskStore.cancelResultForOwner (store : TaskStore Value) (clock : Clock)
    (owner taskId : String) : Except McpError Task × TaskStore Value :=
  store.readForOwner clock owner taskId fun record => .ok record.task

end Plug.Tasks
