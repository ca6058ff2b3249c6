import Plug.TaskRecords

/-!
# Tasks that have ended

A task ends here by `complete`, `fail` or `mark_cancelled`, or upstream, which is learnt
from its status. The status of a task that has ended stays as it is. A task that ended
upstream keeps its upstream reference until its result is fetched with it and cached;
every other task that has ended holds neither a reference nor a future.
-/

namespace Plug.Tasks

variable {Value : Type}

/-- No result is cached for the task once it has ended, except when it completed without it. -/
def leavesEnded (taskId : String) (store : TaskStore Value) : Action Value → Bool
  | .cacheResult _ _ target _ =>
    decide (target ≠ taskId) ||
      (Tables.get store.tasks taskId).all fun record =>
        !record.task.status.isTerminal ||
          (record.task.status == .completed && record.result.isNone)
  | _ => true

/-- The task has ended upstream, or a reference or a future is set after its end. -/
def holdsPastEnd (taskId : String) (store : TaskStore Value) : Action Value → Bool
  | .syncFromUpstream _ _ target upstreamTask =>
    decide (target = taskId) && upstreamTask.status.isTerminal
  | .createPassthrough _ _ _ upstreamTask _ =>
    decide (store.nextName = taskId) && upstreamTask.status.isTerminal
  | .setUpstreamRequest _ target _ =>
    decide (target = taskId) &&
      (Tables.get store.tasks taskId).any fun record => record.task.status.isTerminal
  | .attachAbortHandle target _ =>
    decide (target = taskId) &&
      (Tables.get store.tasks taskId).any fun record => record.task.status.isTerminal
  | _ => false

/-- What becomes of the record of a task that has ended. -/
structure Lasting (record later : TaskRecord Value) : Prop where
  status : later.task.status = record.task.status
  result : later.result = record.result ∨ (record.result = none ∧ record.task.status = .completed)

theorem Lasting.refl (record : TaskRecord Value) : Lasting record record :=
  ⟨rfl, Or.inl rfl⟩

variable {store : TaskStore Value} {action : Action Value} {taskId : String}

theorem Change.lasting (keyed : Keyed store) {record former after : TaskRecord Value}
    (leaves : leavesEnded taskId store action = true) (member : (taskId, former) ∈ store.tasks)
    (ended : record.task.status.isTerminal = true) (lasting : Lasting record former)
    (change : Change action taskId former after) : Lasting record after := by
  have present := Tables.get_of_mem keyed.distinct member
  have endedFormer : former.task.status.isTerminal = true := lasting.status ▸ ended
  cases change with
  | attached => exact ⟨lasting.status, lasting.result⟩
  | sent => exact ⟨lasting.status, lasting.result⟩
  | sourced => exact ⟨lasting.status, lasting.result⟩
  | touched => exact ⟨lasting.status, lasting.result⟩
  | completed clock taskId result record runs => exact absurd endedFormer (by simp [runs])
  | failed clock taskId message record runs => exact absurd endedFormer (by simp [runs])
  | cancelled clock owner taskId record own runs => exact absurd endedFormer (by simp [runs])
  | synced clock owner taskId upstreamTask record own agrees =>
    exact ⟨(agrees endedFormer).symm.trans lasting.status, lasting.result⟩
  | cached clock owner taskId result record own =>
    obtain ⟨completed, empty⟩ : former.task.status = .completed ∧ former.result = none := by
      simpa [leavesEnded, present, endedFormer] using leaves
    have status : record.task.status = .completed := lasting.status.symm.trans completed
    refine ⟨status.symm, Or.inr ⟨?_, status⟩⟩
    rcases lasting.result with same | ⟨none, -⟩
    · exact same.symm.trans empty
    · exact none

/-- A task that has ended holds nothing that runs. -/
def Released (record : TaskRecord Value) : Prop :=
  record.task.status.isTerminal = true → record.upstream = none ∧ record.abortHandle = none

theorem Change.released (keyed : Keyed store) {former after : TaskRecord Value}
    (released : Released former) (member : (taskId, former) ∈ store.tasks)
    (unheld : holdsPastEnd taskId store action = false)
    (change : Change action taskId former after) : Released after := by
  have present := Tables.get_of_mem keyed.distinct member
  intro ended
  cases change with
  | attached handle =>
    have endedFormer : former.task.status.isTerminal = true := ended
    simp [holdsPastEnd, present, endedFormer] at unheld
  | sent clock upstream =>
    have endedFormer : former.task.status.isTerminal = true := ended
    simp [holdsPastEnd, present, endedFormer] at unheld
  | synced clock owner taskId upstreamTask record own agrees =>
    have reported : upstreamTask.status.isTerminal = true := ended
    simp [holdsPastEnd, reported] at unheld
  | sourced => exact released ended
  | touched => exact released ended
  | completed => exact ⟨rfl, rfl⟩
  | failed => exact ⟨rfl, rfl⟩
  | cancelled => exact ⟨rfl, rfl⟩
  | cached => exact ⟨rfl, rfl⟩

/-- Names given out before a step are not given out again. -/
def Spent (store : TaskStore Value) (taskId : String) : Prop :=
  ∃ number < store.nextTaskId, taskId = "task_" ++ toString number

theorem Spent.not_next (spent : Spent store taskId) : taskId ≠ store.nextName := by
  rintro rfl
  obtain ⟨number, less, same⟩ := spent
  have equal : store.nextTaskId = number := name_injective same
  omega

theorem Spent.perform (spent : Spent store taskId) (action : Action Value) :
    Spent (perform store action) taskId := by
  obtain ⟨number, less, same⟩ := spent
  exact ⟨number, Nat.lt_of_lt_of_le less (perform_frame store action).nextTaskId, same⟩

/-- What a run that spares tasks that have ended keeps of one of them. -/
structure Ended (taskId : String) (record : TaskRecord Value) (store : TaskStore Value) :
    Prop where
  keyed : Keyed store
  spent : Spent store taskId
  lasting : ∀ later, (taskId, later) ∈ store.tasks → Lasting record later

theorem Ended.perform {record : TaskRecord Value} (ended : record.task.status.isTerminal = true)
    (leaves : leavesEnded taskId store action = true) (held : Ended taskId record store) :
    Ended taskId record (Tasks.perform store action) := by
  constructor
  · exact perform_keyed held.keyed action
  · exact held.spent.perform action
  · intro later member
    cases perform_fate held.keyed member with
    | kept present => exact held.lasting later present
    | changed former present change =>
      exact change.lasting held.keyed leaves present ended (held.lasting former present)
    | created clock owner name fresh => exact absurd fresh held.spent.not_next

/-- What a run keeps in which nothing is held for a task past its end. -/
structure Unheld (taskId : String) (store : TaskStore Value) : Prop where
  keyed : Keyed store
  released : ∀ record, (taskId, record) ∈ store.tasks → Released record

theorem Unheld.perform (unheld : holdsPastEnd taskId store action = false)
    (held : Unheld taskId store) : Unheld taskId (Tasks.perform store action) := by
  constructor
  · exact perform_keyed held.keyed action
  · intro record member
    cases perform_fate held.keyed member with
    | kept present => exact held.released record present
    | changed former present change =>
      exact change.released held.keyed (held.released former present) present unheld
    | created clock owner name fresh accepted own empty made =>
      intro ended
      rcases made with ⟨-, working⟩ | ⟨upstreamTask, upstream, rfl, same⟩
      · rw [working] at ended
        cases ended
      · rw [same] at ended
        simp [holdsPastEnd, ← fresh, ended] at unheld

theorem run_keyed {trace : List (Action Value)}
    (ran : Runs.exec step TaskStore.new trace = some store) : Keyed store := by
  refine Runs.exec_invariant step (fun _ _ => True) Keyed ?_ trace TaskStore.new store new_keyed
    (Runs.Admitted.of_forall (fun _ _ => trivial) _) ran
  intro state action next _ keyed stepped
  exact Option.some.inj stepped ▸ perform_keyed keyed action

/-- A task that has ended keeps its status while its record is kept, and its result too,
which a task that completed upstream gets once. Its record holds neither a reference nor a
future when the task did not end upstream and none was set after its end. -/
theorem ended_tasks_last (before after : List (Action Value)) (store later : TaskStore Value)
    (ran : Runs.exec step TaskStore.new before = some store)
    (continued : Runs.exec step store after = some later)
    (taskId : String) (record final : TaskRecord Value)
    (leaves : Runs.Admitted step (fun store action => leavesEnded taskId store action = true)
      store after)
    (present : Tables.get store.tasks taskId = some record)
    (remains : Tables.get later.tasks taskId = some final)
    (ended : record.task.status.isTerminal = true) :
    final.task.status = record.task.status ∧
    (final.result = record.result ∨
      (record.result = none ∧ record.task.status = .completed)) ∧
    (Runs.Admitted step (fun store action => holdsPastEnd taskId store action = false)
        TaskStore.new before →
      record.upstream = none ∧ record.abortHandle = none) := by
  have member := Tables.mem_of_get present
  have keyed : Keyed store := run_keyed ran
  have lasting : Ended taskId record later := by
    refine Runs.exec_invariant step (fun store action => leavesEnded taskId store action = true)
      (Ended taskId record) ?_ after store later ?_ leaves continued
    · intro state action next leaves held stepped
      exact Option.some.inj stepped ▸ held.perform ended leaves
    · refine ⟨keyed, keyed.named _ member, ?_⟩
      intro other same
      rw [keyed.only present same]
      exact Lasting.refl record
  obtain ⟨status, result⟩ := lasting.lasting final (Tables.mem_of_get remains)
  refine ⟨status, result, ?_⟩
  intro unheld
  have released : Unheld taskId store := by
    refine Runs.exec_invariant step (fun store action => holdsPastEnd taskId store action = false)
      (Unheld taskId) ?_ before TaskStore.new store ?_ unheld ran
    · intro state action next unheld held stepped
      exact Option.some.inj stepped ▸ held.perform unheld
    · exact ⟨new_keyed, by rintro record ⟨⟩⟩
  exact released.released record member ended

def sampleClock : Clock := ⟨0, "now", fun _ => 0⟩

/-- A status of a task upstream. -/
def sampleStatus (status : TaskStatus) : Task := {
  taskId := "upstream"
  status := status
  statusMessage := none
  createdAt := "then"
  lastUpdatedAt := "then"
  ttl := none
  pollInterval := none }

/-- Replies that come after a cancellation change nothing. -/
theorem ended_tasks_last_late_reply : ∃ store later : TaskStore Nat, ∃ record final,
    Runs.exec step TaskStore.new
      [.create sampleClock "owner" "tool", .markCancelled sampleClock "owner" "task_1"] =
        some store ∧
    Runs.exec step store
      [.complete sampleClock "task_1" 0,
        .syncFromUpstream sampleClock "owner" "task_1" (sampleStatus .completed)] = some later ∧
    Tables.get store.tasks "task_1" = some record ∧
    Tables.get later.tasks "task_1" = some final ∧
    final.task.status = .cancelled ∧ record.upstream = none := by
  refine ⟨_, _, _, _, rfl, rfl, rfl, rfl, ?_⟩
  have last := ended_tasks_last
    [.create sampleClock "owner" "tool", .markCancelled sampleClock "owner" "task_1"]
    [.complete sampleClock "task_1" 0,
      .syncFromUpstream sampleClock "owner" "task_1" (sampleStatus .completed)]
    _ _ rfl rfl "task_1" _ _ (by decide) (by rfl) (by rfl) (by decide)
  exact ⟨last.1, (last.2.2 (by decide)).1⟩

/-- A task that completes upstream keeps its reference, and gets its result later. -/
theorem ended_upstream_gets_result : ∃ store later : TaskStore Nat, ∃ record final,
    Runs.exec step TaskStore.new
      [.createPassthrough sampleClock "owner" "tool" (sampleStatus .working)
          (.task "server" "upstream"),
        .syncFromUpstream sampleClock "owner" "task_1" (sampleStatus .completed)] = some store ∧
    Runs.exec step store [.cacheResult sampleClock "owner" "task_1" 7] = some later ∧
    Tables.get store.tasks "task_1" = some record ∧
    Tables.get later.tasks "task_1" = some final ∧
    record.task.status.isTerminal = true ∧ record.upstream = some (.task "server" "upstream") ∧
    record.result = none ∧ final.result = some 7 := by
  refine ⟨_, _, _, _, rfl, rfl, rfl, rfl, ?_⟩
  decide

end Plug.Tasks
