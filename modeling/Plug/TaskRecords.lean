import Plug.TaskStore
import Plug.Text

/-!
# What happens to a task's record

The operations of the task store as steps of a run. Every one of them keeps a record as it
is, changes it in a way that only depends on the operation, drops it, or creates it under a
name that was never used.
-/

namespace Plug.Tasks

variable {Value : Type}

inductive Action (Value : Type) where
  | create (clock : Clock) (owner name : String)
  | createPassthrough (clock : Clock) (owner name : String) (upstreamTask : Task)
      (upstream : TaskUpstreamRef)
  | attachAbortHandle (taskId : String) (handle : Nat)
  | setUpstreamRequest (clock : Clock) (taskId : String) (upstream : TaskUpstreamRef)
  | recordSource (taskId server ownTool : String)
  | complete (clock : Clock) (taskId : String) (result : Value)
  | fail (clock : Clock) (taskId message : String)
  | markCancelled (clock : Clock) (owner taskId : String)
  | cacheResult (clock : Clock) (owner taskId : String) (result : Value)
  | syncFromUpstream (clock : Clock) (owner taskId : String) (upstreamTask : Task)
  | cleanupOwner (clock : Clock) (owner : String)
  /-- An operation that reads, and removes what has expired. -/
  | read (clock : Clock)
  | takeExpiredCleanup
  | beginOwnerCreate (owner : String)
  | endCreate (owner : String)

def perform (store : TaskStore Value) : Action Value → TaskStore Value
  | .create clock owner name => (store.create clock owner name).2
  | .createPassthrough clock owner name upstreamTask upstream =>
    (store.createPassthrough clock owner name upstreamTask upstream).2
  | .attachAbortHandle taskId handle => store.attachAbortHandle taskId handle
  | .setUpstreamRequest clock taskId upstream => (store.setUpstreamRequest clock taskId upstream).2
  | .recordSource taskId server ownTool => store.recordSource taskId server ownTool
  | .complete clock taskId result => store.complete clock taskId result
  | .fail clock taskId message => store.fail clock taskId message
  | .markCancelled clock owner taskId => (store.markCancelled clock owner taskId).2
  | .cacheResult clock owner taskId result =>
    (store.cacheResultForOwner clock owner taskId result).2
  | .syncFromUpstream clock owner taskId upstreamTask =>
    (store.syncFromUpstreamForOwner clock owner taskId upstreamTask).2
  | .cleanupOwner clock owner => (store.cleanupOwner clock owner).2
  | .read clock => store.pruneExpired clock
  | .takeExpiredCleanup => store.takeExpiredCleanup
  | .beginOwnerCreate owner => store.beginOwnerCreate owner
  | .endCreate owner => store.endCreate owner

def step (store : TaskStore Value) (action : Action Value) : Option (TaskStore Value) :=
  some (perform store action)

/-! ### Names -/

/-- Every record has a name of its own, given out before. -/
structure Keyed (store : TaskStore Value) : Prop where
  distinct : Tables.Distinct store.tasks
  named : ∀ item ∈ store.tasks, ∃ number < store.nextTaskId, item.1 = "task_" ++ toString number

theorem name_injective {number other : Nat}
    (same : "task_" ++ toString number = "task_" ++ toString other) : number = other := by
  have digits : Nat.toDigits 10 number = Nat.toDigits 10 other := by
    have lists := congrArg String.toList same
    simpa only [String.toList_append, List.append_cancel_left_eq, Nat.toString_eq_repr,
      Nat.toList_repr] using lists
  exact Text.toDigits_injective digits

variable {store : TaskStore Value} {clock : Clock} {taskId name : String}
  {after record : TaskRecord Value} {action : Action Value}

/-- Records are kept or dropped. -/
theorem Keyed.filter {next : TaskStore Value} (keyed : Keyed store)
    {keep : String × TaskRecord Value → Bool} (tasks : next.tasks = store.tasks.filter keep)
    (nextTaskId : next.nextTaskId = store.nextTaskId) : Keyed next := by
  constructor
  · rw [tasks]
    exact keyed.distinct.filter keep
  · intro item member
    rw [tasks] at member
    rw [nextTaskId]
    exact keyed.named item (List.mem_filter.mp member).1

theorem Keyed.update (keyed : Keyed store) (taskId : String)
    (change : TaskRecord Value → TaskRecord Value) : Keyed (store.update taskId change) := by
  constructor
  · exact keyed.distinct.modify taskId change
  · intro item member
    obtain ⟨former, present, -⟩ := Tables.mem_modify_iff.mp member
    exact keyed.named (item.1, former) present

theorem Keyed.prune (keyed : Keyed store) (clock : Clock) : Keyed (store.pruneExpired clock) :=
  keyed.filter rfl rfl

theorem Keyed.retain (keyed : Keyed store) (clock : Clock) :
    Keyed (store.enforceOwnerCompletedRetention clock) :=
  keyed.filter rfl rfl

theorem Keyed.settle (keyed : Keyed store) (clock : Clock) (taskId : String)
    (settle : TaskRecord Value → TaskRecord Value) : Keyed (store.settle clock taskId settle) := by
  unfold TaskStore.settle
  split
  · split
    · exact keyed.update taskId _
    · exact (keyed.update taskId _).retain clock
  · exact keyed.retain clock

theorem Keyed.insertRecord (keyed : Keyed store) (clock : Clock) (record : TaskRecord Value) :
    Keyed (store.insertRecord clock record) := by
  have inserted : Keyed { store with
      tasks := Tables.insert store.tasks store.nextName record
      nextTaskId := store.nextTaskId + 1 } := by
    constructor
    · exact keyed.distinct.insert _ _
    · intro item member
      rcases Tables.mem_insert.mp member with rfl | ⟨earlier, -⟩
      · exact ⟨store.nextTaskId, Nat.lt_succ_self _, rfl⟩
      · obtain ⟨number, less, same⟩ := keyed.named item earlier
        exact ⟨number, Nat.lt_succ_of_lt less, same⟩
  exact inserted.retain clock

/-! ### Records -/

/-- What an operation does to a record that it changes. -/
inductive Change : Action Value → String → TaskRecord Value → TaskRecord Value → Prop where
  | attached (taskId : String) (handle : Nat) (record : TaskRecord Value) :
      Change (.attachAbortHandle taskId handle) taskId record (record.attach handle)
  | sent (clock : Clock) (taskId : String) (upstream : TaskUpstreamRef)
      (record : TaskRecord Value) :
      Change (.setUpstreamRequest clock taskId upstream) taskId record (record.sent clock upstream)
  | sourced (taskId server ownTool : String) (record : TaskRecord Value) :
      Change (.recordSource taskId server ownTool) taskId record (record.sourced server ownTool)
  | completed (clock : Clock) (taskId : String) (result : Value) (record : TaskRecord Value)
      (runs : record.task.status.isTerminal = false) :
      Change (.complete clock taskId result) taskId record (record.complete clock result)
  | failed (clock : Clock) (taskId message : String) (record : TaskRecord Value)
      (runs : record.task.status.isTerminal = false) :
      Change (.fail clock taskId message) taskId record (record.settled clock .failed message)
  | cancelled (clock : Clock) (owner taskId : String) (record : TaskRecord Value)
      (own : record.owner = owner) (runs : record.task.status.isTerminal = false) :
      Change (.markCancelled clock owner taskId) taskId record (record.cancelled clock)
  | cached (clock : Clock) (owner taskId : String) (result : Value) (record : TaskRecord Value)
      (own : record.owner = owner) :
      Change (.cacheResult clock owner taskId result) taskId record (record.complete clock result)
  | synced (clock : Clock) (owner taskId : String) (upstreamTask : Task)
      (record : TaskRecord Value) (own : record.owner = owner)
      (agrees : record.task.status.isTerminal = true → record.task.status = upstreamTask.status) :
      Change (.syncFromUpstream clock owner taskId upstreamTask) taskId record
        (record.synced clock upstreamTask)
  | touched (action : Action Value) (clock : Clock) (taskId : String) (record : TaskRecord Value)
      (ended : record.task.status.isTerminal = true) :
      Change action taskId record (record.touched clock)

/-- Where a record that an operation leaves comes from. -/
inductive Fate (store : TaskStore Value) (action : Action Value) (taskId : String)
    (after : TaskRecord Value) : Prop where
  | kept (member : (taskId, after) ∈ store.tasks)
  | changed (record : TaskRecord Value) (member : (taskId, record) ∈ store.tasks)
      (change : Change action taskId record after)
  | created (clock : Clock) (owner name : String) (fresh : taskId = store.nextName)
      (accepted : store.isTombstoned owner = false) (own : after.owner = owner)
      (empty : after.result = none ∧ after.abortHandle = none)
      (made : (action = .create clock owner name ∧ after.task.status = .working) ∨
        ∃ upstreamTask upstream,
          action = .createPassthrough clock owner name upstreamTask upstream ∧
          after.task.status = upstreamTask.status)

theorem mem_prune {item : String × TaskRecord Value} :
    item ∈ (store.pruneExpired clock).tasks ↔
      item ∈ store.tasks ∧ item.2.expired clock.now = false := by
  simp [TaskStore.pruneExpired]

theorem mem_retain {item : String × TaskRecord Value} :
    item ∈ (store.enforceOwnerCompletedRetention clock).tasks ↔
      item ∈ store.tasks ∧ item.1 ∉ droppedOfOwner clock store.tasks item.2.owner := by
  simp [TaskStore.enforceOwnerCompletedRetention]

theorem mem_update {change : TaskRecord Value → TaskRecord Value}
    (member : (name, after) ∈ (store.update taskId change).tasks) :
    (name, after) ∈ store.tasks ∨
      ∃ record, name = taskId ∧ (taskId, record) ∈ store.tasks ∧ after = change record := by
  obtain ⟨record, present, same⟩ := Tables.mem_modify_iff.mp member
  dsimp only at present same
  split at same
  · rename_i target
    exact Or.inr ⟨record, target, target ▸ present, same⟩
  · exact Or.inl (same ▸ present)

theorem owned_ok {owner : String} (owned : store.owned owner taskId = .ok record) :
    Tables.get store.tasks taskId = some record ∧ record.owner = owner := by
  unfold TaskStore.owned at owned
  split at owned
  · cases owned
  · rename_i found present
    split at owned
    · rename_i own
      cases owned
      exact ⟨present, own⟩
    · cases owned

/-- A record that one operation changes is the one the table has under the name. -/
theorem Keyed.only (keyed : Keyed store) {other : TaskRecord Value}
    (found : Tables.get store.tasks taskId = some record) (member : (taskId, other) ∈ store.tasks) :
    other = record := by
  have present := Tables.get_of_mem keyed.distinct member
  rw [found] at present
  exact (Option.some.inj present).symm

theorem settle_fate {settle : TaskRecord Value → TaskRecord Value} (keyed : Keyed store)
    (settles : ∀ record : TaskRecord Value, record.task.status.isTerminal = false → Change action
      taskId record (settle record))
    (member : (name, after) ∈ (store.settle clock taskId settle).tasks) :
    Fate store action name after := by
  unfold TaskStore.settle at member
  split at member
  · rename_i record found
    split at member
    · rename_i ended
      rcases mem_update member with kept | ⟨other, rfl, present, rfl⟩
      · exact .kept kept
      · obtain rfl := keyed.only found present
        exact .changed other present (.touched action clock name other ended)
    · rename_i runs
      rcases mem_update (mem_retain.mp member).1 with kept | ⟨other, rfl, present, rfl⟩
      · exact .kept kept
      · obtain rfl := keyed.only found present
        exact .changed other present (settles other (Bool.eq_false_iff.mpr runs))
  · exact .kept (mem_retain.mp member).1

theorem insertRecord_fate (member : (name, after) ∈ (store.insertRecord clock record).tasks) :
    (name = store.nextName ∧ after = record) ∨ (name, after) ∈ store.tasks := by
  rcases Tables.mem_insert.mp (mem_retain.mp member).1 with same | ⟨earlier, -⟩
  · exact Or.inl (Prod.mk.inj same)
  · exact Or.inr earlier

theorem perform_keyed (keyed : Keyed store) (action : Action Value) :
    Keyed (perform store action) := by
  cases action with
  | create clock owner name =>
    dsimp only [perform, TaskStore.create]
    split
    · exact keyed
    · exact (keyed.prune clock).insertRecord clock _
  | createPassthrough clock owner name upstreamTask upstream =>
    dsimp only [perform, TaskStore.createPassthrough]
    split
    · exact keyed
    · exact (keyed.prune clock).insertRecord clock _
  | attachAbortHandle taskId handle => exact keyed.update taskId _
  | setUpstreamRequest clock taskId upstream =>
    dsimp only [perform, TaskStore.setUpstreamRequest]
    split
    · exact keyed.update taskId _
    · exact keyed
  | recordSource taskId server ownTool => exact keyed.update taskId _
  | complete clock taskId result => exact keyed.settle clock taskId _
  | fail clock taskId message => exact keyed.settle clock taskId _
  | markCancelled clock owner taskId =>
    dsimp only [perform, TaskStore.markCancelled]
    split
    · exact keyed.prune clock
    · split
      · exact (keyed.prune clock).update taskId _
      · exact ((keyed.prune clock).update taskId _).retain clock
  | cacheResult clock owner taskId result =>
    dsimp only [perform, TaskStore.cacheResultForOwner]
    split
    · exact keyed.prune clock
    · exact ((keyed.prune clock).update taskId _).retain clock
  | syncFromUpstream clock owner taskId upstreamTask =>
    dsimp only [perform, TaskStore.syncFromUpstreamForOwner]
    split
    · exact keyed.prune clock
    · split <;> exact (keyed.prune clock).update taskId _
  | cleanupOwner clock owner =>
    dsimp only [perform, TaskStore.cleanupOwner, TaskStore.tombstoneIfInFlight]
    split
    · exact keyed.filter rfl rfl
    · split <;> exact keyed.filter rfl rfl
  | read clock => exact keyed.prune clock
  | takeExpiredCleanup => exact ⟨keyed.distinct, keyed.named⟩
  | beginOwnerCreate owner => exact ⟨keyed.distinct, keyed.named⟩
  | endCreate owner =>
    dsimp only [perform, TaskStore.endCreate]
    split <;> exact ⟨keyed.distinct, keyed.named⟩

theorem tasks_tombstone (store : TaskStore Value) (owner : String) :
    (store.tombstoneIfInFlight owner).tasks = store.tasks := by
  unfold TaskStore.tombstoneIfInFlight
  split
  · rfl
  · split <;> rfl

theorem perform_fate (keyed : Keyed store) (member : (name, after) ∈ (perform store action).tasks) :
    Fate store action name after := by
  cases action with
  | create clock owner task =>
    dsimp only [perform, TaskStore.create] at member
    split at member
    · exact .kept member
    · rename_i accepted
      rcases insertRecord_fate member with ⟨fresh, rfl⟩ | earlier
      · exact .created clock owner task fresh (Bool.eq_false_iff.mpr accepted) rfl ⟨rfl, rfl⟩
          (Or.inl ⟨rfl, rfl⟩)
      · exact .kept (mem_prune.mp earlier).1
  | createPassthrough clock owner task upstreamTask upstream =>
    dsimp only [perform, TaskStore.createPassthrough] at member
    split at member
    · exact .kept member
    · rename_i accepted
      rcases insertRecord_fate member with ⟨fresh, rfl⟩ | earlier
      · exact .created clock owner task fresh (Bool.eq_false_iff.mpr accepted) rfl ⟨rfl, rfl⟩
          (Or.inr ⟨upstreamTask, upstream, rfl, rfl⟩)
      · exact .kept (mem_prune.mp earlier).1
  | attachAbortHandle taskId handle =>
    rcases mem_update member with kept | ⟨record, rfl, present, rfl⟩
    · exact .kept kept
    · exact .changed record present (.attached _ handle record)
  | setUpstreamRequest clock taskId upstream =>
    dsimp only [perform, TaskStore.setUpstreamRequest] at member
    split at member
    · rcases mem_update member with kept | ⟨record, rfl, present, rfl⟩
      · exact .kept kept
      · exact .changed record present (.sent clock _ upstream record)
    · exact .kept member
  | recordSource taskId server ownTool =>
    rcases mem_update member with kept | ⟨record, rfl, present, rfl⟩
    · exact .kept kept
    · exact .changed record present (.sourced _ server ownTool record)
  | complete clock taskId result =>
    exact settle_fate keyed (fun record runs => .completed clock taskId result record runs) member
  | fail clock taskId message =>
    exact settle_fate keyed (fun record runs => .failed clock taskId message record runs) member
  | markCancelled clock owner taskId =>
    dsimp only [perform, TaskStore.markCancelled] at member
    split at member
    · exact .kept (mem_prune.mp member).1
    · rename_i record owned
      obtain ⟨found, own⟩ := owned_ok owned
      split at member
      · rename_i ended
        rcases mem_update member with kept | ⟨other, rfl, present, rfl⟩
        · exact .kept (mem_prune.mp kept).1
        · obtain rfl := (keyed.prune clock).only found present
          exact .changed other (mem_prune.mp present).1 (.touched _ clock _ other ended)
      · rename_i runs
        rcases mem_update (mem_retain.mp member).1 with kept | ⟨other, rfl, present, rfl⟩
        · exact .kept (mem_prune.mp kept).1
        · obtain rfl := (keyed.prune clock).only found present
          exact .changed other (mem_prune.mp present).1
            (.cancelled clock owner _ other own (Bool.eq_false_iff.mpr runs))
  | cacheResult clock owner taskId result =>
    dsimp only [perform, TaskStore.cacheResultForOwner] at member
    split at member
    · exact .kept (mem_prune.mp member).1
    · rename_i record owned
      obtain ⟨found, own⟩ := owned_ok owned
      rcases mem_update (mem_retain.mp member).1 with kept | ⟨other, rfl, present, rfl⟩
      · exact .kept (mem_prune.mp kept).1
      · obtain rfl := (keyed.prune clock).only found present
        exact .changed other (mem_prune.mp present).1 (.cached clock owner _ result other own)
  | syncFromUpstream clock owner taskId upstreamTask =>
    dsimp only [perform, TaskStore.syncFromUpstreamForOwner] at member
    split at member
    · exact .kept (mem_prune.mp member).1
    · rename_i record owned
      obtain ⟨found, own⟩ := owned_ok owned
      split at member
      · rename_i refused
        rcases mem_update member with kept | ⟨other, rfl, present, rfl⟩
        · exact .kept (mem_prune.mp kept).1
        · obtain rfl := (keyed.prune clock).only found present
          exact .changed other (mem_prune.mp present).1 (.touched _ clock _ other refused.1)
      · rename_i agrees
        rcases mem_update member with kept | ⟨other, rfl, present, rfl⟩
        · exact .kept (mem_prune.mp kept).1
        · obtain rfl := (keyed.prune clock).only found present
          refine .changed other (mem_prune.mp present).1
            (.synced clock owner _ upstreamTask other own ?_)
          intro ended
          by_contra differs
          exact agrees ⟨ended, differs⟩
  | cleanupOwner clock owner =>
    dsimp only [perform, TaskStore.cleanupOwner] at member
    rw [tasks_tombstone] at member
    exact .kept (List.mem_filter.mp member).1
  | read clock => exact .kept (mem_prune.mp member).1
  | takeExpiredCleanup => exact .kept member
  | beginOwnerCreate owner => exact .kept member
  | endCreate owner =>
    dsimp only [perform, TaskStore.endCreate] at member
    split at member <;> exact .kept member

theorem Change.owner (change : Change action taskId record after) : after.owner = record.owner := by
  cases change <;> rfl

/-! ### The rest of the store -/

/-- The operation is on the ledger of creates in flight. -/
def Action.onLedger : Action Value → Bool
  | .cleanupOwner _ _ => true
  | .beginOwnerCreate _ => true
  | .endCreate _ => true
  | _ => false

structure Frame (store after : TaskStore Value) (action : Action Value) : Prop where
  nextTaskId : store.nextTaskId ≤ after.nextTaskId
  lifecycle : action.onLedger = false → after.lifecycle = store.lifecycle

theorem Frame.kept {after : TaskStore Value} (nextTaskId : after.nextTaskId = store.nextTaskId)
    (lifecycle : action.onLedger = false → after.lifecycle = store.lifecycle) :
    Frame store after action :=
  ⟨nextTaskId ▸ Nat.le_refl _, lifecycle⟩

theorem settle_frame {settle : TaskRecord Value → TaskRecord Value} :
    Frame store (store.settle clock taskId settle) action := by
  unfold TaskStore.settle
  split
  · split
    · exact .kept rfl fun _ => rfl
    · exact .kept rfl fun _ => rfl
  · exact .kept rfl fun _ => rfl

theorem perform_frame (store : TaskStore Value) (action : Action Value) :
    Frame store (perform store action) action := by
  cases action with
  | create clock owner name =>
    dsimp only [perform, TaskStore.create]
    split
    · exact .kept rfl fun _ => rfl
    · exact ⟨Nat.le_succ _, fun _ => rfl⟩
  | createPassthrough clock owner name upstreamTask upstream =>
    dsimp only [perform, TaskStore.createPassthrough]
    split
    · exact .kept rfl fun _ => rfl
    · exact ⟨Nat.le_succ _, fun _ => rfl⟩
  | setUpstreamRequest clock taskId upstream =>
    dsimp only [perform, TaskStore.setUpstreamRequest]
    split <;> exact .kept rfl fun _ => rfl
  | complete clock taskId result => exact settle_frame
  | fail clock taskId message => exact settle_frame
  | markCancelled clock owner taskId =>
    dsimp only [perform, TaskStore.markCancelled]
    split
    · exact .kept rfl fun _ => rfl
    · split <;> exact .kept rfl fun _ => rfl
  | cacheResult clock owner taskId result =>
    dsimp only [perform, TaskStore.cacheResultForOwner]
    split <;> exact .kept rfl fun _ => rfl
  | syncFromUpstream clock owner taskId upstreamTask =>
    dsimp only [perform, TaskStore.syncFromUpstreamForOwner]
    split
    · exact .kept rfl fun _ => rfl
    · split <;> exact .kept rfl fun _ => rfl
  | cleanupOwner clock owner =>
    refine .kept ?_ nofun
    dsimp only [perform, TaskStore.cleanupOwner, TaskStore.tombstoneIfInFlight]
    split
    · rfl
    · split <;> rfl
  | endCreate owner =>
    refine .kept ?_ nofun
    dsimp only [perform, TaskStore.endCreate]
    split <;> rfl
  | beginOwnerCreate owner => exact .kept rfl nofun
  | attachAbortHandle taskId handle => exact .kept rfl fun _ => rfl
  | recordSource taskId server ownTool => exact .kept rfl fun _ => rfl
  | read clock => exact .kept rfl fun _ => rfl
  | takeExpiredCleanup => exact .kept rfl fun _ => rfl

theorem new_keyed : Keyed (TaskStore.new : TaskStore Value) := by
  constructor
  · exact List.nodup_nil
  · intro item member
    cases member

end Plug.Tasks
