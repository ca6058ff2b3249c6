import Plug.TaskRecords

/-!
# What an owner can do to the tasks of others, and learn of them

The operations that clients ask for by the owner of their tasks. Besides the records of
its owner, an operation only removes records that have expired, and finished ones of an
owner who has more than are kept.
-/

namespace Plug.Tasks

variable {Value Object : Type}

inductive Request (Value : Type) where
  | list (cursor : Option String)
  | info (taskId : String)
  | modern (taskId : String)
  | validate (taskId : String)
  | upstream (taskId : String)
  | result (taskId : String)
  | cancelResult (taskId : String)
  | cancel (taskId : String)
  | sync (taskId : String) (upstreamTask : Task)
  | cacheResult (taskId : String) (value : Value)
  | cleanup

inductive Response (Value Object : Type) where
  | tasks (page : ListTasksResult)
  | task (found : Except McpError Task)
  | modern (found : Except McpError (Task × TaskPayload Object))
  | done (found : Except McpError Unit)
  | upstream (found : Except McpError (Option TaskUpstreamRef))
  | result (found : Except McpError Value)
  | cancelled (found : Except McpError (Task × Option TaskUpstreamRef × Option Nat))
  | drained (parts : List (Option TaskUpstreamRef × Option Nat))

def serve (asObject : Value → Option Object) (store : TaskStore Value) (clock : Clock)
    (owner : String) : Request Value → Response Value Object × TaskStore Value
  | .list cursor => (store.listForOwner clock owner cursor).map .tasks id
  | .info taskId => (store.getInfoForOwner clock owner taskId).map .task id
  | .modern taskId => (store.getModernForOwner clock owner taskId asObject).map .modern id
  | .validate taskId => (store.validateOwner clock owner taskId).map .done id
  | .upstream taskId => (store.upstreamForOwner clock owner taskId).map .upstream id
  | .result taskId => (store.getResultForOwner clock owner taskId).map .result id
  | .cancelResult taskId => (store.cancelResultForOwner clock owner taskId).map .task id
  | .cancel taskId => (store.markCancelled clock owner taskId).map .cancelled id
  | .sync taskId upstreamTask =>
    (store.syncFromUpstreamForOwner clock owner taskId upstreamTask).map .task id
  | .cacheResult taskId value => (store.cacheResultForOwner clock owner taskId value).map .done id
  | .cleanup => (store.cleanupOwner clock owner).map .drained id

/-- The task that a request names. -/
def Request.target : Request Value → Option String
  | .list _ => none
  | .info taskId => some taskId
  | .modern taskId => some taskId
  | .validate taskId => some taskId
  | .upstream taskId => some taskId
  | .result taskId => some taskId
  | .cancelResult taskId => some taskId
  | .cancel taskId => some taskId
  | .sync taskId _ => some taskId
  | .cacheResult taskId _ => some taskId
  | .cleanup => none

/-! ### Records of others -/

/-- What an owner has, in the order of the table. -/
def TaskStore.recordsOf (store : TaskStore Value) (owner : String) :
    List (String × TaskRecord Value) :=
  store.tasks.filter fun item => decide (item.2.owner = owner)

theorem recordsOf_prune (store : TaskStore Value) (clock : Clock) (owner : String) :
    (store.pruneExpired clock).recordsOf owner =
      (store.recordsOf owner).filter fun item => !item.2.expired clock.now := by
  unfold TaskStore.recordsOf TaskStore.pruneExpired
  rw [List.filter_comm]

variable {store : TaskStore Value} {taskId owner other : String} {clock : Clock}

/-- A change of a task of another owner. -/
theorem recordsOf_update {change : TaskRecord Value → TaskRecord Value}
    (foreign : ∀ record, (taskId, record) ∈ store.tasks → record.owner ≠ owner)
    (keeps : ∀ record, (change record).owner = record.owner) :
    (store.update taskId change).recordsOf owner = store.recordsOf owner := by
  unfold TaskStore.recordsOf TaskStore.update Tables.modify
  dsimp only
  rw [List.filter_map]
  have same : ((fun item : String × TaskRecord Value => decide (item.2.owner = owner)) ∘
      fun item => if item.1 = taskId then (item.1, change item.2) else item) =
        fun item => decide (item.2.owner = owner) := by
    funext item
    dsimp only [Function.comp_apply]
    split
    · rw [keeps]
    · rfl
  rw [same]
  refine (List.map_congr_left ?_).trans (List.map_id _)
  rintro ⟨name, record⟩ member
  obtain ⟨present, own⟩ := List.mem_filter.mp member
  refine if_neg ?_
  rintro rfl
  exact foreign record present (of_decide_eq_true own)

theorem droppedOfOwner_recordsOf (store : TaskStore Value) (clock : Clock) (owner : String) :
    droppedOfOwner clock (store.recordsOf owner) owner =
      droppedOfOwner clock store.tasks owner := by
  have same : (store.recordsOf owner).filter (fun item =>
      decide (item.2.owner = owner) && item.2.task.status.isTerminal) =
        store.tasks.filter fun item =>
          decide (item.2.owner = owner) && item.2.task.status.isTerminal := by
    unfold TaskStore.recordsOf
    rw [List.filter_filter]
    refine List.filter_congr ?_
    intro item _
    cases decide (item.2.owner = owner) <;> simp
  unfold droppedOfOwner completedByOwner
  rw [same]

theorem recordsOf_retain (store : TaskStore Value) (clock : Clock) (owner : String) :
    (store.enforceOwnerCompletedRetention clock).recordsOf owner =
      (store.recordsOf owner).filter fun item =>
        decide (item.1 ∉ droppedOfOwner clock (store.recordsOf owner) owner) := by
  rw [droppedOfOwner_recordsOf]
  unfold TaskStore.recordsOf TaskStore.enforceOwnerCompletedRetention
  dsimp only
  rw [List.filter_comm]
  refine List.filter_congr ?_
  intro item member
  rw [of_decide_eq_true (List.mem_filter.mp member).2]

/-- What an operation of another owner leaves of the records of an owner. -/
inductive Spared (clock : Clock) (other : String) (store after : TaskStore Value) : Prop where
  | kept (same : after.recordsOf other = store.recordsOf other)
  | pruned (same : after.recordsOf other = (store.pruneExpired clock).recordsOf other)
  | limited (same : after.recordsOf other =
      ((store.pruneExpired clock).enforceOwnerCompletedRetention clock).recordsOf other)

theorem owned_foreign (distinct : Tables.Distinct store.tasks) {record : TaskRecord Value}
    (owned : store.owned owner taskId = .ok record) (apart : other ≠ owner) :
    ∀ found, (taskId, found) ∈ store.tasks → found.owner ≠ other := by
  intro found member own
  obtain ⟨present, same⟩ := owned_ok owned
  rw [Tables.get_of_mem distinct member] at present
  cases present
  exact apart (own.symm.trans same)

theorem Spared.update {change : TaskRecord Value → TaskRecord Value}
    (foreign : ∀ found, (taskId, found) ∈ (store.pruneExpired clock).tasks → found.owner ≠ other)
    (keeps : ∀ record, (change record).owner = record.owner) :
    Spared clock other store ((store.pruneExpired clock).update taskId change) :=
  .pruned (recordsOf_update foreign keeps)

theorem Spared.retain {change : TaskRecord Value → TaskRecord Value}
    (foreign : ∀ found, (taskId, found) ∈ (store.pruneExpired clock).tasks → found.owner ≠ other)
    (keeps : ∀ record, (change record).owner = record.owner) :
    Spared clock other store
      (((store.pruneExpired clock).update taskId change).enforceOwnerCompletedRetention clock) := by
  apply Spared.limited
  rw [recordsOf_retain, recordsOf_retain, recordsOf_update foreign keeps]

theorem serve_spared {asObject : Value → Option Object} (distinct : Tables.Distinct store.tasks)
    (apart : other ≠ owner) (request : Request Value) :
    Spared clock other store (serve asObject store clock owner request).2 := by
  have pruned : Tables.Distinct (store.pruneExpired clock).tasks := distinct.filter _
  cases request with
  | cancel taskId =>
    dsimp only [serve, TaskStore.markCancelled, Prod.map]
    split
    · exact .pruned rfl
    · rename_i record owned
      have foreign := owned_foreign pruned owned apart
      split
      · exact .update foreign fun _ => rfl
      · exact .retain foreign fun _ => rfl
  | sync taskId upstreamTask =>
    dsimp only [serve, TaskStore.syncFromUpstreamForOwner, Prod.map]
    split
    · exact .pruned rfl
    · rename_i record owned
      have foreign := owned_foreign pruned owned apart
      split
      · exact .update foreign fun _ => rfl
      · exact .update foreign fun _ => rfl
  | cacheResult taskId value =>
    dsimp only [serve, TaskStore.cacheResultForOwner, Prod.map]
    split
    · exact .pruned rfl
    · rename_i record owned
      exact .retain (owned_foreign pruned owned apart) fun _ => rfl
  | cleanup =>
    refine .kept ?_
    dsimp only [serve, TaskStore.cleanupOwner, Prod.map, TaskStore.recordsOf, id]
    rw [tasks_tombstone, List.filter_filter]
    refine List.filter_congr ?_
    intro item _
    by_cases own : item.2.owner = other
    · simp [own, apart]
    · simp [own]
  | _ => exact .pruned rfl

/-- The finished tasks of an owner that have not expired. -/
def TaskStore.finishedOf (store : TaskStore Value) (clock : Clock) (owner : String) :
    List (String × TaskRecord Value) :=
  store.tasks.filter fun item =>
    decide (item.2.owner = owner) && item.2.task.status.isTerminal && !item.2.expired clock.now

theorem completedByOwner_perm (clock : Clock) (tasks : List (String × TaskRecord Value))
    (owner : String) : List.Perm (completedByOwner clock tasks owner)
      (tasks.filter fun item =>
        decide (item.2.owner = owner) && item.2.task.status.isTerminal) :=
  (List.perm_insertionSort _ _).trans (List.perm_insertionSort _ _)

theorem completedByOwner_prune (store : TaskStore Value) (clock : Clock) (owner : String) :
    List.Perm (completedByOwner clock (store.pruneExpired clock).tasks owner)
      (store.finishedOf clock owner) := by
  refine (completedByOwner_perm clock _ owner).trans ?_
  unfold TaskStore.pruneExpired TaskStore.finishedOf
  rw [List.filter_filter]

/-- Only finished tasks are dropped, of an owner who has more of them than are kept. -/
theorem dropped_finished (distinct : Tables.Distinct store.tasks) {record : TaskRecord Value}
    (member : (taskId, record) ∈ store.tasks)
    (dropped : taskId ∈ droppedOfOwner clock (store.pruneExpired clock).tasks record.owner) :
    record.task.status.isTerminal = true ∧
      defaultMaxCompletedTasksPerOwner < (store.finishedOf clock record.owner).length := by
  have perm := completedByOwner_prune store clock record.owner
  obtain ⟨⟨name, found⟩, taken, rfl⟩ := List.mem_map.mp dropped
  constructor
  · obtain ⟨present, finished⟩ := List.mem_filter.mp (perm.mem_iff.mp (List.mem_of_mem_take taken))
    have same : record = found := by
      have lookup := Tables.get_of_mem distinct member
      rw [Tables.get_of_mem distinct present] at lookup
      exact (Option.some.inj lookup).symm
    rw [same]
    simp only [Bool.and_eq_true] at finished
    exact finished.1.2
  · have positive : 0 < ((completedByOwner clock (store.pruneExpired clock).tasks
        record.owner).take _).length := List.length_pos_of_mem taken
    rw [List.length_take, perm.length_eq] at positive
    omega

/-! ### What an answer depends on -/

/-- The same record, or one of the owner under the same name. -/
def Counterpart (owner : String) (item counterpart : String × TaskRecord Value) : Prop :=
  item.1 = counterpart.1 ∧
    (item.2 = counterpart.2 ∨ (item.2.owner = owner ∧ counterpart.2.owner = owner))

/-- The stores differ in what they record of one owner's tasks only. -/
structure Alike (owner : String) (store other : TaskStore Value) : Prop where
  tasks : List.Forall₂ (Counterpart owner) store.tasks other.tasks
  nextTaskId : store.nextTaskId = other.nextTaskId
  lifecycle : store.lifecycle = other.lifecycle
  expiredCleanup : store.expiredCleanup = other.expiredCleanup

/-- The task has expired in both stores or in neither. -/
def sameExpiry (clock : Clock) (store other : TaskStore Value) (taskId : String) : Prop :=
  (Tables.get store.tasks taskId).map (fun record => record.expired clock.now) =
    (Tables.get other.tasks taskId).map (fun record => record.expired clock.now)

theorem filter_counterparts {table other : List (String × TaskRecord Value)}
    (alike : List.Forall₂ (Counterpart owner) table other) {keep : String × TaskRecord Value → Bool}
    (foreign : ∀ item, item.2.owner = owner → keep item = false) :
    table.filter keep = other.filter keep := by
  induction alike with
  | nil => rfl
  | @cons item counterpart items counterparts related rest ih =>
    obtain ⟨name, same | ⟨own, ownCounterpart⟩⟩ := related
    · obtain rfl : item = counterpart := Prod.ext name same
      rw [List.filter_cons, List.filter_cons, ih]
    · rw [List.filter_cons_of_neg (by simp [foreign item own]),
        List.filter_cons_of_neg (by simp [foreign counterpart ownCounterpart]),
        ih]

theorem get_counterparts {table other : List (String × TaskRecord Value)}
    (alike : List.Forall₂ (Counterpart owner) table other) (taskId : String) :
    Tables.get table taskId = Tables.get other taskId ∨
    ∃ record counterpart, Tables.get table taskId = some record ∧
      Tables.get other taskId = some counterpart ∧
      record.owner = owner ∧ counterpart.owner = owner := by
  induction alike with
  | nil => exact Or.inl rfl
  | @cons item counterpart items counterparts related rest ih =>
    obtain ⟨name, content⟩ := related
    by_cases found : item.1 = taskId
    · have foundCounterpart : counterpart.1 = taskId := name.symm.trans found
      rcases content with same | ⟨own, ownCounterpart⟩
      · simp [Tables.get, found, foundCounterpart, same]
      · refine Or.inr ⟨item.2, counterpart.2, ?_, ?_, own, ownCounterpart⟩
        · simp [Tables.get, found]
        · simp [Tables.get, foundCounterpart]
    · have missed : ¬ counterpart.1 = taskId := fun equal => found (name.trans equal)
      simpa [Tables.get, found, missed] using ih

/-- What is found of a task is what has not expired of it. -/
theorem get_prune (distinct : Tables.Distinct store.tasks) (clock : Clock) (taskId : String) :
    Tables.get (store.pruneExpired clock).tasks taskId =
      (Tables.get store.tasks taskId).filter fun record => !record.expired clock.now := by
  cases found : Tables.get store.tasks taskId with
  | none =>
    refine Tables.get_eq_none.mpr ?_
    intro record member
    exact Tables.get_eq_none.mp found record (mem_prune.mp member).1
  | some record =>
    have present := Tables.mem_of_get found
    cases expired : record.expired clock.now with
    | false =>
      rw [Option.filter_some_pos (by simp [expired])]
      exact Tables.get_of_mem (distinct.filter _) (mem_prune.mpr ⟨present, expired⟩)
    | true =>
      rw [Option.filter_some_neg (by simp [expired])]
      refine Tables.get_eq_none.mpr ?_
      intro other member
      obtain ⟨earlier, kept⟩ := mem_prune.mp member
      rw [Tables.get_of_mem distinct earlier] at found
      cases found
      rw [expired] at kept
      cases kept

theorem keys_counterparts {table other : List (String × TaskRecord Value)}
    (alike : List.Forall₂ (Counterpart owner) table other) :
    table.map Prod.fst = other.map Prod.fst := by
  induction alike with
  | nil => rfl
  | cons related rest ih =>
    rw [List.map_cons, List.map_cons, related.1, ih]

theorem owned_alike {reader : String} {other : TaskStore Value} (alike : Alike owner store other)
    (distinct : Tables.Distinct store.tasks) (apart : owner ≠ reader)
    (expiry : sameExpiry clock store other taskId) :
    (store.pruneExpired clock).owned reader taskId =
      (other.pruneExpired clock).owned reader taskId := by
  have distinctOther : Tables.Distinct other.tasks := by
    rw [Tables.Distinct, ← keys_counterparts alike.tasks]
    exact distinct
  unfold TaskStore.owned
  rw [get_prune distinct, get_prune distinctOther]
  rcases get_counterparts alike.tasks taskId with same | ⟨record, counterpart, found, foundOther,
    own, ownCounterpart⟩
  · rw [same]
  · have equal : record.expired clock.now = counterpart.expired clock.now := by
      simpa [sameExpiry, found, foundOther] using expiry
    rw [found, foundOther]
    cases expired : counterpart.expired clock.now with
    | true => simp [Option.filter, equal, expired]
    | false => simp [Option.filter, equal, expired, own, ownCounterpart, apart]

theorem serve_alike {asObject : Value → Option Object} {reader : String} {other : TaskStore Value}
    (alike : Alike owner store other) (distinct : Tables.Distinct store.tasks)
    (apart : owner ≠ reader) (request : Request Value)
    (expiry : ∀ taskId, request.target = some taskId → sameExpiry clock store other taskId) :
    (serve asObject store clock reader request).1 =
      (serve asObject other clock reader request).1 := by
  have owned : ∀ taskId, request.target = some taskId →
      (store.pruneExpired clock).owned reader taskId =
        (other.pruneExpired clock).owned reader taskId :=
    fun taskId target => owned_alike alike distinct apart (expiry taskId target)
  have foreign : ∀ item : String × TaskRecord Value, item.2.owner = owner →
      decide (item.2.owner = reader) = false := by
    intro item own
    rw [own]
    exact decide_eq_false apart
  cases request with
  | list cursor =>
    have same : (store.pruneExpired clock).tasks.filter (fun item =>
        decide (item.2.owner = reader)) = (other.pruneExpired clock).tasks.filter fun item =>
          decide (item.2.owner = reader) := by
      unfold TaskStore.pruneExpired
      dsimp only
      rw [List.filter_filter, List.filter_filter]
      refine filter_counterparts alike.tasks ?_
      intro item own
      rw [foreign item own, Bool.false_and]
    dsimp only [serve, TaskStore.listForOwner, Prod.map]
    rw [same]
  | cleanup =>
    dsimp only [serve, TaskStore.cleanupOwner, Prod.map]
    rw [tasks_tombstone, tasks_tombstone, filter_counterparts alike.tasks foreign]
  | cancel taskId =>
    dsimp only [serve, TaskStore.markCancelled, Prod.map]
    rw [owned taskId rfl]
    split
    · rfl
    · split <;> rfl
  | sync taskId upstreamTask =>
    dsimp only [serve, TaskStore.syncFromUpstreamForOwner, Prod.map]
    rw [owned taskId rfl]
    split
    · rfl
    · split <;> rfl
  | cacheResult taskId value =>
    dsimp only [serve, TaskStore.cacheResultForOwner, Prod.map]
    rw [owned taskId rfl]
    split <;> rfl
  | info taskId =>
    dsimp only [serve, TaskStore.getInfoForOwner, TaskStore.readForOwner, Prod.map]
    rw [owned taskId rfl]
  | modern taskId =>
    dsimp only [serve, TaskStore.getModernForOwner, TaskStore.readForOwner, Prod.map]
    rw [owned taskId rfl]
  | validate taskId =>
    dsimp only [serve, TaskStore.validateOwner, TaskStore.readForOwner, Prod.map]
    rw [owned taskId rfl]
  | upstream taskId =>
    dsimp only [serve, TaskStore.upstreamForOwner, TaskStore.readForOwner, Prod.map]
    rw [owned taskId rfl]
  | result taskId =>
    dsimp only [serve, TaskStore.getResultForOwner, TaskStore.readForOwner, Prod.map]
    rw [owned taskId rfl]
  | cancelResult taskId =>
    dsimp only [serve, TaskStore.cancelResultForOwner, TaskStore.readForOwner, Prod.map]
    rw [owned taskId rfl]

theorem mem_recordsOf {record : TaskRecord Value} :
    (taskId, record) ∈ store.tasks ↔ (taskId, record) ∈ store.recordsOf record.owner := by
  simp [TaskStore.recordsOf]

/-- An operation for one owner leaves the records of another as they are, except that it
removes those that have expired, and finished ones when there are more than are kept. What it
answers does not depend on what is recorded of the other's tasks, but for whether a task that
it names has expired. -/
theorem owners_isolated (asObject : Value → Option Object) (store : TaskStore Value)
    (distinct : Tables.Distinct store.tasks) (clock : Clock) (owner reader : String)
    (apart : owner ≠ reader) (request : Request Value) :
    (∀ taskId record, record.owner = owner →
      ((taskId, record) ∈ (serve asObject store clock reader request).2.tasks →
        (taskId, record) ∈ store.tasks) ∧
      ((taskId, record) ∈ store.tasks →
        (taskId, record) ∈ (serve asObject store clock reader request).2.tasks ∨
        record.expired clock.now = true ∨
        (record.task.status.isTerminal = true ∧
          defaultMaxCompletedTasksPerOwner < (store.finishedOf clock owner).length))) ∧
    ∀ other, Alike owner store other →
      (∀ taskId, request.target = some taskId → sameExpiry clock store other taskId) →
      (serve asObject store clock reader request).1 =
        (serve asObject other clock reader request).1 := by
  constructor
  · rintro taskId record rfl
    have spared : Spared clock record.owner store
        (serve asObject store clock reader request).2 := serve_spared distinct apart request
    constructor
    · intro member
      rw [mem_recordsOf] at member ⊢
      cases spared with
      | kept same => exact same ▸ member
      | pruned same =>
        rw [same, recordsOf_prune] at member
        exact (List.mem_filter.mp member).1
      | limited same =>
        rw [same, recordsOf_retain, recordsOf_prune] at member
        exact (List.mem_filter.mp (List.mem_filter.mp member).1).1
    · intro member
      cases expired : record.expired clock.now with
      | true => exact Or.inr (Or.inl rfl)
      | false =>
        have pruned := mem_recordsOf.mp (mem_prune.mpr ⟨member, expired⟩)
        cases spared with
        | kept same => exact Or.inl (mem_recordsOf.mpr (same ▸ mem_recordsOf.mp member))
        | pruned same => exact Or.inl (mem_recordsOf.mpr (same ▸ pruned))
        | limited same =>
          by_cases dropped : taskId ∈
              droppedOfOwner clock (store.pruneExpired clock).tasks record.owner
          · exact Or.inr (Or.inr (dropped_finished distinct member dropped))
          · refine Or.inl (mem_recordsOf.mpr ?_)
            rw [same, ← mem_recordsOf]
            exact mem_retain.mpr ⟨mem_prune.mpr ⟨member, expired⟩, dropped⟩
  · intro other alike expiry
    exact serve_alike alike distinct apart request expiry

def sampleRecord (owner taskId : String) (status : TaskStatus) (lastTouched : Nat) :
    TaskRecord Nat := {
  task := {
    taskId := taskId
    status := status
    statusMessage := none
    createdAt := "then"
    lastUpdatedAt := "then"
    ttl := none
    pollInterval := none }
  owner := owner
  source := ⟨"tool", none⟩
  result := none
  abortHandle := none
  upstream := some (.task "server" taskId)
  lastTouched := lastTouched
  pendingCancelReason := none }

def sampleStore (tasks : List (String × TaskRecord Nat)) : TaskStore Nat where
  tasks := tasks
  nextTaskId := tasks.length
  lifecycle := []
  expiredCleanup := []

/-- The time at which a finished task last touched at the start expires. -/
def expiryTime : Clock := ⟨defaultTaskTtlMs, "now", fun _ => 0⟩

/-- A task of the reader, and one of another owner. -/
def shared (status : TaskStatus) (lastTouched : Nat) : TaskStore Nat :=
  sampleStore [("task_0", sampleRecord "reader" "task_0" .working 1),
    ("task_1", sampleRecord "owner" "task_1" status lastTouched)]

def noObject : Nat → Option Unit := fun _ => none

theorem shared_distinct (status : TaskStatus) (lastTouched : Nat) :
    Tables.Distinct (shared status lastTouched).tasks := by
  simp [Tables.Distinct, shared, sampleStore]

theorem shared_alike (status other : TaskStatus) (lastTouched otherTouched : Nat) :
    Alike "owner" (shared status lastTouched) (shared other otherTouched) := by
  refine ⟨?_, rfl, rfl, rfl⟩
  exact .cons ⟨rfl, Or.inl rfl⟩ (.cons ⟨rfl, Or.inr ⟨rfl, rfl⟩⟩ .nil)

/-- The reader lists its tasks while the other owner's task fails. -/
theorem owners_isolated_list : "owner" ≠ "reader" ∧
    (serve noObject (shared .working 1) expiryTime "reader" (.list none)).1 =
      (serve noObject (shared .failed 7) expiryTime "reader" (.list none)).1 := by
  have isolated := owners_isolated noObject (shared .working 1) (shared_distinct _ _) expiryTime
    "owner" "reader" (by decide) (.list none)
  exact ⟨by decide, isolated.2 _ (shared_alike _ _ _ _) nofun⟩

/-- An owner with one finished task more than are kept. The limit is not applied when a
status comes from upstream. -/
def crowded : TaskStore Nat :=
  sampleStore (("task_0", sampleRecord "reader" "task_0" .working 1) ::
    (List.range 101).map fun index =>
      ("task_" ++ toString (index + 1),
        sampleRecord "owner" ("task_" ++ toString (index + 1)) .completed 1))

/-- Another's cancellation makes room among the finished tasks of an owner, and whether a task
of another has expired shows in the error. -/
theorem isolation_has_limits :
    (("task_1", sampleRecord "owner" "task_1" .completed 1) ∈ crowded.tasks ∧
      (sampleRecord "owner" "task_1" .completed 1).expired expiryTime.now = false ∧
      ("task_1", sampleRecord "owner" "task_1" .completed 1) ∉
        (serve noObject crowded expiryTime "reader" (.cancel "task_0")).2.tasks) ∧
    Alike "owner" (shared .completed 0) (shared .completed 1) ∧
    (serve noObject (shared .completed 0) expiryTime "reader" (.info "task_1")).1 =
      .task (.error (taskNotFound "task_1")) ∧
    (serve noObject (shared .completed 1) expiryTime "reader" (.info "task_1")).1 =
      .task (.error notTheOwner) ∧
    notTheOwner ≠ taskNotFound "task_1" := by
  refine ⟨by decide +kernel, shared_alike _ _ _ _, rfl, rfl, by decide⟩

end Plug.Tasks
