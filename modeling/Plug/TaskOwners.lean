import Plug.TaskRecords

/-!
# Tasks and the session that owns them

`enqueue_tool_task` holds a guard while it creates a task: it is counted in the ledger,
then asks whether its owner's session is there, and creates the record later. A session
that ends is removed first, and its tasks are cleaned up after that. Enqueues and teardowns
of any owners run interleaved, with everything else that is done to the store.
-/

namespace Plug.Tasks

variable {Value : Type}

/-- Where an enqueue is in the code. -/
inductive EnqueuePhase where
  | guarded
  | probed
  | finished
deriving DecidableEq

/-- An enqueue whose guard is held. -/
structure Enqueue where
  owner : String
  phase : EnqueuePhase
deriving DecidableEq

structure Owners (Value : Type) where
  store : TaskStore Value
  /-- The owners whose session is there. -/
  sessions : List String
  removed : List String
  /-- The owners whose teardown is over. -/
  cleaned : List String
  enqueues : List Enqueue

def Owners.new : Owners Value where
  store := TaskStore.new
  sessions := []
  removed := []
  cleaned := []
  enqueues := []

/-- What an enqueue asks the store to create. -/
inductive Creation where
  | spawned (name : String)
  | passthrough (name : String) (upstreamTask : Task) (upstream : TaskUpstreamRef)

def Creation.action (clock : Clock) (owner : String) : Creation → Action Value
  | .spawned name => .create clock owner name
  | .passthrough name upstreamTask upstream =>
    .createPassthrough clock owner name upstreamTask upstream

/-- Done by an enqueue with its guard, and by nothing else. -/
def Action.ofEnqueue : Action Value → Bool
  | .create _ _ _ => true
  | .createPassthrough _ _ _ _ _ => true
  | .beginOwnerCreate _ => true
  | .endCreate _ => true
  | _ => false

inductive OwnerEvent (Value : Type) where
  | openSession (owner : String)
  | removeSession (owner : String)
  | cleanup (clock : Clock) (owner : String)
  | begin (owner : String)
  | probe (index : Nat)
  | create (index : Nat) (clock : Clock) (creation : Creation)
  /-- The guard is dropped, wherever the enqueue is. -/
  | drop (index : Nat)
  /-- Another operation on the store. -/
  | operate (action : Action Value)

def advance (state : Owners Value) : OwnerEvent Value → Option (Owners Value)
  | .openSession owner => some { state with sessions := owner :: state.sessions }
  | .removeSession owner =>
    if owner ∈ state.sessions then
      some { state with
        sessions := state.sessions.filter fun other => other ≠ owner
        removed := owner :: state.removed }
    else none
  | .cleanup clock owner =>
    if owner ∈ state.removed then
      some { state with
        store := perform state.store (.cleanupOwner clock owner)
        cleaned := owner :: state.cleaned }
    else none
  | .begin owner =>
    some { state with
      store := state.store.beginOwnerCreate owner
      enqueues := state.enqueues ++ [⟨owner, .guarded⟩] }
  | .probe index =>
    match state.enqueues[index]? with
    | some ⟨owner, .guarded⟩ =>
      let phase : EnqueuePhase := if owner ∈ state.sessions then .probed else .finished
      some { state with enqueues := state.enqueues.set index ⟨owner, phase⟩ }
    | _ => none
  | .create index clock creation =>
    match state.enqueues[index]? with
    | some ⟨owner, .probed⟩ =>
      some { state with
        store := perform state.store (creation.action clock owner)
        enqueues := state.enqueues.set index ⟨owner, .finished⟩ }
    | _ => none
  | .drop index =>
    match state.enqueues[index]? with
    | some enqueue =>
      some { state with
        store := state.store.endCreate enqueue.owner
        enqueues := state.enqueues.eraseIdx index }
    | none => none
  | .operate action =>
    if action.ofEnqueue then none else some { state with store := perform state.store action }

/-- The guards held for an owner. -/
def Owners.guards (state : Owners Value) (owner : String) : Nat :=
  state.enqueues.countP fun enqueue => decide (enqueue.owner = owner)

/-! ### The ledger -/

def TaskStore.inFlight (store : TaskStore Value) (owner : String) : Option Nat :=
  (Tables.get store.lifecycle owner).map OwnerLifecycleState.inFlightCreates

theorem inFlight_begin (store : TaskStore Value) (owner other : String) :
    (store.beginOwnerCreate owner).inFlight other =
      if other = owner then some ((store.inFlight owner).getD 0 + 1) else store.inFlight other := by
  unfold TaskStore.inFlight TaskStore.beginOwnerCreate
  by_cases same : other = owner
  · subst same
    cases Tables.get store.lifecycle other <;> simp
  · simp [Tables.get_insert_of_ne same, same]

theorem inFlight_end (store : TaskStore Value) (owner other : String) :
    (store.endCreate owner).inFlight other =
      if other = owner then
        (store.inFlight owner).bind fun count => if count - 1 = 0 then none else some (count - 1)
      else store.inFlight other := by
  unfold TaskStore.inFlight TaskStore.endCreate
  cases found : Tables.get store.lifecycle owner with
  | none =>
    by_cases same : other = owner
    · subst same
      simp [found]
    · simp [same]
  | some state =>
    by_cases last : state.inFlightCreates - 1 = 0
    · by_cases same : other = owner
      · subst same
        simp [last]
      · simp [last, same, Tables.get_remove_of_ne same]
    · by_cases same : other = owner
      · subst same
        simp [last]
      · simp [last, same, Tables.get_insert_of_ne same]

theorem inFlight_tombstone (store : TaskStore Value) (owner other : String) :
    (store.tombstoneIfInFlight owner).inFlight other = store.inFlight other := by
  unfold TaskStore.inFlight TaskStore.tombstoneIfInFlight
  split
  · rfl
  · rename_i state found
    split
    · by_cases same : other = owner
      · subst same
        simp [found]
      · simp [Tables.get_insert_of_ne same]
    · rfl

theorem isTombstoned_begin (store : TaskStore Value) (owner other : String) :
    (store.beginOwnerCreate owner).isTombstoned other = store.isTombstoned other := by
  unfold TaskStore.isTombstoned TaskStore.beginOwnerCreate
  by_cases same : other = owner
  · subst same
    cases Tables.get store.lifecycle other <;> simp
  · simp [Tables.get_insert_of_ne same]

/-- A tombstone stays while creates are in flight. -/
theorem isTombstoned_end {store : TaskStore Value} {owner other : String}
    (tombstoned : store.isTombstoned other = true)
    (remains : (store.endCreate owner).inFlight other ≠ none) :
    (store.endCreate owner).isTombstoned other = true := by
  unfold TaskStore.isTombstoned TaskStore.inFlight TaskStore.endCreate at *
  cases found : Tables.get store.lifecycle owner with
  | none => simpa [found] using tombstoned
  | some state =>
    by_cases last : state.inFlightCreates - 1 = 0
    · by_cases same : other = owner
      · subst same
        simp [found, last] at remains
      · simpa [last, Tables.get_remove_of_ne same] using tombstoned
    · by_cases same : other = owner
      · subst same
        simpa [found, last] using tombstoned
      · simpa [last, Tables.get_insert_of_ne same] using tombstoned

theorem isTombstoned_tombstone (store : TaskStore Value) (owner other : String) :
    (store.tombstoneIfInFlight owner).isTombstoned other =
      (store.isTombstoned other ||
        (decide (other = owner) &&
          (store.inFlight owner).any fun count => decide (0 < count))) := by
  unfold TaskStore.isTombstoned TaskStore.tombstoneIfInFlight TaskStore.inFlight
  by_cases same : other = owner
  · subst same
    cases found : Tables.get store.lifecycle other with
    | none => simp [found]
    | some state =>
      by_cases positive : 0 < state.inFlightCreates
      · simp [positive]
      · simp [positive, found]
  · cases found : Tables.get store.lifecycle owner with
    | none => simp [same]
    | some state =>
      by_cases positive : 0 < state.inFlightCreates
      · simp [positive, same, Tables.get_insert_of_ne same]
      · simp [positive, same]

/-- What another operation does to the ledger. -/
theorem perform_ledger {store : TaskStore Value} {action : Action Value}
    (other : action.ofEnqueue = false) (owner : String) :
    (perform store action).inFlight owner = store.inFlight owner ∧
    (store.isTombstoned owner = true → (perform store action).isTombstoned owner = true) := by
  cases ledger : action.onLedger with
  | false =>
    have same := (perform_frame store action).lifecycle ledger
    unfold TaskStore.inFlight TaskStore.isTombstoned
    rw [same]
    exact ⟨rfl, id⟩
  | true =>
    cases action with
    | cleanupOwner clock torn =>
      refine ⟨inFlight_tombstone store torn owner, ?_⟩
      intro tombstoned
      have kept := isTombstoned_tombstone store torn owner
      rw [tombstoned, Bool.true_or] at kept
      exact kept
    | beginOwnerCreate owner => cases other
    | endCreate owner => cases other
    | _ => cases ledger

/-! ### Steps -/

/-- What a step does, where it can be taken. -/
inductive Moved (state : Owners Value) : OwnerEvent Value → Owners Value → Prop where
  | opened (owner : String) :
      Moved state (.openSession owner) { state with sessions := owner :: state.sessions }
  | ended (owner : String) :
      Moved state (.removeSession owner) { state with
        sessions := state.sessions.filter fun other => other ≠ owner
        removed := owner :: state.removed }
  | cleaned (clock : Clock) (owner : String) (removed : owner ∈ state.removed) :
      Moved state (.cleanup clock owner) { state with
        store := perform state.store (.cleanupOwner clock owner)
        cleaned := owner :: state.cleaned }
  | begun (owner : String) :
      Moved state (.begin owner) { state with
        store := state.store.beginOwnerCreate owner
        enqueues := state.enqueues ++ [⟨owner, .guarded⟩] }
  | probed (index : Nat) (owner : String) (phase : EnqueuePhase)
      (found : state.enqueues[index]? = some ⟨owner, .guarded⟩)
      (live : phase = .probed → owner ∈ state.sessions) :
      Moved state (.probe index) { state with enqueues := state.enqueues.set index ⟨owner, phase⟩ }
  | created (index : Nat) (clock : Clock) (creation : Creation) (owner : String)
      (found : state.enqueues[index]? = some ⟨owner, .probed⟩) :
      Moved state (.create index clock creation) { state with
        store := perform state.store (creation.action clock owner)
        enqueues := state.enqueues.set index ⟨owner, .finished⟩ }
  | dropped (index : Nat) (enqueue : Enqueue) (found : state.enqueues[index]? = some enqueue) :
      Moved state (.drop index) { state with
        store := state.store.endCreate enqueue.owner
        enqueues := state.enqueues.eraseIdx index }
  | operated (action : Action Value) (other : action.ofEnqueue = false) :
      Moved state (.operate action) { state with store := perform state.store action }

theorem advance_moved {state next : Owners Value} {event : OwnerEvent Value}
    (stepped : advance state event = some next) : Moved state event next := by
  cases event with
  | openSession owner =>
    cases stepped
    exact .opened owner
  | removeSession owner =>
    simp only [advance] at stepped
    split at stepped
    · cases stepped
      exact .ended owner
    · cases stepped
  | cleanup clock owner =>
    simp only [advance] at stepped
    split at stepped
    · rename_i removed
      cases stepped
      exact .cleaned clock owner removed
    · cases stepped
  | begin owner =>
    cases stepped
    exact .begun owner
  | probe index =>
    simp only [advance] at stepped
    split at stepped
    · rename_i owner found
      cases stepped
      refine .probed index owner _ found ?_
      intro probed
      by_contra gone
      rw [if_neg gone] at probed
      cases probed
    · cases stepped
  | create index clock creation =>
    simp only [advance] at stepped
    split at stepped
    · rename_i owner found
      cases stepped
      exact .created index clock creation owner found
    · cases stepped
  | drop index =>
    simp only [advance] at stepped
    split at stepped
    · rename_i enqueue found
      cases stepped
      exact .dropped index enqueue found
    · cases stepped
  | operate action =>
    simp only [advance] at stepped
    split at stepped
    · cases stepped
    · rename_i other
      cases stepped
      exact .operated action (Bool.eq_false_iff.mpr other)

/-! ### Guards -/

/-- The ledger counts the guards of every owner, and has no entry without one. -/
def Counted (state : Owners Value) : Prop :=
  ∀ owner, state.store.inFlight owner =
    if state.guards owner = 0 then none else some (state.guards owner)

theorem lifecycle_creation (store : TaskStore Value) (clock : Clock) (owner : String)
    (creation : Creation) :
    (perform store (creation.action clock owner)).lifecycle = store.lifecycle := by
  cases creation with
  | spawned name => exact (perform_frame store _).lifecycle rfl
  | passthrough name upstreamTask upstream => exact (perform_frame store _).lifecycle rfl

/-- An enqueue that goes on holds its guard. -/
theorem guards_set {state : Owners Value} {store : TaskStore Value} {index : Nat} {owner : String}
    {former phase : EnqueuePhase} (found : state.enqueues[index]? = some ⟨owner, former⟩)
    (other : String) :
    Owners.guards { state with
      store := store
      enqueues := state.enqueues.set index ⟨owner, phase⟩ } other = state.guards other :=
  Runs.countP_set_same found rfl

theorem Moved.counted {state next : Owners Value} {event : OwnerEvent Value}
    (moved : Moved state event next) (counted : Counted state) : Counted next := by
  intro owner
  have before := counted owner
  cases moved with
  | opened opened => exact before
  | ended ended => exact before
  | cleaned clock torn removed => exact (perform_ledger rfl owner).1.trans before
  | operated action other => exact (perform_ledger other owner).1.trans before
  | probed index asked phase found live =>
    rw [guards_set found]
    exact before
  | created index clock creation creator found =>
    rw [guards_set found]
    dsimp only [TaskStore.inFlight]
    rw [lifecycle_creation]
    exact before
  | begun started =>
    have more : Owners.guards { state with
        store := state.store.beginOwnerCreate started
        enqueues := state.enqueues ++ [⟨started, .guarded⟩] } owner =
          state.guards owner + if started = owner then 1 else 0 := by
      simp [Owners.guards, List.countP_cons]
    rw [more]
    dsimp only
    rw [inFlight_begin]
    by_cases same : owner = started
    · subst same
      rw [before]
      by_cases zero : state.guards owner = 0
      · simp [zero]
      · simp [zero]
    · have apart : ¬ started = owner := fun equal => same equal.symm
      simpa [same, apart] using before
  | dropped index enqueue found =>
    have fewer : Owners.guards { state with
        store := state.store.endCreate enqueue.owner
        enqueues := state.enqueues.eraseIdx index } owner +
          (if enqueue.owner = owner then 1 else 0) = state.guards owner := by
      simp [Owners.guards, ← (Runs.eraseIdx_perm found).countP_eq, List.countP_cons]
    generalize Owners.guards _ owner = left at fewer ⊢
    dsimp only
    rw [inFlight_end]
    by_cases same : owner = enqueue.owner
    · have count : state.guards owner = left + 1 := by
        rw [← fewer, if_pos same.symm]
      simp [← same, before, count]
    · have apart : ¬ enqueue.owner = owner := fun equal => same equal.symm
      rw [if_neg apart, Nat.add_zero] at fewer
      rw [if_neg same, before, fewer]

theorem Counted.in_flight {state : Owners Value} (counted : Counted state) {enqueue : Enqueue}
    (member : enqueue ∈ state.enqueues) :
    0 < state.guards enqueue.owner ∧
      state.store.inFlight enqueue.owner = some (state.guards enqueue.owner) := by
  have positive : 0 < state.guards enqueue.owner :=
    List.countP_pos_iff.mpr ⟨enqueue, member, decide_eq_true rfl⟩
  refine ⟨positive, ?_⟩
  rw [counted enqueue.owner, if_neg (Nat.ne_of_gt positive)]

/-! ### Teardown -/

/-- The session of the owner is there again after it was removed. -/
def reopens (owner : String) (state : Owners Value) : OwnerEvent Value → Bool
  | .openSession opened => decide (opened = owner) && decide (owner ∈ state.removed)
  | _ => false

/-- What holds of an owner whose name is not used again. A create that is in flight after the
cleanup, and that saw the session, meets the tombstone. -/
structure Torn (owner : String) (state : Owners Value) : Prop where
  keyed : Keyed state.store
  counted : Counted state
  gone : owner ∈ state.removed → owner ∉ state.sessions
  removed : owner ∈ state.cleaned → owner ∈ state.removed
  tombstoned : owner ∈ state.cleaned → ⟨owner, .probed⟩ ∈ state.enqueues →
    state.store.isTombstoned owner = true
  unrecorded : owner ∈ state.cleaned → ∀ item ∈ state.store.tasks, item.2.owner ≠ owner

/-- The owner for which a task is created. -/
def Action.creator : Action Value → Option String
  | .create _ owner _ => some owner
  | .createPassthrough _ owner _ _ _ => some owner
  | _ => none

theorem perform_unrecorded {store : TaskStore Value} (keyed : Keyed store) {action : Action Value}
    {owner : String} (unrecorded : ∀ item ∈ store.tasks, item.2.owner ≠ owner)
    (refused : action.creator = some owner → store.isTombstoned owner = true) :
    ∀ item ∈ (perform store action).tasks, item.2.owner ≠ owner := by
  rintro ⟨taskId, after⟩ member own
  cases perform_fate keyed member with
  | kept present => exact unrecorded _ present own
  | changed record present change => exact unrecorded _ present (change.owner.symm.trans own)
  | created clock creator name fresh accepted same empty made =>
    obtain rfl : creator = owner := same.symm.trans own
    have creates : action.creator = some creator := by
      rcases made with ⟨rfl, -⟩ | ⟨upstreamTask, upstream, rfl, -⟩
      · rfl
      · rfl
    rw [refused creates] at accepted
    cases accepted

theorem perform_cleanup (store : TaskStore Value) (clock : Clock) (owner : String) :
    ∀ item ∈ (perform store (.cleanupOwner clock owner)).tasks, item.2.owner ≠ owner := by
  intro item member
  simpa using (List.mem_filter.mp member).2

theorem creator_creation (clock : Clock) (owner : String) (creation : Creation) :
    (creation.action clock owner : Action Value).creator = some owner := by
  cases creation <;> rfl

theorem creator_other {action : Action Value} (other : action.ofEnqueue = false) :
    action.creator = none := by
  cases action with
  | create clock owner name => cases other
  | createPassthrough clock owner name upstreamTask upstream => cases other
  | _ => rfl

theorem Moved.torn {state next : Owners Value} {event : OwnerEvent Value} {owner : String}
    (moved : Moved state event next) (fresh : reopens owner state event = false)
    (torn : Torn owner state) : Torn owner next := by
  have counted := moved.counted torn.counted
  cases moved with
  | opened opened =>
    refine ⟨torn.keyed, counted, ?_, torn.removed, torn.tombstoned, torn.unrecorded⟩
    intro removed
    have apart : owner ≠ opened := by
      rintro rfl
      simp [reopens, removed] at fresh
    simpa [apart] using torn.gone removed
  | ended ended =>
    refine ⟨torn.keyed, counted, ?_, ?_, torn.tombstoned, torn.unrecorded⟩
    · intro removed member
      obtain ⟨present, apart⟩ := List.mem_filter.mp member
      rcases List.mem_cons.mp removed with rfl | earlier
      · simp at apart
      · exact torn.gone earlier present
    · intro cleaned
      exact List.mem_cons_of_mem ended (torn.removed cleaned)
  | cleaned clock target removed =>
    refine ⟨perform_keyed torn.keyed (.cleanupOwner clock target), counted, torn.gone,
      ?_, ?_, ?_⟩
    · intro cleaned
      rcases List.mem_cons.mp cleaned with rfl | earlier
      · exact removed
      · exact torn.removed earlier
    · intro cleaned member
      rcases List.mem_cons.mp cleaned with rfl | earlier
      · obtain ⟨positive, entry⟩ := torn.counted.in_flight member
        have set := isTombstoned_tombstone state.store owner owner
        rw [entry] at set
        exact set.trans (by simp [positive])
      · exact (perform_ledger rfl owner).2 (torn.tombstoned earlier member)
    · intro cleaned
      rcases List.mem_cons.mp cleaned with rfl | earlier
      · exact perform_cleanup state.store clock owner
      · exact perform_unrecorded torn.keyed (torn.unrecorded earlier) nofun
  | begun started =>
    refine ⟨perform_keyed torn.keyed (.beginOwnerCreate started), counted, torn.gone,
      torn.removed, ?_, torn.unrecorded⟩
    intro cleaned member
    have earlier : ⟨owner, .probed⟩ ∈ state.enqueues := by simpa using member
    exact (isTombstoned_begin state.store started owner).trans (torn.tombstoned cleaned earlier)
  | probed index asked phase found live =>
    refine ⟨torn.keyed, counted, torn.gone, torn.removed, ?_, torn.unrecorded⟩
    intro cleaned member
    cases List.mem_or_eq_of_mem_set member with
    | inl earlier => exact torn.tombstoned cleaned earlier
    | inr same =>
      obtain ⟨rfl, rfl⟩ := Enqueue.mk.inj same
      exact absurd (live rfl) (torn.gone (torn.removed cleaned))
  | created index clock creation creator found =>
    have tombstoned : owner ∈ state.cleaned → ⟨owner, .probed⟩ ∈ state.enqueues →
        (perform state.store (creation.action clock creator)).isTombstoned owner = true := by
      intro cleaned member
      unfold TaskStore.isTombstoned
      rw [lifecycle_creation]
      exact torn.tombstoned cleaned member
    refine ⟨perform_keyed torn.keyed (creation.action clock creator), counted, torn.gone,
      torn.removed, ?_, ?_⟩
    · intro cleaned member
      cases List.mem_or_eq_of_mem_set member with
      | inl earlier => exact tombstoned cleaned earlier
      | inr same =>
        cases same
    · intro cleaned
      refine perform_unrecorded torn.keyed (torn.unrecorded cleaned) ?_
      intro creates
      rw [creator_creation] at creates
      cases creates
      exact torn.tombstoned cleaned (List.mem_of_getElem? found)
  | dropped index enqueue found =>
    refine ⟨perform_keyed torn.keyed (.endCreate enqueue.owner), counted, torn.gone,
      torn.removed, ?_, ?_⟩
    · intro cleaned member
      apply isTombstoned_end (torn.tombstoned cleaned (List.mem_of_mem_eraseIdx member))
      have entry := (counted.in_flight member).2
      rw [entry]
      exact Option.some_ne_none _
    · intro cleaned
      exact @perform_unrecorded _ _ torn.keyed (.endCreate enqueue.owner) _
        (torn.unrecorded cleaned) nofun
  | operated action other =>
    refine ⟨perform_keyed torn.keyed action, counted, torn.gone, torn.removed, ?_, ?_⟩
    · intro cleaned member
      exact (perform_ledger other owner).2 (torn.tombstoned cleaned member)
    · intro cleaned
      refine perform_unrecorded torn.keyed (torn.unrecorded cleaned) ?_
      intro creates
      rw [creator_other other] at creates
      cases creates

theorem new_counted : Counted (Owners.new : Owners Value) :=
  fun _ => rfl

theorem run_counted {trace : List (OwnerEvent Value)} {state : Owners Value}
    (ran : Runs.exec advance Owners.new trace = some state) : Counted state := by
  refine Runs.exec_invariant advance (fun _ _ => True) Counted ?_ trace Owners.new state
    new_counted (Runs.Admitted.of_forall (fun _ _ => trivial) _) ran
  intro state event next _ counted stepped
  exact (advance_moved stepped).counted counted

theorem run_torn {trace : List (OwnerEvent Value)} {state : Owners Value} {owner : String}
    (ran : Runs.exec advance Owners.new trace = some state)
    (unused : Runs.Admitted advance (fun state event => reopens owner state event = false)
      Owners.new trace) : Torn owner state := by
  refine Runs.exec_invariant advance (fun state event => reopens owner state event = false)
    (Torn owner) ?_ trace Owners.new state ?_ unused ran
  · intro state event next fresh torn stepped
    exact (advance_moved stepped).torn fresh torn
  · constructor
    · exact new_keyed
    · exact new_counted
    all_goals nofun

/-- In every state the ledger has an entry for the owners with a create in flight. Once an
owner whose name is not used again is torn down there is no record of it, also while creates
of it are still in flight. -/
theorem no_task_outlives_owner (trace : List (OwnerEvent Value)) (state : Owners Value)
    (ran : Runs.exec advance Owners.new trace = some state) :
    (∀ owner, (∃ entry, Tables.get state.store.lifecycle owner = some entry) ↔
      ∃ enqueue ∈ state.enqueues, enqueue.owner = owner) ∧
    ∀ owner,
      Runs.Admitted advance (fun state event => reopens owner state event = false)
        Owners.new trace →
      owner ∈ state.cleaned → ∀ item ∈ state.store.tasks, item.2.owner ≠ owner := by
  have counted := run_counted ran
  constructor
  · intro owner
    constructor
    · rintro ⟨entry, present⟩
      have positive : 0 < state.guards owner := by
        rw [Nat.pos_iff_ne_zero]
        intro zero
        have absent := counted owner
        simp [TaskStore.inFlight, present, zero] at absent
      obtain ⟨enqueue, member, own⟩ := List.countP_pos_iff.mp positive
      exact ⟨enqueue, member, of_decide_eq_true own⟩
    · rintro ⟨enqueue, member, rfl⟩
      obtain ⟨entry, present, -⟩ := Option.map_eq_some_iff.mp (counted.in_flight member).2
      exact ⟨entry, present⟩
  · intro owner unused cleaned
    exact (run_torn ran unused).unrecorded cleaned

/-- The session ends between the probe and the insertion. -/
def lateCreate : List (OwnerEvent Nat) :=
  [.openSession "a", .begin "a", .begin "a", .probe 0, .removeSession "a",
    .cleanup ⟨0, "now", fun _ => 0⟩ "a", .create 0 ⟨1, "now", fun _ => 0⟩ (.spawned "tool"),
    .probe 1, .drop 0]

theorem no_task_outlives_owner_late_create : ∃ state,
    Runs.exec advance Owners.new lateCreate = some state ∧
    (∃ entry, Tables.get state.store.lifecycle "a" = some entry) ∧
    ∀ item ∈ state.store.tasks, item.2.owner ≠ "a" := by
  refine ⟨_, rfl, ?_⟩
  have outcome := no_task_outlives_owner lateCreate _ rfl
  exact ⟨(outcome.1 "a").mpr (by decide), outcome.2 "a" (by decide) (by decide)⟩

end Plug.Tasks
