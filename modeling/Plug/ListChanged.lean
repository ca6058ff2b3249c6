import Plug.RefreshCoordinator

/-!
# Announcing changed lists

A change of an upstream list sets the flag of its kind and asks for a refresh. The first
such call spawns a task that waits out the burst, refreshes, announces the kinds whose
flags it finds, and starts over when a refresh was asked for meanwhile. The flags are
atomic and nothing is locked, so every access is a step of its own; the task's refresh is
a call at the coordinator, among the calls of others.
-/

namespace Plug.ListChanged

open RefreshCoordinator (Coordinator Event Passed Seen Led)

inductive Kind where
  | tool
  | resource
  | prompt
deriving DecidableEq

inductive Note where
  | scheduled (kind : Kind)
  | published (kind : Kind)
deriving DecidableEq

/-- Where a call of `schedule_list_changed_refresh` is, or the task it spawned. -/
inductive Phase where
  /-- Before the flag of the kind is stored. -/
  | storing (kind : Kind)
  /-- Before `notification_refresh_pending` is stored. -/
  | requesting
  /-- Before the `compare_exchange` of `notification_refresh_in_progress`. -/
  | claiming
  | returned
  /-- At the top of the task's loop. -/
  | clearing
  | sleeping
  /-- In its call of `refresh_tools`. -/
  | refreshing (caller : Nat)
  | swapping (kind : Kind)
  | publishing (kind : Kind)
  /-- Before the first swap of `notification_refresh_pending`. -/
  | checking
  /-- Before `notification_refresh_in_progress` is cleared. -/
  | releasing
  /-- Before the second swap of `notification_refresh_pending`. -/
  | rechecking
  /-- Before the task's own `compare_exchange`. -/
  | reclaiming
  | finished
deriving DecidableEq

structure Router where
  coordinator : Coordinator Note
  pendingListChanged : Kind → Bool
  refreshPending : Bool
  refreshInProgress : Bool
  tasks : List Phase

def initial : Router where
  coordinator := RefreshCoordinator.initial
  pendingListChanged := fun _ => false
  refreshPending := false
  refreshInProgress := false
  tasks := []

def Router.to (router : Router) (index : Nat) (phase : Phase) : Router :=
  { router with tasks := router.tasks.set index phase }

def Router.note (router : Router) (note : Note) : Router :=
  { router with
    coordinator := { router.coordinator with log := .noted note :: router.coordinator.log } }

def Router.setPending (router : Router) (kind : Kind) (pending : Bool) : Router :=
  { router with pendingListChanged := Function.update router.pendingListChanged kind pending }

/-- Where the task goes when it is done with a kind. -/
def Kind.following : Kind → Phase
  | .tool => .swapping .resource
  | .resource => .swapping .prompt
  | .prompt => .checking

/-- The next step of a call or of its task. -/
def Router.advance (router : Router) (index : Nat) : Option Router :=
  match router.tasks[index]? with
  | some (.storing kind) =>
    some (((router.setPending kind true).note (.scheduled kind)).to index .requesting)
  | some .requesting => some ({ router with refreshPending := true }.to index .claiming)
  | some .claiming =>
    some (if router.refreshInProgress then router.to index .returned
      else { router with refreshInProgress := true }.to index .clearing)
  | some .clearing => some ({ router with refreshPending := false }.to index .sleeping)
  | some .sleeping =>
    (RefreshCoordinator.step router.coordinator .call).map fun coordinator =>
      { router with coordinator := coordinator }.to index
        (.refreshing router.coordinator.callers.length)
  | some (.refreshing caller) =>
    if router.coordinator.callers[caller]? = some .returned then
      some (router.to index (.swapping .tool))
    else none
  | some (.swapping kind) =>
    some ((router.setPending kind false).to index
      (if router.pendingListChanged kind then .publishing kind else kind.following))
  | some (.publishing kind) => some ((router.note (.published kind)).to index kind.following)
  | some .checking =>
    some ({ router with refreshPending := false }.to index
      (if router.refreshPending then .clearing else .releasing))
  | some .releasing => some ({ router with refreshInProgress := false }.to index .rechecking)
  | some .rechecking =>
    some ({ router with refreshPending := false }.to index
      (if router.refreshPending then .reclaiming else .finished))
  | some .reclaiming =>
    some (if router.refreshInProgress then router.to index .finished
      else { router with refreshInProgress := true }.to index .clearing)
  | _ => none

/-- The task's call of `refresh_tools` is dropped. -/
def Router.dropRefresh (router : Router) (caller : Nat) : Option Router :=
  (RefreshCoordinator.step router.coordinator (.cancel caller)).map fun coordinator =>
    { router with coordinator := coordinator }

/-- The backstop cuts the refresh off, and the task goes on. -/
def Router.timeout (router : Router) (index : Nat) : Option Router :=
  match router.tasks[index]? with
  | some (.refreshing caller) =>
    (router.dropRefresh caller).map fun dropped => dropped.to index (.swapping .tool)
  | _ => none

/-- The task ends where it awaits something, and its guard clears the flag. -/
def Router.abort (router : Router) (index : Nat) : Option Router :=
  match router.tasks[index]? with
  | some .sleeping => some ({ router with refreshInProgress := false }.to index .finished)
  | some (.refreshing caller) =>
    (router.dropRefresh caller).map fun dropped =>
      { dropped with refreshInProgress := false }.to index .finished
  | _ => none

inductive Action where
  | schedule (kind : Kind)
  | advance (index : Nat)
  | timeout (index : Nat)
  | abort (index : Nat)
  /-- Another caller of `refresh_tools`. -/
  | call
  /-- The next step of any call of `refresh_tools`. -/
  | coordinate (caller : Nat)
  /-- Another caller is dropped. -/
  | cancel (caller : Nat)
deriving DecidableEq

def step (router : Router) : Action → Option Router
  | .schedule kind => some { router with tasks := router.tasks ++ [.storing kind] }
  | .advance index => router.advance index
  | .timeout index => router.timeout index
  | .abort index => router.abort index
  | .call =>
    (RefreshCoordinator.step router.coordinator .call).map fun coordinator =>
      { router with coordinator := coordinator }
  | .coordinate caller =>
    (RefreshCoordinator.step router.coordinator (.advance caller)).map fun coordinator =>
      { router with coordinator := coordinator }
  | .cancel caller =>
    if router.tasks.contains (.refreshing caller) then none else router.dropRefresh caller

/-! ### The condition -/

def Kind.rank : Kind → Nat
  | .tool => 0
  | .resource => 1
  | .prompt => 2

/-- The task has yet to swap the flag of the kind, and no pass that begins from now on
has to complete before it does. -/
def Router.stale (router : Router) (kind : Kind) : Phase → Bool
  | .refreshing caller => router.coordinator.callers[caller]?.any router.coordinator.served
  | .swapping current => decide (current.rank ≤ kind.rank)
  | .publishing current => decide (current.rank < kind.rank)
  | _ => false

/-- The task has swapped the flag of the kind and not yet cleared
`notification_refresh_in_progress`. -/
def Phase.late (kind : Kind) : Phase → Bool
  | .swapping current => decide (kind.rank < current.rank)
  | .publishing current => decide (kind.rank ≤ current.rank)
  | .checking => true
  | .releasing => true
  | _ => false

/-- No task that a change could be too late for runs when the change is stored; a task
that has cleared `notification_refresh_in_progress` takes no request that another task,
past the flag, has to see; and no refresh is cut off. -/
def orderly (router : Router) : Action → Bool
  | .advance index =>
    match router.tasks[index]? with
    | some (.storing kind) => !router.tasks.any (router.stale kind)
    | some .rechecking =>
      !router.refreshPending || [Kind.tool, .resource, .prompt].all fun kind =>
        !(router.pendingListChanged kind && router.tasks.any (Phase.late kind))
    | _ => true
  | .timeout _ => false
  | .abort _ => false
  | _ => true

/-- No call and no task runs, and no refresh is asked for. -/
def Router.quiescent (router : Router) : Bool :=
  !router.refreshPending && !router.refreshInProgress &&
    router.tasks.all fun phase => decide (phase = .returned ∨ phase = .finished)

/-! ### What a step can do -/

/-- What a call or its task can do in one step of an orderly run. -/
inductive Moves (router : Router) (index : Nat) : Router → Prop where
  | stores (kind : Kind) (found : router.tasks[index]? = some (.storing kind))
      (timely : router.tasks.any (router.stale kind) = false) :
      Moves router index
        (((router.setPending kind true).note (.scheduled kind)).to index .requesting)
  | requests (found : router.tasks[index]? = some .requesting) :
      Moves router index ({ router with refreshPending := true }.to index .claiming)
  | declines (found : router.tasks[index]? = some .claiming) :
      Moves router index (router.to index .returned)
  | claims (former : Phase) (found : router.tasks[index]? = some former)
      (unclaimed : former = .claiming ∨ former = .reclaiming) :
      Moves router index ({ router with refreshInProgress := true }.to index .clearing)
  | clears (found : router.tasks[index]? = some .clearing) :
      Moves router index ({ router with refreshPending := false }.to index .sleeping)
  | calls (coordinator : Coordinator Note) (found : router.tasks[index]? = some .sleeping)
      (called : RefreshCoordinator.step router.coordinator .call = some coordinator) :
      Moves router index ({ router with coordinator := coordinator }.to index
        (.refreshing router.coordinator.callers.length))
  | returns (caller : Nat) (found : router.tasks[index]? = some (.refreshing caller))
      (returned : router.coordinator.callers[caller]? = some .returned) :
      Moves router index (router.to index (.swapping .tool))
  | swaps (kind : Kind) (found : router.tasks[index]? = some (.swapping kind)) :
      Moves router index ((router.setPending kind false).to index
        (if router.pendingListChanged kind then .publishing kind else kind.following))
  | publishes (kind : Kind) (found : router.tasks[index]? = some (.publishing kind)) :
      Moves router index ((router.note (.published kind)).to index kind.following)
  | checks (found : router.tasks[index]? = some .checking) :
      Moves router index ({ router with refreshPending := false }.to index
        (if router.refreshPending then .clearing else .releasing))
  | releases (found : router.tasks[index]? = some .releasing) :
      Moves router index ({ router with refreshInProgress := false }.to index .rechecking)
  | rechecks (found : router.tasks[index]? = some .rechecking)
      (spared : router.refreshPending = true → ∀ kind, router.pendingListChanged kind = true →
        router.tasks.any (Phase.late kind) = false) :
      Moves router index ({ router with refreshPending := false }.to index
        (if router.refreshPending then .reclaiming else .finished))
  | leaves (found : router.tasks[index]? = some .reclaiming)
      (busy : router.refreshInProgress = true) : Moves router index (router.to index .finished)

variable {router next : Router} {index : Nat} {phase former : Phase} {kind : Kind}
  {since newer : List (Event Note)}

theorem advance_moves (order : orderly router (.advance index) = true)
    (advanced : router.advance index = some next) : Moves router index next := by
  unfold Router.advance at advanced
  dsimp only [orderly] at order
  split at advanced
  case h_1 kind found =>
    cases advanced
    rw [found] at order
    exact .stores kind found (by simpa using order)
  case h_2 found =>
    cases advanced
    exact .requests found
  case h_3 found =>
    cases advanced
    split
    · exact .declines found
    · exact .claims _ found (Or.inl rfl)
  case h_4 found =>
    cases advanced
    exact .clears found
  case h_5 found =>
    obtain ⟨coordinator, called, rfl⟩ := Option.map_eq_some_iff.mp advanced
    exact .calls coordinator found called
  case h_6 caller found =>
    split at advanced
    · cases advanced
      exact .returns caller found ‹_›
    · cases advanced
  case h_7 kind found =>
    cases advanced
    exact .swaps kind found
  case h_8 kind found =>
    cases advanced
    exact .publishes kind found
  case h_9 found =>
    cases advanced
    exact .checks found
  case h_10 found =>
    cases advanced
    exact .releases found
  case h_11 found =>
    cases advanced
    refine .rechecks found ?_
    intro requested kind pending
    rw [found] at order
    simp only [requested, Bool.not_true, Bool.false_or, List.all_cons, List.all_nil, Bool.and_true,
      Bool.and_eq_true, Bool.not_eq_true', Bool.and_eq_false_iff] at order
    cases kind with
    | tool => exact order.1.resolve_left (by simp [pending])
    | resource => exact order.2.1.resolve_left (by simp [pending])
    | prompt => exact order.2.2.resolve_left (by simp [pending])
  case h_12 found =>
    cases advanced
    split
    · exact .leaves found ‹_›
    · exact .claims _ found (Or.inr rfl)
  case h_13 => cases advanced

/-- A step of an orderly run: a call that begins, a step of a call or a task, or a step of
the coordinator alone. -/
inductive Steps (router : Router) : Router → Prop where
  | begins (kind : Kind) :
      Steps router { router with tasks := router.tasks ++ [.storing kind] }
  | moves {next : Router} (index : Nat) (moves : Moves router index next) : Steps router next
  | coordinates (action : RefreshCoordinator.Action Note) (coordinator : Coordinator Note)
      (silent : ∀ note, action ≠ .note note)
      (stepped : RefreshCoordinator.step router.coordinator action = some coordinator) :
      Steps router { router with coordinator := coordinator }

theorem step_cases {action : Action} (order : orderly router action = true)
    (stepped : step router action = some next) : Steps router next := by
  cases action with
  | schedule kind =>
    cases stepped
    exact .begins kind
  | advance index => exact .moves index (advance_moves order stepped)
  | timeout index => cases order
  | abort index => cases order
  | call =>
    dsimp only [step] at stepped
    obtain ⟨coordinator, called, rfl⟩ := Option.map_eq_some_iff.mp stepped
    exact .coordinates .call coordinator nofun called
  | coordinate caller =>
    obtain ⟨coordinator, advanced, rfl⟩ := Option.map_eq_some_iff.mp stepped
    exact .coordinates (.advance caller) coordinator nofun advanced
  | cancel caller =>
    dsimp only [step] at stepped
    split at stepped
    · cases stepped
    · obtain ⟨coordinator, cancelled, rfl⟩ := Option.map_eq_some_iff.mp stepped
      exact .coordinates (.cancel caller) coordinator nofun cancelled

/-! ### A change is looked at -/

/-- The task has yet to swap the flag of the kind. -/
def Phase.early (kind : Kind) : Phase → Bool
  | .clearing => true
  | .sleeping => true
  | .refreshing _ => true
  | .swapping current => decide (current.rank ≤ kind.rank)
  | .publishing current => decide (current.rank < kind.rank)
  | _ => false

/-- The task has set `notification_refresh_in_progress`. -/
def Phase.owns (phase : Phase) : Bool :=
  phase.early .prompt || phase.late .prompt

theorem early_or_late (owns : phase.owns = true) (kind : Kind) :
    phase.early kind = true ∨ phase.late kind = true := by
  cases phase with
  | swapping current =>
    simp only [Phase.early, Phase.late, decide_eq_true_eq]
    omega
  | publishing current =>
    simp only [Phase.early, Phase.late, decide_eq_true_eq]
    omega
  | _ => simp_all [Phase.owns, Phase.early, Phase.late]

/-- A flag that is set has a task before its swap, a request that was not taken, or a task
that took a request and goes on before any task is past the flag. -/
def Attended (router : Router) (kind : Kind) : Prop :=
  router.pendingListChanged kind = true →
    router.tasks.any (Phase.early kind) = true ∨
    router.tasks.any (decide <| · = .requesting) = true ∨
    router.refreshPending = true ∨
    (router.tasks.any (decide <| · = .reclaiming) = true ∧
      router.tasks.any (Phase.late kind) = false)

/-- The flag that lets one task run is set only while one does. -/
def Owned (router : Router) : Prop :=
  router.refreshInProgress = true → router.tasks.any Phase.owns = true

theorem Attended.early (found : router.tasks[index]? = some former)
    (early : phase.early kind = true) : Attended (router.to index phase) kind :=
  fun _ => Or.inl (Runs.any_set_self found early)

/-- A step of a call or a task that is neither before the swap nor about to ask. -/
theorem Attended.beside (attended : Attended router kind) (tasks : next.tasks = router.tasks)
    (found : router.tasks[index]? = some former)
    (pending : next.pendingListChanged kind = true → router.pendingListChanged kind = true)
    (requested : router.refreshPending = true → next.refreshPending = true)
    (early : former.early kind = false) (settled : former ≠ .requesting ∧ former ≠ .reclaiming)
    (late : phase.late kind = true → former.late kind = true) :
    Attended (next.to index phase) kind := by
  intro set
  have foundNext : next.tasks[index]? = some former := tasks ▸ found
  rcases attended (pending set) with before | asks | request | ⟨takes, none⟩
  · refine Or.inl (Runs.any_set foundNext ?_ (tasks ▸ before))
    intro own
    rw [early] at own
    cases own
  · refine Or.inr (Or.inl (Runs.any_set foundNext ?_ (tasks ▸ asks)))
    intro own
    exact absurd (of_decide_eq_true own) settled.1
  · exact Or.inr (Or.inr (Or.inl (requested request)))
  · refine Or.inr (Or.inr (Or.inr ⟨Runs.any_set foundNext ?_ (tasks ▸ takes), ?_⟩))
    · intro own
      exact absurd (of_decide_eq_true own) settled.2
    · refine Runs.any_set_eq_false (tasks ▸ none) ?_
      apply Bool.eq_false_iff.mpr
      intro own
      have absent := List.any_eq_false.mp none former (List.mem_of_getElem? found)
      exact absent (late own)

/-- Where a task goes when it is done with a kind. -/
theorem following_place (kind other : Kind) (differs : other ≠ kind) :
    (kind.rank < other.rank → kind.following.early other = true) ∧
    (kind.following.late other = true → kind.rank > other.rank) := by
  cases kind <;> cases other <;> first | exact absurd rfl differs | decide

theorem rank_ne {other : Kind} (differs : other ≠ kind) : kind.rank ≠ other.rank := by
  cases kind <;> cases other <;> first | exact absurd rfl differs | decide

theorem Moves.attended (moves : Moves router index next) (owned : Owned router) (kind : Kind)
    (attended : Attended router kind) : Attended next kind := by
  cases moves with
  | stores other found timely =>
    intro _
    exact Or.inr (Or.inl (Runs.any_set_self found (by simp)))
  | requests found =>
    intro _
    exact Or.inr (Or.inr (Or.inl rfl))
  | declines found => exact attended.beside rfl found id id rfl (by simp) nofun
  | claims former found unclaimed => exact Attended.early found rfl
  | clears found => exact Attended.early found rfl
  | calls coordinator found called => exact Attended.early found rfl
  | returns caller found returned => exact Attended.early found (by simp [Phase.early, Kind.rank])
  | swaps other found =>
    by_cases same : kind = other
    · subst same
      intro set
      simp [Router.setPending, Router.to] at set
    · have pending : (router.setPending other false).pendingListChanged kind =
          router.pendingListChanged kind := Function.update_of_ne same _ _
      obtain ⟨early, late⟩ := following_place other kind same
      have apart := rank_ne same
      by_cases before : other.rank < kind.rank
      · refine Attended.early found ?_
        split
        · simpa [Phase.early] using before
        · exact early before
      · refine attended.beside rfl found (fun set => pending ▸ set) id ?_ (by simp) ?_
        · simp only [Phase.early, decide_eq_false_iff_not]
          omega
        · intro _
          simp only [Phase.late, decide_eq_true_eq]
          omega
  | publishes other found =>
    by_cases before : other.rank < kind.rank
    · have differs : kind ≠ other := by
        rintro rfl
        exact Nat.lt_irrefl _ before
      exact Attended.early found ((following_place other kind differs).1 before)
    · refine attended.beside rfl found id id ?_ (by simp) ?_
      · simpa [Phase.early] using before
      · intro _
        simp only [Phase.late, decide_eq_true_eq]
        omega
  | checks found =>
    cases requested : router.refreshPending with
    | true => exact Attended.early found rfl
    | false =>
      refine attended.beside rfl found id ?_ rfl (by simp) fun _ => rfl
      intro request
      rw [requested] at request
      cases request
  | releases found => exact attended.beside rfl found id id rfl (by simp) nofun
  | rechecks found spared =>
    cases requested : router.refreshPending with
    | true =>
      intro set
      refine Or.inr (Or.inr (Or.inr ⟨Runs.any_set_self found (by simp), ?_⟩))
      exact Runs.any_set_eq_false (spared requested kind set) rfl
    | false =>
      refine attended.beside rfl found id ?_ rfl (by simp) nofun
      intro request
      rw [requested] at request
      cases request
  | leaves found busy =>
    intro set
    rcases attended set with before | asks | request | ⟨_, none⟩
    · exact Or.inl (Runs.any_set found nofun before)
    · exact Or.inr (Or.inl (Runs.any_set found nofun asks))
    · exact Or.inr (Or.inr (Or.inl request))
    -- The task whose flag is in the way has yet to swap.
    · obtain ⟨owner, member, owns⟩ := List.any_eq_true.mp (owned busy)
      have early : owner.early kind = true := by
        cases early_or_late owns kind with
        | inl early => exact early
        | inr late => exact absurd late (List.any_eq_false.mp none owner member)
      exact Or.inl (Runs.any_set found nofun (List.any_eq_true.mpr ⟨owner, member, early⟩))

theorem Moves.owned (moves : Moves router index next) (owned : Owned router) : Owned next := by
  cases moves with
  | stores other found timely => exact fun busy => Runs.any_set found nofun (owned busy)
  | requests found => exact fun busy => Runs.any_set found nofun (owned busy)
  | declines found => exact fun busy => Runs.any_set found nofun (owned busy)
  | claims former found unclaimed => exact fun _ => Runs.any_set_self found rfl
  | clears found => exact fun busy => Runs.any_set found (fun _ => rfl) (owned busy)
  | calls coordinator found called =>
    exact fun busy => Runs.any_set found (fun _ => rfl) (owned busy)
  | returns caller found returned =>
    exact fun busy => Runs.any_set found (fun _ => rfl) (owned busy)
  | swaps other found =>
    intro busy
    refine Runs.any_set found (fun _ => ?_) (owned busy)
    cases router.pendingListChanged other <;> cases other <;> rfl
  | publishes other found =>
    intro busy
    refine Runs.any_set found (fun _ => ?_) (owned busy)
    cases other <;> rfl
  | checks found =>
    intro busy
    refine Runs.any_set found (fun _ => ?_) (owned busy)
    cases router.refreshPending <;> rfl
  | releases found => exact nofun
  | rechecks found spared =>
    intro busy
    refine Runs.any_set found nofun (owned busy)
  | leaves found busy => exact fun _ => Runs.any_set found nofun (owned busy)

/-! ### What follows a change -/

/-- A pass began and completed after the change, and an announcement came after it. -/
def Announced (kind : Kind) (since : List (Event Note)) : Prop :=
  ∃ pass, [.noted (.published kind), .completed pass, .began pass].Sublist since

/-- What the flag's swap may rely on where the task is. -/
def Router.fits (router : Router) (kind : Kind) (since : List (Event Note)) : Phase → Prop
  | .refreshing caller => Seen router.coordinator since caller
  | .swapping current => current.rank ≤ kind.rank → Passed since
  | .publishing current => current.rank < kind.rank → Passed since
  | _ => True

/-- A change was announced, is about to be, or its flag is set and no task will swap it
without a pass that began after the change. -/
def Followed (router : Router) (kind : Kind) (since : List (Event Note)) : Prop :=
  Announced kind since ∨
  (router.tasks.any (decide <| · = .publishing kind) = true ∧ Passed since) ∨
  (router.pendingListChanged kind = true ∧ ∀ phase ∈ router.tasks, router.fits kind since phase)

theorem Announced.later (announced : Announced kind since) (newer : List (Event Note)) :
    Announced kind (newer ++ since) := by
  obtain ⟨pass, ordered⟩ := announced
  exact ⟨pass, ordered.trans (List.sublist_append_right newer since)⟩

/-- The coordinator goes on. -/
theorem fits_coordinated {coordinator : Coordinator Note}
    (seen : ∀ caller, Seen router.coordinator since caller → Seen coordinator (newer ++ since)
      caller) (fit : router.fits kind since phase) :
    { router with coordinator := coordinator }.fits kind (newer ++ since) phase := by
  cases phase with
  | refreshing caller => exact seen caller fit
  | swapping current => exact fun within => (fit within).later newer
  | publishing current => exact fun within => (fit within).later newer
  | _ => trivial

theorem Followed.coordinated {coordinator : Coordinator Note}
    (followed : Followed router kind since)
    (seen : ∀ caller, Seen router.coordinator since caller → Seen coordinator (newer ++ since)
      caller) : Followed { router with coordinator := coordinator } kind (newer ++ since) := by
  rcases followed with announced | ⟨publishing, passed⟩ | ⟨pending, fits⟩
  · exact Or.inl (announced.later newer)
  · exact Or.inr (Or.inl ⟨publishing, passed.later newer⟩)
  · exact Or.inr (Or.inr ⟨pending, fun phase member => fits_coordinated seen (fits phase member)⟩)

/-- A call or a task goes on. -/
theorem fits_to (fits : ∀ phase ∈ router.tasks, router.fits kind since phase)
    (found : router.tasks[index]? = some former) (tasks : next.tasks = router.tasks)
    (coordinator : next.coordinator = router.coordinator)
    (fit : router.fits kind since former → next.fits kind since phase) :
    ∀ place ∈ (next.to index phase).tasks, (next.to index phase).fits kind since place := by
  intro place member
  have moved : next.fits kind since place → (next.to index phase).fits kind since place := by
    intro fit
    cases place <;> exact fit
  apply moved
  rcases List.mem_or_eq_of_mem_set member with earlier | rfl
  · have fit := fits place (tasks ▸ earlier)
    cases place with
    | refreshing caller =>
      unfold Router.fits at fit ⊢
      rw [coordinator]
      exact fit
    | _ => exact fit
  · exact fit (fits former (List.mem_of_getElem? found))

theorem Followed.beside (followed : Followed router kind since)
    (found : router.tasks[index]? = some former) (tasks : next.tasks = router.tasks)
    (coordinator : next.coordinator = router.coordinator)
    (pending : router.pendingListChanged kind = true → next.pendingListChanged kind = true)
    (unpublished : former ≠ .publishing kind)
    (fit : router.fits kind since former → next.fits kind since phase) :
    Followed (next.to index phase) kind since := by
  rcases followed with announced | ⟨publishing, passed⟩ | ⟨set, fits⟩
  · exact Or.inl announced
  · refine Or.inr (Or.inl ⟨?_, passed⟩)
    have foundNext : next.tasks[index]? = some former := tasks ▸ found
    refine Runs.any_set foundNext ?_ (tasks ▸ publishing)
    intro own
    exact absurd (of_decide_eq_true own) unpublished
  · exact Or.inr (Or.inr ⟨pending set, fits_to fits found tasks coordinator fit⟩)

theorem Passed.announced (passed : Passed since) :
    Announced kind (.noted (.published kind) :: since) := by
  obtain ⟨pass, ordered⟩ := passed
  exact ⟨pass, ordered.cons_cons _⟩

theorem following_fits {other : Kind} (passed : other.rank < kind.rank → Passed since) :
    router.fits kind since other.following := by
  cases other with
  | tool => exact fun within => passed within
  | resource => exact fun within => passed within
  | prompt => trivial

/-- What a call has seen, after a step that is known. -/
theorem seen_after {coordinator next : Coordinator Note} {action : RefreshCoordinator.Action Note}
    (led : Led coordinator) (stepped : RefreshCoordinator.step coordinator action = some next)
    (grown : next.log = newer ++ coordinator.log) (caller : Nat)
    (seen : Seen coordinator since caller) : Seen next (newer ++ since) caller := by
  obtain ⟨other, grownSeen, seenNext⟩ := RefreshCoordinator.step_seen led seen stepped
  have same : other = newer := List.append_cancel_right (grownSeen.symm.trans grown)
  exact same ▸ seenNext

theorem seen_noted (led : Led router.coordinator) (note : Note) (caller : Nat)
    (seen : Seen router.coordinator since caller) :
    Seen (router.note note).coordinator ([.noted note] ++ since) caller :=
  seen_after led (rfl : RefreshCoordinator.step router.coordinator (.note note) = some _) rfl
    caller seen

/-- A note is recorded. -/
theorem Followed.noted (led : Led router.coordinator) (followed : Followed router kind since)
    (note : Note) : Followed (router.note note) kind ([.noted note] ++ since) :=
  followed.coordinated (seen_noted led note)

theorem Moves.followed (moves : Moves router index next) (led : Led router.coordinator)
    (followed : Followed router kind since) :
    ∃ newer, next.coordinator.log = newer ++ router.coordinator.log ∧
      Followed next kind (newer ++ since) := by
  cases moves with
  | stores other found timely =>
    refine ⟨[.noted (.scheduled other)], rfl, ?_⟩
    refine (followed.noted led (.scheduled other)).beside found rfl rfl ?_ nofun fun _ => trivial
    intro set
    simp only [Router.note, Router.setPending, Function.update_apply]
    split
    · rfl
    · exact set
  | requests found => exact ⟨[], rfl, followed.beside found rfl rfl id nofun fun _ => trivial⟩
  | declines found => exact ⟨[], rfl, followed.beside found rfl rfl id nofun fun _ => trivial⟩
  | claims former found unclaimed =>
    refine ⟨[], rfl, followed.beside found rfl rfl id ?_ fun _ => trivial⟩
    rcases unclaimed with rfl | rfl <;> nofun
  | clears found => exact ⟨[], rfl, followed.beside found rfl rfl id nofun fun _ => trivial⟩
  | calls coordinator found called =>
    have grown : coordinator.log =
        [.called router.coordinator.callers.length] ++ router.coordinator.log := by
      rw [← Option.some.inj called]
      rfl
    have entering : coordinator.callers[router.coordinator.callers.length]? = some .entering := by
      rw [← Option.some.inj called]
      exact List.getElem?_concat_length
    have coordinated : Followed { router with coordinator := coordinator } kind
        ([.called router.coordinator.callers.length] ++ since) :=
      followed.coordinated (seen_after led called grown)
    exact ⟨_, grown, coordinated.beside found rfl rfl id nofun fun _ =>
      Seen.of_unserved entering rfl⟩
  | returns caller found returned =>
    refine ⟨[], rfl, followed.beside found rfl rfl id nofun ?_⟩
    intro seen _
    exact Seen.settled seen returned rfl rfl rfl
  | swaps other found =>
    refine ⟨[], rfl, ?_⟩
    by_cases same : kind = other
    · subst same
      rcases followed with announced | ⟨publishing, passed⟩ | ⟨set, fits⟩
      · exact Or.inl announced
      · exact Or.inr (Or.inl ⟨Runs.any_set found nofun publishing, passed⟩)
      · have passed : Passed since :=
          fits (.swapping kind) (List.mem_of_getElem? found) (Nat.le_refl _)
        refine Or.inr (Or.inl ⟨Runs.any_set_self found ?_, passed⟩)
        rw [if_pos set]
        exact decide_eq_true rfl
    · refine followed.beside found rfl rfl ?_ nofun ?_
      · intro set
        exact (Function.update_of_ne same _ _).trans set
      · intro fit
        split
        · exact fun within => fit (Nat.le_of_lt within)
        · exact following_fits fun within => fit (Nat.le_of_lt within)
  | publishes other found =>
    refine ⟨[.noted (.published other)], rfl, ?_⟩
    by_cases same : kind = other
    · subst same
      rcases followed with announced | ⟨publishing, passed⟩ | ⟨set, fits⟩
      · exact Or.inl (announced.later [.noted (.published kind)])
      · exact Or.inl (Passed.announced passed)
      · have noted : ∀ phase ∈ (router.note (.published kind)).tasks,
            (router.note (.published kind)).fits kind ([.noted (.published kind)] ++ since) phase :=
          fun phase member =>
            fits_coordinated (seen_noted led (.published kind)) (fits phase member)
        exact Or.inr (Or.inr ⟨set, fits_to noted found rfl rfl fun fit => following_fits fit⟩)
    · refine (followed.noted led (.published other)).beside found rfl rfl id ?_ ?_
      · intro equal
        exact same (Phase.publishing.inj equal).symm
      · intro fit
        exact following_fits fit
  | checks found =>
    refine ⟨[], rfl, followed.beside found rfl rfl id nofun fun _ => ?_⟩
    cases router.refreshPending <;> trivial
  | releases found => exact ⟨[], rfl, followed.beside found rfl rfl id nofun fun _ => trivial⟩
  | rechecks found spared =>
    refine ⟨[], rfl, followed.beside found rfl rfl id nofun fun _ => ?_⟩
    cases router.refreshPending <;> trivial
  | leaves found busy => exact ⟨[], rfl, followed.beside found rfl rfl id nofun fun _ => trivial⟩

/-! ### Runs -/

/-- A change recorded in a log that grew was recorded before or is new. -/
theorem split_mark {added log older : List (Event Note)} {mark : Event Note}
    (logged : added ++ log = newer ++ mark :: older) (absent : mark ∉ added) :
    ∃ since, newer = added ++ since ∧ log = since ++ mark :: older := by
  rcases List.append_eq_append_iff.mp logged with ⟨since, grown, rest⟩ | ⟨rest, grown, split⟩
  · exact ⟨since, grown, rest⟩
  · cases rest with
    | nil => exact ⟨[], by simpa using grown.symm, by simpa using split.symm⟩
    | cons first others =>
      obtain ⟨rfl, -⟩ := List.cons.inj split
      exact absurd (grown ▸ List.mem_append_right newer (List.mem_cons_self ..)) absent

structure Settled (router : Router) : Prop where
  led : Led router.coordinator
  owned : Owned router
  attended : ∀ kind, Attended router kind
  followed : ∀ kind newer older,
    router.coordinator.log = newer ++ .noted (.scheduled kind) :: older →
      Followed router kind newer

theorem Moves.led (moves : Moves router index next) (led : Led router.coordinator) :
    Led next.coordinator := by
  cases moves with
  | calls coordinator found called => exact RefreshCoordinator.step_led led called
  | _ => exact led

/-- A change that is stored in time. -/
theorem followed_stored (timely : router.tasks.any (router.stale kind) = false) :
    Followed (((router.setPending kind true).note (.scheduled kind)).to index .requesting) kind
      [] := by
  refine Or.inr (Or.inr ⟨Function.update_self .., ?_⟩)
  intro phase member
  rcases List.mem_or_eq_of_mem_set member with earlier | rfl
  · have fresh := List.any_eq_false.mp timely phase earlier
    cases phase with
    | refreshing caller =>
      intro place found served
      refine absurd ?_ fresh
      have present : router.coordinator.callers[caller]? = some place := found
      rw [Router.stale, present]
      exact served
    | swapping current =>
      intro within
      exact absurd (decide_eq_true within) fresh
    | publishing current =>
      intro within
      exact absurd (decide_eq_true within) fresh
    | _ => trivial
  · trivial

theorem Moves.recorded (moves : Moves router index next) (settled : Settled router)
    {older : List (Event Note)}
    (logged : next.coordinator.log = newer ++ .noted (.scheduled kind) :: older) :
    Followed next kind newer := by
  have carried : ∀ added since, next.coordinator.log = added ++ router.coordinator.log →
      newer = added ++ since →
      router.coordinator.log = since ++ .noted (.scheduled kind) :: older →
        Followed next kind newer := by
    rintro added since grown rfl split
    obtain ⟨other, grownOther, followed⟩ :=
      moves.followed settled.led (settled.followed kind since older split)
    have same : other = added := List.append_cancel_right (grownOther.symm.trans grown)
    exact same ▸ followed
  have earlier : ∀ added, next.coordinator.log = added ++ router.coordinator.log →
      .noted (.scheduled kind) ∉ added → Followed next kind newer := by
    intro added grown absent
    obtain ⟨since, extended, split⟩ := split_mark (grown.symm.trans logged) absent
    exact carried added since grown extended split
  cases moves with
  | stores other found timely =>
    cases newer with
    | nil =>
      obtain ⟨same, -⟩ := List.cons.inj logged
      obtain rfl : other = kind := by simpa using same
      exact followed_stored timely
    | cons first rest =>
      obtain ⟨rfl, split⟩ := List.cons.inj logged
      exact carried [.noted (.scheduled other)] rest rfl rfl split
  | calls coordinator found called =>
    refine earlier [.called router.coordinator.callers.length] ?_ (by simp)
    rw [← Option.some.inj called]
    rfl
  | publishes other found => exact earlier [.noted (.published other)] rfl (by simp)
  | _ => exact earlier [] rfl (by simp)

theorem step_settled {action : Action} (order : orderly router action = true)
    (settled : Settled router) (stepped : step router action = some next) : Settled next := by
  cases step_cases order stepped with
  | begins kind =>
    have kept : ∀ {meets : Phase → Bool}, router.tasks.any meets = true →
        (router.tasks ++ [Phase.storing kind]).any meets = true := by
      intro meets some
      rw [List.any_append, some, Bool.true_or]
    refine ⟨settled.led, fun busy => kept (settled.owned busy), ?_, ?_⟩
    · intro other set
      rcases settled.attended other set with early | asks | request | ⟨takes, none⟩
      · exact Or.inl (kept early)
      · exact Or.inr (Or.inl (kept asks))
      · exact Or.inr (Or.inr (Or.inl request))
      · refine Or.inr (Or.inr (Or.inr ⟨kept takes, ?_⟩))
        rw [List.any_append, none]
        rfl
    · intro other newer older logged
      rcases settled.followed other newer older logged with announced | ⟨publishing, passed⟩ |
        ⟨set, fits⟩
      · exact Or.inl announced
      · exact Or.inr (Or.inl ⟨kept publishing, passed⟩)
      · refine Or.inr (Or.inr ⟨set, ?_⟩)
        intro phase member
        cases List.mem_append.mp member with
        | inl earlier =>
          have fit := fits phase earlier
          cases phase <;> exact fit
        | inr last =>
          obtain rfl := List.mem_singleton.mp last
          trivial
  | moves index moves =>
    exact ⟨moves.led settled.led, moves.owned settled.owned,
      fun kind => moves.attended settled.owned kind (settled.attended kind),
      fun kind newer older logged => moves.recorded settled logged⟩
  | coordinates own coordinator silent advanced =>
    refine ⟨RefreshCoordinator.step_led settled.led advanced, settled.owned, settled.attended, ?_⟩
    intro kind newer older logged
    obtain ⟨added, grown, notes⟩ := RefreshCoordinator.step_log advanced
    have absent : .noted (.scheduled kind) ∉ added :=
      fun member => silent _ (notes _ member)
    obtain ⟨since, rfl, split⟩ := split_mark (grown.symm.trans logged) absent
    exact (settled.followed kind since older split).coordinated
      (seen_after settled.led advanced grown)

theorem initial_settled : Settled initial where
  led := RefreshCoordinator.initial_led
  owned := nofun
  attended := nofun
  followed := by
    intro kind newer older logged
    have length := congrArg List.length logged
    simp [initial, RefreshCoordinator.initial] at length

/-- In every orderly run, when nothing runs and nothing is pending, every change was
announced after a pass that began after the change was stored. -/
theorem changes_announced (trace : List Action) (router : Router)
    (order : Runs.Admitted step (fun router action => orderly router action = true) initial trace)
    (ran : Runs.exec step initial trace = some router) (quiet : router.quiescent = true)
    (kind : Kind) (newer older : List (Event Note))
    (logged : router.coordinator.log = newer ++ .noted (.scheduled kind) :: older) :
    ∃ pass, [.noted (.published kind), .completed pass, .began pass].Sublist newer := by
  have settled := Runs.exec_invariant step (fun router action => orderly router action = true)
    Settled (fun _ _ _ order held stepped => step_settled order held stepped) trace initial router
    initial_settled order ran
  simp only [Router.quiescent, Bool.and_eq_true, Bool.not_eq_true'] at quiet
  obtain ⟨⟨unrequested, -⟩, ended⟩ := quiet
  have none : ∀ {meets : Phase → Bool}, meets .returned = false → meets .finished = false →
      router.tasks.any meets = false := by
    intro meets returned finished
    refine List.any_eq_false.mpr ?_
    intro phase member
    rcases of_decide_eq_true (List.all_eq_true.mp ended phase member) with rfl | rfl
    · rw [returned]
      exact Bool.false_ne_true
    · rw [finished]
      exact Bool.false_ne_true
  rcases settled.followed kind newer older logged with announced | ⟨publishing, _⟩ | ⟨set, _⟩
  · exact announced
  · rw [none rfl rfl] at publishing
    cases publishing
  · exfalso
    rcases settled.attended kind set with early | asks | request | ⟨takes, _⟩
    · rw [none rfl rfl] at early
      cases early
    · rw [none rfl rfl] at asks
      cases asks
    · rw [unrequested] at request
      cases request
    · rw [none rfl rfl] at takes
      cases takes

/-- A refresh that the coordinator serves alone. -/
def alone (caller : Nat) : List Action := List.replicate 4 (.coordinate caller)

/-- A second change is stored after the task swapped the flag. -/
def changedAfterSwap : List Action := List.flatten
  [[.schedule .tool], List.replicate 5 (.advance 0), alone 0, List.replicate 2 (.advance 0),
    [.schedule .tool], List.replicate 3 (.advance 1), List.replicate 6 (.advance 0), alone 1,
    List.replicate 8 (.advance 0)]

theorem changes_announced_after_swap :
    ∃ router newer older, Runs.exec step initial changedAfterSwap = some router ∧
      router.coordinator.log = newer ++ .noted (.scheduled .tool) :: older ∧
      ∃ pass, [.noted (.published .tool), .completed pass, .began pass].Sublist newer := by
  have result : (Runs.exec step initial changedAfterSwap).map
      (fun router => (router.quiescent, router.coordinator.log)) =
      some (true, ([.noted (.published .tool), .completed 1, .began 1, .called 1,
        .noted (.published .tool)] : List (Event Note)) ++ Event.noted (Note.scheduled .tool) ::
        ([.completed 0, .began 0, .called 0, .noted (.scheduled .tool)] : List (Event Note))) := by
    decide +kernel
  obtain ⟨router, ran, result⟩ := Option.map_eq_some_iff.mp result
  obtain ⟨quiet, logged⟩ := Prod.mk.inj result
  exact ⟨router, _, _, ran, logged, changes_announced changedAfterSwap router (by decide +kernel)
    ran quiet .tool _ _ logged⟩

/-- A second change is stored while the pass runs. -/
def changedInPass : List Action := List.flatten
  [[.schedule .tool], List.replicate 5 (.advance 0), [.coordinate 0, .coordinate 0],
    [.schedule .tool], List.replicate 3 (.advance 1), [.coordinate 0, .coordinate 0],
    List.replicate 8 (.advance 0), alone 1, List.replicate 7 (.advance 0)]

/-- The pass that ran announces the second change, and the one that begins after it
announces nothing. -/
theorem change_in_pass_announced_early :
    ∃ router newer older, Runs.exec step initial changedInPass = some router ∧
      router.quiescent = true ∧
      router.coordinator.log = newer ++ .noted (.scheduled .tool) :: older ∧
      ¬ ∃ pass, [.noted (.published .tool), .completed pass, .began pass].Sublist newer := by
  have result : (Runs.exec step initial changedInPass).map
      (fun router => (router.quiescent, router.coordinator.log)) =
      some (true, ([.completed 1, .began 1, .called 1, .noted (.published .tool),
        .completed 0] : List (Event Note)) ++ Event.noted (Note.scheduled .tool) ::
        ([.began 0, .called 0, .noted (.scheduled .tool)] : List (Event Note))) := by
    decide +kernel
  obtain ⟨router, ran, result⟩ := Option.map_eq_some_iff.mp result
  obtain ⟨quiet, logged⟩ := Prod.mk.inj result
  refine ⟨router, _, _, ran, quiet, logged, ?_⟩
  rintro ⟨pass, ordered⟩
  simp [List.cons_sublist_cons'] at ordered

end Plug.ListChanged
