import Plug.BackgroundTasks

/-!
# At most one background task of a kind

A step that gives a task a fresh number leaves at most one task of each kind that can still act on a
server, and a step that gives a number which an older task still carries leaves two. No other step
makes a difference: a removed entry stops every task, and a task that goes on stays what it was.
-/

namespace Plug.Background

open Reload

section Entries

variable {generations : TaskKind → String → Option Nat} {kind : TaskKind} {server : String}

theorem setGeneration_self (generation : Option Nat) :
    setGeneration generations kind server generation kind server = generation := by
  rw [setGeneration, Function.update_self, Function.update_self]

theorem setGeneration_of_ne {generation : Option Nat} {otherKind : TaskKind} {otherServer : String}
    (apart : ¬(otherKind = kind ∧ otherServer = server)) :
    setGeneration generations kind server generation otherKind otherServer =
      generations otherKind otherServer := by
  rw [setGeneration]
  by_cases same : otherKind = kind
  · subst same
    rw [Function.update_self]
    exact Function.update_of_ne (fun equal => apart ⟨rfl, equal⟩) _ _
  · rw [Function.update_of_ne same]

end Entries

section Steps

variable {generations : TaskKind → String → Option Nat} {kind : TaskKind} {server : String}
  {older newer : Task} {state next : Supervision}

/-- An entry that is removed lets no task pass. -/
theorem superseded_clear (superseded : Superseded generations older newer) :
    Superseded (setGeneration generations kind server none) older newer := by
  intro sameKind sameServer returns
  by_cases own : older.kind = kind ∧ older.server = server
  · rw [own.1, own.2, setGeneration_self]
    exact nofun
  · rw [setGeneration_of_ne own]
    exact superseded sameKind sameServer returns

/-- A fresh number lets no older task pass. -/
theorem superseded_insert {number : Nat} (superseded : Superseded generations older newer)
    (fresh : older.kind = kind → older.server = server → older.phase.returns = true →
      older.generation ≠ number) :
    Superseded (setGeneration generations kind server (some number)) older newer := by
  intro sameKind sameServer returns
  by_cases own : older.kind = kind ∧ older.server = server
  · rw [own.1, own.2, setGeneration_self]
    intro same
    exact fresh own.1 own.2 returns (Option.some.inj same).symm
  · rw [setGeneration_of_ne own]
    exact superseded sameKind sameServer returns

/-- The task that a number is given to supersedes exactly those that carry another one. -/
theorem superseded_new_iff {number intervalSecs : Nat} {phase : TaskPhase} :
    Superseded (setGeneration generations kind server (some number)) older
        ⟨kind, server, number, intervalSecs, phase⟩ ↔
      (older.kind = kind → older.server = server → older.phase.returns = true →
        older.generation ≠ number) := by
  constructor
  · intro superseded sameKind sameServer returns same
    apply superseded sameKind sameServer returns
    rw [sameKind, sameServer, setGeneration_self, same]
  · intro fresh sameKind sameServer returns passes
    rw [sameKind, sameServer, setGeneration_self] at passes
    exact fresh sameKind sameServer returns (Option.some.inj passes).symm

/-- A job keeps at most one task of each kind exactly if the number it gives is fresh. -/
theorem perform_single_iff {job : Job} (single : Single state) :
    job.Fresh state.tasks ↔ Single (perform state job).1 := by
  cases job with
  | clearGeneration kind server =>
    constructor
    · intro _
      exact single.imp superseded_clear
    · intro _
      trivial
  | storeConfig config => exact ⟨fun _ => single, fun _ => trivial⟩
  | spawn kind server intervalSecs => exact ⟨fun _ => single, fun _ => trivial⟩
  | insertGeneration kind server intervalSecs number =>
    rw [Single, perform, List.pairwise_append]
    constructor
    · intro fresh
      refine ⟨?_, List.pairwise_singleton _ _, ?_⟩
      · refine single.imp_of_mem ?_
        intro older newer member _ superseded
        exact superseded_insert superseded (fresh older member)
      · intro older member newer added
        rw [List.mem_singleton.mp added]
        exact superseded_new_iff.mpr (fresh older member)
    · rintro ⟨_, _, supersedes⟩ older member
      exact superseded_new_iff.mp (supersedes older member _ (List.mem_singleton_self _))

/-- A task that goes on, or gives up, is superseded by those that superseded it. -/
theorem single_put {index : Nat} {task : Task} {phase : TaskPhase}
    (found : state.tasks[index]? = some task)
    (returned : phase.returns = true → task.phase.returns = true) (single : Single state) :
    Single (state.put index task phase) := by
  obtain ⟨bound, present⟩ := List.getElem?_eq_some_iff.mp found
  rw [Single, List.pairwise_iff_getElem] at single ⊢
  intro first second firstBound secondBound before
  have firstLength : first < state.tasks.length := by
    simpa only [Supervision.put, List.length_set] using firstBound
  have secondLength : second < state.tasks.length := by
    simpa only [Supervision.put, List.length_set] using secondBound
  have superseded := single first second firstLength secondLength before
  simp only [Supervision.put, List.getElem_set]
  by_cases own : index = first
  · subst own
    rw [if_pos rfl, if_neg (Nat.ne_of_lt before)]
    rw [present] at superseded
    intro sameKind sameServer returns
    exact superseded sameKind sameServer (returned returns)
  · rw [if_neg own]
    by_cases last : index = second
    · subst last
      rw [if_pos rfl]
      rw [present] at superseded
      exact superseded
    · rw [if_neg last]
      exact superseded

theorem single_wake {index : Nat} {task : Task} {outcome : Outcome}
    (found : state.tasks[index]? = some task) (single : Single state)
    (stepped : wake state index task outcome = some next) : Single next := by
  have goes : ∀ later, task.phase.returns = true → Single (state.put index task later) :=
    fun later awake => single_put found (fun _ => awake) single
  cases phase : task.phase with
  | asleep =>
    have awake : task.phase.returns = true := congrArg TaskPhase.returns phase
    simp only [wake, phase] at stepped
    split at stepped
    · cases stepped
      exact goes _ awake
    · cases stepped
      exact goes _ awake
  | checked =>
    have awake : task.phase.returns = true := congrArg TaskPhase.returns phase
    simp only [wake, phase] at stepped
    split at stepped
    · cases stepped
      exact goes _ awake
    · split at stepped
      · cases stepped
        exact goes _ awake
      · cases stepped
        exact goes _ awake
  | acting =>
    have awake : task.phase.returns = true := congrArg TaskPhase.returns phase
    simp only [wake, phase] at stepped
    cases outcome with
    | goesOn =>
      cases stepped
      exact goes _ awake
    | ends =>
      simp only at stepped
      split at stepped
      · cases stepped
        exact goes _ awake
      · cases stepped
    | finds =>
      simp only at stepped
      split at stepped
      · cases stepped
        exact goes _ awake
      · cases stepped
  | clearing =>
    simp only [wake, phase] at stepped
    cases stepped
    have ended : Single (state.put index task .ended) :=
      single_put found (fun returns => by cases returns) single
    exact ended.imp superseded_clear
  | ended =>
    simp only [wake, phase] at stepped
    cases stepped

/-- Each step keeps at most one task of each kind exactly if the number that it gives is fresh. -/
theorem taskStep_single_iff {action : TaskAction} (single : Single state)
    (stepped : taskStep state action = some next) : Fresh state action ↔ Single next := by
  cases action with
  | reload config started =>
    rw [taskStep] at stepped
    split at stepped
    · cases stepped
      exact ⟨fun _ => single, fun _ => trivial⟩
    · cases stepped
  | reloadJob =>
    rw [taskStep] at stepped
    cases jobs : state.reload with
    | nil =>
      simp only [jobs] at stepped
      cases stepped
    | cons job rest =>
      simp only [jobs] at stepped
      cases stepped
      rw [Fresh, jobs]
      refine Iff.trans ?_ (perform_single_iff single)
      constructor
      · intro fresh
        exact fresh job rfl
      · intro fresh other same
        cases same
        exact fresh
  | restarted server =>
    rw [taskStep] at stepped
    split at stepped
    · cases stepped
    · split at stepped
      · cases stepped
        exact ⟨fun _ => single, fun _ => trivial⟩
      · cases stepped
  | job index =>
    rw [taskStep] at stepped
    split at stepped
    · rename_i job rest found
      cases stepped
      rw [Fresh, found]
      refine Iff.trans ?_ (perform_single_iff single)
      constructor
      · intro fresh
        exact fresh (job :: rest) rfl job rfl
      · intro fresh jobs same other first
        cases same
        cases first
        exact fresh
    · cases stepped
  | wake index outcome =>
    obtain ⟨task, found, woke⟩ := Option.bind_eq_some_iff.mp stepped
    exact ⟨fun _ => single_wake found single woke, fun _ => trivial⟩

/-- A step that is refused gives no number. -/
theorem fresh_of_refused {action : TaskAction} (refused : taskStep state action = none) :
    Fresh state action := by
  cases action with
  | reload config started => trivial
  | reloadJob =>
    rw [taskStep] at refused
    cases jobs : state.reload with
    | nil =>
      rw [Fresh, jobs]
      exact nofun
    | cons job rest =>
      simp only [jobs] at refused
      cases refused
  | restarted server => trivial
  | job index =>
    rw [taskStep] at refused
    rw [Fresh]
    intro jobs found job first
    cases jobs with
    | nil => cases first
    | cons head rest =>
      rw [Option.mem_def] at found
      simp only [found] at refused
      cases refused
  | wake index outcome => trivial

end Steps

/-! ### Every run -/

/-- For any reloads, restarts and order in which the tasks wake: in every state of the run, no task
of a kind and server passes its check once a newer one was spawned, exactly if each number that is
given is not one that an older task still carries. -/
theorem tasks_single_iff (config : Config) (trace : List TaskAction) :
    (∀ front final, front <+: trace →
      Runs.exec taskStep (Supervision.start config) front = some final → Single final) ↔
      Runs.Admitted taskStep Fresh (Supervision.start config) trace := by
  symm
  apply Runs.admitted_iff
  · intro state action next single stepped
    exact taskStep_single_iff single stepped
  · intro state action refused
    exact fresh_of_refused refused
  · exact List.Pairwise.nil

/-- The server is removed and added again. -/
def addedAgain : List TaskAction :=
  [.job 0, .job 0,
    .reload { oneServer gitServer with servers := [], serversDistinct := List.nodup_nil } [],
    .reloadJob, .reloadJob, .reloadJob,
    .reload (oneServer gitServer) [("git", gitServer)], .reloadJob, .reloadJob, .reloadJob]

/-- The task of the server's first time sleeps through its removal, and carries the number that the
task of its second time is given: both pass their check. -/
theorem two_tasks :
    ¬ ∀ (trace : List TaskAction) (final : Supervision),
      Runs.exec taskStep (Supervision.start (oneServer gitServer)) trace = some final →
      Single final := by
  intro single
  have outcome : (Runs.exec taskStep (Supervision.start (oneServer gitServer)) addedAgain).map
      (fun state => decide (Single state)) = some false := by
    decide +kernel
  obtain ⟨final, ran, several⟩ := Option.map_eq_some_iff.mp outcome
  exact of_decide_eq_false several (single addedAgain final ran)

end Plug.Background
