import Plug.ClientRegistry

/-!
# The grace period of the daemon

A task waits for the number of registered clients to change, counts down when it is zero, and ends
the daemon when the countdown expires and no HTTP session is open either; while there is one it
looks again at intervals. The channel keeps only the latest number, and reports any number of
changes as one. Every read of a number is a step of its own. How long a timer runs is left out: a
timer that is pending may expire at any time.
-/

namespace Plug.GracePeriod

/-- Where the task is. -/
inductive Task where
  /-- It waits for a change and nothing else. -/
  | waiting
  /-- It was woken by a change, and is to read the number. -/
  | woken
  /-- The grace period runs; a change wakes it too. -/
  | counting
  /-- A change woke it from the countdown. -/
  | interrupted
  /-- The grace period has expired. -/
  | expired
  | httpRead (httpSessionCount : Nat)
  /-- It is to read the number of clients once more. -/
  | httpReadAgain (httpSessionCount : Nat)
  /-- The interval to the next look runs; a change wakes it too. -/
  | rechecking
  | recheckWoken
  | recheckExpired
  | recheckRead (count : Nat)
  /-- It has cancelled the daemon, having read these numbers. -/
  | cancelled (count httpSessionCount : Nat)
  | ended
deriving DecidableEq

def Task.timerPending : Task → Bool
  | .counting | .rechecking => true
  | _ => false

/-- It waits, for whatever it may be. -/
def Task.rests : Task → Bool
  | .waiting | .counting | .rechecking => true
  | _ => false

/-- `published` counts the changes that were published, `seen` those that the task has consumed.
`httpSessions` is none in a daemon that serves no HTTP. -/
structure State where
  registry : Registry.State
  published : Nat
  seen : Nat
  httpSessions : Option Nat
  task : Task
deriving DecidableEq

def State.new (httpSessions : Option Nat) : State := ⟨.new, 0, 0, httpSessions, .waiting⟩

/-- What the channel holds. -/
def State.count (state : State) : Nat := state.registry.count

def State.httpSessionCount (state : State) : Nat := state.httpSessions.getD 0

inductive Act where
  | registry (act : Registry.Act)
  /-- The number of HTTP sessions changes. -/
  | http (sessions : Nat)
  /-- `changed` returns. -/
  | wake
  | expire
  /-- The task goes on to its next read. -/
  | advance
  | graceCancelled
  | senderDropped
deriving DecidableEq

/-- The two places where the registry sends the number of sessions. -/
def publishes : Registry.Act → Bool
  | .advance (.registered _ _) | .advance (.deregistered _) => true
  | _ => false

def step (state : State) : Act → Option State
  | .registry act =>
    (Registry.step state.registry act).map fun next =>
      { state with
        registry := next
        published := if publishes act then state.published + 1 else state.published }
  | .http sessions => some { state with httpSessions := state.httpSessions.map fun _ => sessions }
  | .wake =>
    if state.seen = state.published then none
    else
      match state.task with
      | .waiting => some { state with seen := state.published, task := .woken }
      | .counting => some { state with seen := state.published, task := .interrupted }
      | .rechecking => some { state with seen := state.published, task := .recheckWoken }
      | _ => none
  | .expire =>
    match state.task with
    | .counting => some { state with task := .expired }
    | .rechecking => some { state with task := .recheckExpired }
    | _ => none
  | .advance =>
    match state.task with
    | .woken => some { state with task := if state.count = 0 then .counting else .waiting }
    | .interrupted => some { state with task := .waiting }
    | .expired => some { state with task := .httpRead state.httpSessionCount }
    | .httpRead sessions =>
      some { state with
        task := if state.count = 0 ∧ sessions = 0 then .cancelled state.count sessions
          else .httpReadAgain sessions }
    | .httpReadAgain sessions =>
      some { state with task := if state.count = 0 ∧ 0 < sessions then .rechecking else .waiting }
    | .recheckWoken =>
      some { state with task := if 0 < state.count then .waiting else .rechecking }
    | .recheckExpired =>
      some { state with task := if 0 < state.count then .waiting else .recheckRead state.count }
    | .recheckRead count =>
      some { state with
        task := if state.httpSessionCount = 0 then .cancelled count state.httpSessionCount
          else .rechecking }
    | _ => none
  | .graceCancelled =>
    match state.task with
    | .counting | .rechecking => some { state with task := .ended }
    | _ => none
  | .senderDropped =>
    match state.task with
    | .waiting | .counting | .rechecking => some { state with task := .ended }
    | _ => none

/-- With no client connected, and all changes consumed, a task that rests has a timer. -/
def CountsDown (state : State) : Prop :=
  state.count = 0 → 0 < state.published → state.seen = state.published →
    state.task.rests = true → state.task.timerPending = true

/-- A countdown that a change has interrupted finds a client, or a change that it has not
consumed. -/
def Resumed (state : State) : Act → Prop
  | .advance => state.task = .interrupted → 0 < state.count ∨ state.seen < state.published
  | _ => True

/-! ### What a run keeps -/

/-- The number has not come to zero since the task read it, or the change is still to be consumed. -/
def Noticed (state : State) : Prop := 0 < state.count ∨ state.seen < state.published

/-- `waits`: a task that only waits has something to wait for. `again`: nor does it go back to
waiting when both numbers change as it reads them. -/
structure Watchful (state : State) : Prop where
  behind : state.seen ≤ state.published
  started : state.task ≠ .waiting ∧ state.task ≠ .ended → 0 < state.published
  waits : state.task = .waiting → 0 < state.published → Noticed state
  again : state.task = .httpReadAgain 0 → Noticed state

/-- The numbers that the task has read, when it cancels the daemon or is about to. -/
structure Checked (task : Task) : Prop where
  recheck : ∀ count, task = .recheckRead count → count = 0
  cancelled : ∀ count sessions, task = .cancelled count sessions → count = 0 ∧ sessions = 0

theorem watchful_new (httpSessions : Option Nat) : Watchful (.new httpSessions) :=
  ⟨Nat.le_refl 0, fun other => absurd rfl other.1, nofun, nofun⟩

section Steps

variable {state next : State} {act : Act}

/-- The number changes only when it is published. -/
theorem registry_count {registry after : Registry.State} {act : Registry.Act}
    (silent : publishes act = false) (stepped : Registry.step registry act = some after) :
    after.count = registry.count := by
  cases act with
  | register client session =>
    rw [Registry.step] at stepped
    split at stepped
    · cases stepped
    · exact Option.some.inj stepped ▸ rfl
  | deregister session =>
    rw [Registry.step] at stepped
    split at stepped
    · exact Option.some.inj stepped ▸ rfl
    · cases stepped
  | advance call =>
    rw [Registry.step] at stepped
    split at stepped
    · cases stepped
      cases call with
      | registered client session => cases silent
      | deregistered session => cases silent
      | removing session =>
        rw [Registry.State.advance]
        split <;> rfl
      | _ => rfl
    · cases stepped

theorem Watchful.countsDown (watchful : Watchful state) : CountsDown state := by
  intro none published consumed rests
  cases task : state.task with
  | waiting =>
    obtain connected | unseen := watchful.waits task published
    · omega
    · omega
  | counting => rfl
  | rechecking => rfl
  | _ =>
    rw [task] at rests
    cases rests

/-- The task stays where it is, and so does what it has noticed. -/
theorem Watchful.stays (watchful : Watchful state) (task : next.task = state.task)
    (seen : next.seen = state.seen) (published : state.published ≤ next.published)
    (noticed : Noticed state → Noticed next)
    (begins : state.published < next.published → Noticed next) : Watchful next where
  behind := seen ▸ Nat.le_trans watchful.behind published
  started other := Nat.lt_of_lt_of_le (watchful.started (task ▸ other)) published
  waits here positive := by
    by_cases same : state.published = next.published
    · exact noticed (watchful.waits (task ▸ here) (same ▸ positive))
    · exact begins (by omega)
  again here := noticed (watchful.again (task ▸ here))

/-- The task goes somewhere else, where it does not wait for a change alone. -/
theorem Watchful.goes (watchful : Watchful state) (away : state.task ≠ .waiting ∧ state.task ≠ .ended) {task : Task}
    (waits : task = .waiting → Noticed state) (again : task = .httpReadAgain 0 → Noticed state) :
    Watchful { state with task := task } where
  behind := watchful.behind
  started _ := watchful.started away
  waits here _ := waits here
  again := again

theorem advance_watchful (watchful : Watchful state) (resumed : Resumed state .advance)
    (stepped : step state .advance = some next) : Watchful next := by
  simp only [step] at stepped
  split at stepped
  · rename_i task
    cases stepped
    refine watchful.goes (task ▸ ⟨nofun, nofun⟩) ?_ ?_
    · intro here
      split at here
      · cases here
      · exact Or.inl (by omega)
    · intro here
      split at here <;> cases here
  · rename_i task
    cases stepped
    exact watchful.goes (task ▸ ⟨nofun, nofun⟩) (fun _ => resumed task) nofun
  · rename_i task
    cases stepped
    exact watchful.goes (task ▸ ⟨nofun, nofun⟩) nofun nofun
  · rename_i sessions task
    cases stepped
    refine watchful.goes (task ▸ ⟨nofun, nofun⟩) ?_ ?_
    · intro here
      split at here <;> cases here
    · intro here
      split at here
      · cases here
      · cases here
        exact Or.inl (by omega)
  · rename_i sessions task
    cases stepped
    refine watchful.goes (task ▸ ⟨nofun, nofun⟩) ?_ ?_
    · intro here
      split at here
      · cases here
      · rename_i other
        by_cases connected : 0 < state.count
        · exact Or.inl connected
        · have none : sessions = 0 := by omega
          exact watchful.again (none ▸ task)
    · intro here
      split at here <;> cases here
  · rename_i task
    cases stepped
    refine watchful.goes (task ▸ ⟨nofun, nofun⟩) ?_ ?_
    · intro here
      split at here
      · rename_i connected
        exact Or.inl connected
      · cases here
    · intro here
      split at here <;> cases here
  · rename_i task
    cases stepped
    refine watchful.goes (task ▸ ⟨nofun, nofun⟩) ?_ ?_
    · intro here
      split at here
      · rename_i connected
        exact Or.inl connected
      · cases here
    · intro here
      split at here <;> cases here
  · rename_i count task
    cases stepped
    refine watchful.goes (task ▸ ⟨nofun, nofun⟩) ?_ ?_
    · intro here
      split at here <;> cases here
    · intro here
      split at here <;> cases here
  · cases stepped

theorem watchful_step (watchful : Watchful state) (resumed : Resumed state act)
    (stepped : step state act = some next) : Watchful next := by
  cases act with
  | registry act =>
    obtain ⟨after, moved, rfl⟩ := Option.map_eq_some_iff.mp stepped
    cases silent : publishes act with
    | false =>
      have same := registry_count silent moved
      refine watchful.stays rfl rfl (Nat.le_refl _) ?_ fun later => absurd later (Nat.lt_irrefl _)
      rintro (connected | unseen)
      · left
        show 0 < after.count
        rw [same]
        exact connected
      · exact Or.inr unseen
    | true =>
      have unseen : state.seen < state.published + 1 := Nat.lt_succ_of_le watchful.behind
      exact watchful.stays rfl rfl (Nat.le_succ _) (fun _ => Or.inr unseen) fun _ => Or.inr unseen
  | http sessions =>
    cases stepped
    exact watchful.stays rfl rfl (Nat.le_refl _) (fun noticed => noticed)
      fun later => absurd later (Nat.lt_irrefl _)
  | wake =>
    rw [step] at stepped
    split at stepped
    · cases stepped
    · rename_i unseen
      have started : 0 < state.published := by
        have behind := watchful.behind
        omega
      split at stepped
      all_goals first | cases stepped; done | cases stepped
      all_goals exact ⟨Nat.le_refl _, fun _ => started, nofun, nofun⟩
  | expire =>
    rw [step] at stepped
    split at stepped
    · rename_i task
      cases stepped
      exact watchful.goes (task ▸ ⟨nofun, nofun⟩) nofun nofun
    · rename_i task
      cases stepped
      exact watchful.goes (task ▸ ⟨nofun, nofun⟩) nofun nofun
    · cases stepped
  | advance => exact advance_watchful watchful resumed stepped
  | graceCancelled =>
    rw [step] at stepped
    split at stepped
    · rename_i task
      cases stepped
      exact watchful.goes (task ▸ ⟨nofun, nofun⟩) nofun nofun
    · rename_i task
      cases stepped
      exact watchful.goes (task ▸ ⟨nofun, nofun⟩) nofun nofun
    · cases stepped
  | senderDropped =>
    rw [step] at stepped
    split at stepped
    all_goals first | cases stepped; done | cases stepped
    all_goals exact ⟨watchful.behind, fun away => absurd rfl away.2, nofun, nofun⟩

/-- A task that goes back to waiting from the countdown, with nothing to wait for, is seen there. -/
theorem resumed_of_countsDown (watchful : Watchful state) (stepped : step state act = some next)
    (counts : CountsDown next) : Resumed state act := by
  cases act with
  | advance =>
    intro task
    rw [step, task] at stepped
    cases stepped
    have positive : 0 < state.published := watchful.started (task ▸ ⟨nofun, nofun⟩)
    have behind := watchful.behind
    by_contra idle
    have none : state.count = 0 := by omega
    have consumed : state.seen = state.published := by omega
    cases counts none positive consumed rfl
  | _ => trivial

theorem resumed_of_refused (refused : step state act = none) : Resumed state act := by
  cases act with
  | advance =>
    intro task
    rw [step, task] at refused
    cases refused
  | _ => trivial

/-- What the task has read is zero before it cancels. -/
theorem checked_step (checked : Checked state.task) (stepped : step state act = some next) :
    Checked next.task := by
  cases act with
  | advance =>
    simp only [step] at stepped
    split at stepped
    · cases stepped
      exact ⟨fun _ here => (by split at here <;> cases here),
        fun _ _ here => (by split at here <;> cases here)⟩
    · cases stepped
      exact ⟨nofun, nofun⟩
    · cases stepped
      exact ⟨nofun, nofun⟩
    · cases stepped
      refine ⟨fun _ here => (by split at here <;> cases here), ?_⟩
      intro count sessions here
      split at here
      · rename_i both
        obtain ⟨rfl, rfl⟩ := Task.cancelled.inj here
        exact both
      · cases here
    · cases stepped
      exact ⟨fun _ here => (by split at here <;> cases here),
        fun _ _ here => (by split at here <;> cases here)⟩
    · cases stepped
      exact ⟨fun _ here => (by split at here <;> cases here),
        fun _ _ here => (by split at here <;> cases here)⟩
    · cases stepped
      refine ⟨?_, fun _ _ here => (by split at here <;> cases here)⟩
      intro count here
      split at here
      · cases here
      · rename_i none
        cases here
        omega
    · rename_i count task
      cases stepped
      refine ⟨fun _ here => (by split at here <;> cases here), ?_⟩
      intro other sessions here
      split at here
      · rename_i none
        obtain ⟨rfl, rfl⟩ := Task.cancelled.inj here
        exact ⟨checked.recheck _ task, none⟩
      · cases here
    · cases stepped
  | registry act =>
    obtain ⟨after, -, rfl⟩ := Option.map_eq_some_iff.mp stepped
    exact checked
  | http sessions =>
    cases stepped
    exact checked
  | wake =>
    rw [step] at stepped
    split at stepped
    · cases stepped
    · split at stepped
      all_goals first | cases stepped; done | cases stepped
      all_goals exact ⟨nofun, nofun⟩
  | _ =>
    rw [step] at stepped
    split at stepped
    all_goals first | cases stepped; done | cases stepped
    all_goals exact ⟨nofun, nofun⟩

end Steps

/-- In every run the daemon is cancelled only when both numbers were read as zero. And in every
state with no client connected a task that rests, all changes consumed, has a timer, exactly if a
countdown that is interrupted always finds a client or a further change. -/
theorem countdown_iff (httpSessions : Option Nat) (trace : List Act) :
    (Runs.Admitted step Resumed (.new httpSessions) trace ↔
      ∀ front final, front <+: trace → Runs.exec step (.new httpSessions) front = some final →
        CountsDown final) ∧
    ∀ final count sessions, Runs.exec step (.new httpSessions) trace = some final →
      final.task = .cancelled count sessions → count = 0 ∧ sessions = 0 := by
  constructor
  · exact Runs.admitted_iff_seen
      (fun _ _ _ resumed watchful stepped => watchful_step watchful resumed stepped)
      (fun _ _ _ watchful stepped counts => resumed_of_countsDown watchful stepped counts)
      (fun _ watchful => watchful.countsDown) (fun _ _ refused => resumed_of_refused refused)
      trace (.new httpSessions) (watchful_new httpSessions)
  · intro final count sessions ran cancelled
    have checked : Checked final.task :=
      Runs.exec_invariant step (fun _ _ => True) (fun state => Checked state.task)
        (fun _ _ _ _ checked stepped => checked_step checked stepped) trace (.new httpSessions) final
        ⟨nofun, nofun⟩ (Runs.Admitted.of_forall (fun _ _ => trivial) _) ran
    exact checked.cancelled count sessions cancelled

/-- A client comes and goes, and during the grace period another one does, before the task gets to
run. -/
def cameAndWent : List Act :=
  [.registry (.register "editor" "a"), .registry (.advance (.mapping "editor" "a")),
    .registry (.advance (.adding "editor" "a")), .registry (.advance (.registered "editor" "a")),
    .wake, .advance,
    .registry (.deregister "a"), .registry (.advance (.removing "a")),
    .registry (.advance (.checking "a" "editor")), .registry (.advance (.unmapping "a" "editor")),
    .registry (.advance (.deregistered "a")), .wake, .advance,
    .registry (.register "editor" "b"), .registry (.advance (.mapping "editor" "b")),
    .registry (.advance (.adding "editor" "b")), .registry (.advance (.registered "editor" "b")),
    .registry (.deregister "b"), .registry (.advance (.removing "b")),
    .registry (.advance (.checking "b" "editor")), .registry (.advance (.unmapping "b" "editor")),
    .registry (.advance (.deregistered "b")), .wake, .advance]

/-- No one is connected, nothing is left to be consumed, and the task only waits for a change. -/
theorem waits_for_ever : ∃ final, Runs.exec step (.new none) cameAndWent = some final ∧
    final.count = 0 ∧ final.published = 4 ∧ final.seen = 4 ∧ final.task = .waiting := by
  have shown : ((Runs.exec step (.new none) cameAndWent).map fun final =>
      (final.count, final.published, final.seen, final.task)) = some (0, 4, 4, .waiting) := by
    decide +kernel
  obtain ⟨final, ran, seen⟩ := Option.map_eq_some_iff.mp shown
  simp only [Prod.mk.injEq] at seen
  exact ⟨final, ran, seen⟩

end Plug.GracePeriod
