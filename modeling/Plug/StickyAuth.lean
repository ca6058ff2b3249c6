import Plug.HealthStates

/-!
# A mark that asks for a sign-in

Once a server is marked as one that needs the owner to sign in, recording a probe leaves the mark,
and so does everything that does not write the state of health outright. Only the mark of a failed
start takes it away before a fresh connection or a stop does.
-/

namespace Plug.Health

section Writes

variable {manager next : Manager} {name : String}

theorem marked_iff : Marked name manager ↔
    ∃ state, manager.health name = some state ∧ state.health = .authRequired := by
  rw [Marked, isHealth, Option.any_eq_true]
  constructor
  · rintro ⟨state, found, same⟩
    exact ⟨state, found, eq_of_beq same⟩
  · rintro ⟨state, found, same⟩
    exact ⟨state, found, beq_iff_eq.mpr same⟩

theorem marked_congr (same : next.health name = manager.health name)
    (marked : Marked name manager) : Marked name next := by
  rw [marked_iff] at marked ⊢
  rw [same]
  exact marked

@[simp] theorem triggerRecovery_health (manager : Manager) (other : String) :
    (triggerRecovery manager other).health = manager.health := by
  rw [triggerRecovery]
  split <;> rfl

theorem setHealth_self (manager : Manager) (other : String) (state : Option HealthState) :
    (manager.setHealth other state).health other = state := Function.update_self ..

/-- A write for another server. -/
theorem setHealth_of_ne {other : String} (apart : other ≠ name) (state : Option HealthState) :
    (manager.setHealth other state).health name = manager.health name :=
  Function.update_of_ne (fun same => apart same.symm) _ _

theorem not_marked_failure : ¬ Marked name (markStartFailure manager name) := by
  rw [marked_iff, markStartFailure, setHealth_self]
  rintro ⟨state, found, required⟩
  cases found
  cases required

theorem marked_authRequired (other : String) (marked : Marked name manager) :
    Marked name (markAuthRequired manager other) := by
  by_cases own : other = name
  · subst own
    rw [marked_iff, markAuthRequired, setHealth_self]
    exact ⟨_, rfl, rfl⟩
  · exact marked_congr (setHealth_of_ne own _) marked

theorem marked_recordProbe (other : String) (success : Bool) (marked : Marked name manager) :
    Marked name (recordProbe manager other success) := by
  by_cases own : other = name
  · subst own
    obtain ⟨state, found, required⟩ := marked_iff.mp marked
    rw [marked_iff, recordProbe, setHealth_self, found]
    exact ⟨_, rfl, (record_authRequired state success).mpr required⟩
  · exact marked_congr (setHealth_of_ne own _) marked

theorem marked_replaceServer {other : String} (apart : other ≠ name)
    (marked : Marked name manager) : Marked name (replaceServer manager other) :=
  marked_congr (Function.update_of_ne (fun same => apart same.symm) _ _) marked

end Writes

/-! ### Each step -/

section Steps

variable {manager next : Manager} {name : String} {index : Nat} {worker : Worker} {event : Event}

/-- The mark of a failed start takes the other mark away. -/
theorem not_marked_work (own : worker.server = name) (ended : worker.phase = .connectionEnded) :
    ¬ Marked name (work manager index worker event) := by
  subst own
  intro marked
  simp only [work, ended] at marked
  have failed : Marked worker.server
      (markStartFailure (manager.put index worker .due) worker.server) :=
    marked_congr (by rw [triggerRecovery_health]) marked
  exact not_marked_failure failed

/-- Nothing else that a worker does takes it away, short of a fresh connection. -/
theorem marked_work (marked : Marked name manager)
    (unended : worker.server = name → event ≠ .discarded →
      worker.phase ≠ .recovered ∧ worker.phase ≠ .reconnected)
    (spared : worker.server = name → worker.phase ≠ .connectionEnded) :
    Marked name (work manager index worker event) := by
  have moved : ∀ phase, Marked name (manager.put index worker phase) :=
    fun phase => marked_congr rfl marked
  have triggered : ∀ {other : Manager} (server : String), Marked name other →
      Marked name (triggerRecovery other server) :=
    fun server held => marked_congr (by rw [triggerRecovery_health]) held
  cases phase : worker.phase with
  | due =>
    simp only [work, phase]
    split
    · exact moved _
    · exact moved _
  | checked =>
    simp only [work, phase]
    exact moved _
  | seen missing =>
    simp only [work, phase]
    split
    · exact triggered _ (moved _)
    · exact moved _
  | reachable =>
    simp only [work, phase]
    split
    · exact moved _
    · exact moved _
  | connectionEnded =>
    simp only [work, phase]
    have apart : worker.server ≠ name := fun own => spared own phase
    exact triggered _ (marked_congr (setHealth_of_ne apart _) (moved .due))
  | probing =>
    simp only [work, phase]
    split
    · exact moved _
    · exact moved _
  | probed success =>
    simp only [work, phase]
    split
    · exact triggered _ (marked_recordProbe _ _ (moved _))
    · exact marked_recordProbe _ _ (moved _)
  | supervising =>
    simp only [work, phase]
    split
    · exact triggered _ (moved _)
    · exact moved _
  | recovering =>
    simp only [work, phase]
    split
    · exact moved _
    · split
      · exact moved _
      · exact moved _
  | recovered =>
    simp only [work, phase]
    split
    · exact moved _
    · rename_i kept
      exact marked_replaceServer (fun own => (unended own kept).1 phase) (moved _)
  | waiting =>
    simp only [work, phase]
    split
    · exact moved _
    · exact moved _
  | watching =>
    simp only [work, phase]
    split
    · exact moved _
    · split
      · exact moved _
      · split
        · exact moved _
        · exact marked
  | reconnecting =>
    simp only [work, phase]
    split
    · exact moved _
    · split
      · exact moved _
      · exact moved _
  | reconnected =>
    simp only [work, phase]
    split
    · exact moved _
    · rename_i kept
      exact marked_replaceServer (fun own => (unended own kept).2 phase) (moved _)
  | rejected =>
    simp only [work, phase]
    exact marked_authRequired _ (moved _)
  | finished =>
    simp only [work, phase]
    exact marked

/-- A step that ends nothing keeps the mark exactly if it does not mark a failed start. -/
theorem step_marked_iff {action : Action} (marked : Marked name manager)
    (unended : ends name manager action = false) (stepped : step manager action = some next) :
    marksFailure name manager action = false ↔ Marked name next := by
  cases action with
  | checkHealth server =>
    cases stepped
    exact ⟨fun _ => marked, fun _ => rfl⟩
  | refreshSignIn server =>
    cases stepped
    exact ⟨fun _ => marked, fun _ => rfl⟩
  | work index event =>
    obtain ⟨worker, found, rfl⟩ := Option.map_eq_some_iff.mp stepped
    rw [ends, found, Option.any_some] at unended
    rw [marksFailure, found, Option.any_some]
    constructor
    · intro spared
      apply marked_work marked
      · intro own kept
        simpa [own, kept] using unended
      · intro own ended
        simp [own, ended] at spared
    · intro kept
      rw [Bool.and_eq_false_iff]
      by_cases own : worker.server = name
      · right
        rw [beq_eq_false_iff_ne]
        intro ended
        exact not_marked_work own ended kept
      · left
        rw [beq_eq_false_iff_ne]
        exact own
  | replace server =>
    cases stepped
    have apart : server ≠ name := beq_eq_false_iff_ne.mp unended
    exact ⟨fun _ => marked_replaceServer apart marked, fun _ => rfl⟩
  | register server =>
    cases stepped
    have apart : server ≠ name := beq_eq_false_iff_ne.mp unended
    refine ⟨fun _ => ?_, fun _ => rfl⟩
    exact marked_congr (Function.update_of_ne (fun same => apart same.symm) _ _) marked
  | startFails server signIn =>
    cases stepped
    cases signIn with
    | true =>
      refine ⟨fun _ => marked_authRequired server marked, fun _ => ?_⟩
      rw [marksFailure, Bool.not_true, Bool.and_false]
    | false =>
      rw [marksFailure, Bool.not_false, Bool.and_true]
      constructor
      · intro apart
        exact marked_congr (setHealth_of_ne (beq_eq_false_iff_ne.mp apart) _) marked
      · intro kept
        rw [beq_eq_false_iff_ne]
        rintro rfl
        exact not_marked_failure kept
  | stop server =>
    cases stepped
    have apart : server ≠ name := beq_eq_false_iff_ne.mp unended
    refine ⟨fun _ => ?_, fun _ => rfl⟩
    exact marked_congr (Function.update_of_ne (fun same => apart same.symm) _ _) marked

/-- The step marks no failed start of a server that needs a sign-in. -/
def Spares (name : String) (manager : Manager) (action : Action) : Prop :=
  Marked name manager → marksFailure name manager action = false

theorem spares_of_ends {action : Action} (ended : ends name manager action = true) :
    marksFailure name manager action = false := by
  cases action with
  | work index event =>
    rw [ends, Option.any_eq_true] at ended
    obtain ⟨worker, found, connects⟩ := ended
    rw [marksFailure, found, Option.any_some]
    simp only [Bool.and_eq_true, Bool.or_eq_true, beq_iff_eq] at connects
    cases connects.2 with
    | inl recovered => rw [recovered]; exact Bool.and_false _
    | inr reconnected => rw [reconnected]; exact Bool.and_false _
  | startFails server signIn => cases ended
  | checkHealth server => rfl
  | refreshSignIn server => rfl
  | replace server => rfl
  | register server => rfl
  | stop server => rfl

end Steps

/-! ### Every run -/

/-- In every run, once a server is marked as one that needs a sign-in it stays so until a fresh
connection of it is put in place or it is stopped, exactly if no step marks a failed start of the
server while the mark is there. -/
theorem auth_required_sticky_iff (manager : Manager) (name : String) (trace : List Action) :
    (∀ front later middle final, front ++ later <+: trace →
        Runs.exec step manager front = some middle → Marked name middle →
        Runs.Admitted step (fun state action => ¬ ends name state action = true) middle later →
        Runs.exec step middle later = some final → Marked name final) ↔
      Runs.Admitted step (Spares name) manager trace := by
  apply Runs.lasts_iff
  · intro state action next marked unended stepped
    rw [Bool.not_eq_true] at unended
    rw [← step_marked_iff marked unended stepped]
    exact ⟨fun spares => spares marked, fun spared _ => spared⟩
  · intro state action spared marked
    rcases spared with unmarked | ended | refused
    · exact absurd marked unmarked
    · exact spares_of_ends ended
    · cases action with
      | work index event =>
        rw [step, Option.map_eq_none_iff] at refused
        rw [marksFailure, refused, Option.any_none]
      | checkHealth server => cases refused
      | refreshSignIn server => cases refused
      | replace server => cases refused
      | register server => cases refused
      | startFails server signIn => cases refused
      | stop server => cases refused

/-- A server that is connected, with the task that checks its health and the loop that refreshes its
sign-in. -/
def signedIn : Manager where
  health name := if name = "git" then some HealthState.new else none
  connected name := name == "git"
  workers := [⟨"git", .due⟩, ⟨"git", .watching⟩]

/-- The sign-in is rejected while the task finds that the connection has ended. -/
def rejectedDuringCheck : List Action :=
  [.work 0 .goesOn, .work 0 .goesOn, .work 0 .goesOn, .work 0 .ended, .work 1 .authError,
    .work 1 .goesOn]

/-- The task then marks the server as failed, and the other mark is gone. -/
theorem mark_lost :
    ¬ ∀ (front later : List Action) (middle final : Manager),
      Runs.exec step signedIn front = some middle → Marked "git" middle →
      Runs.Admitted step (fun state action => ¬ ends "git" state action = true) middle later →
      Runs.exec step middle later = some final → Marked "git" final := by
  intro sticky
  have outcome : (Runs.exec step signedIn rejectedDuringCheck).map
      (fun state => (state.health "git", state.workers[0]?)) =
        some (some ⟨.authRequired, 0⟩, some ⟨"git", .connectionEnded⟩) := by
    decide
  obtain ⟨middle, ran, same⟩ := Option.map_eq_some_iff.mp outcome
  obtain ⟨required, waiting⟩ := Prod.mk.inj same
  have marked : Marked "git" middle := marked_iff.mpr ⟨_, required, rfl⟩
  have unended : ¬ ends "git" middle (.work 0 .goesOn) = true := by
    rw [ends, waiting]
    decide
  have lost : ¬ Marked "git" (work middle 0 ⟨"git", .connectionEnded⟩ .goesOn) :=
    not_marked_work rfl rfl
  apply lost
  refine sticky rejectedDuringCheck [.work 0 .goesOn] middle _ ran marked
    ⟨unended, fun _ _ => trivial⟩ ?_
  · rw [Runs.exec, step, waiting]
    rfl

end Plug.Health
