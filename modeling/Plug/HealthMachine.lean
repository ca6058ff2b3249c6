import Plug.HealthStates

/-!
# The documented machine of a server's health

Three failures in a row take a healthy server to degraded, three more to failed, and one success
takes it a step back. The code has one count for both, which starts again at zero when a success
takes a failed server back to degraded; from there it takes six failures.
-/

namespace Plug.Health

/-- The outcome is recorded; the flag says whether the health changed. -/
def HealthState.recordReporting (state : HealthState) (success : Bool) : Bool × HealthState :=
  (decide (state.health ≠ (state.record success).health), state.record success)

/-- How a state of health begins. -/
inductive Start where
  | new
  | startFailure
deriving DecidableEq

def Start.state : Start → HealthState
  | .new => .new
  | .startFailure => ⟨.failed, 6⟩

def HealthState.run (state : HealthState) (outcomes : List Bool) : HealthState :=
  outcomes.foldl (fun state success => (state.recordReporting success).2) state

/-- The machine as it is documented: the failures in a row are counted anew in each state. -/
inductive Documented where
  | healthy (failures : Fin 3)
  | degraded (failures : Fin 3)
  | failed
deriving DecidableEq

namespace Documented

def health : Documented → ServerHealth
  | .healthy _ => .healthy
  | .degraded _ => .degraded
  | .failed => .failed

def start : Start → Documented
  | .new => .healthy 0
  | .startFailure => .failed

/-- The third failure in a row leads on. -/
def record : Documented → Bool → Documented
  | .healthy _, true => .healthy 0
  | .degraded _, true => .healthy 0
  | .failed, true => .degraded 0
  | .healthy failures, false =>
    if more : failures.val + 1 < 3 then .healthy ⟨failures.val + 1, more⟩ else .degraded 0
  | .degraded failures, false =>
    if more : failures.val + 1 < 3 then .degraded ⟨failures.val + 1, more⟩ else .failed
  | .failed, false => .failed

def run (state : Documented) (outcomes : List Bool) : Documented :=
  outcomes.foldl record state

end Documented

/-- In degraded the count goes on from three after healthy, and begins at zero after failed. -/
def Agrees (state : HealthState) : Documented → Prop
  | .healthy failures => state.health = .healthy ∧ state.consecutiveFailures = failures
  | .degraded failures => state.health = .degraded ∧
      (state.consecutiveFailures = 3 + failures ∨ state.consecutiveFailures = failures)
  | .failed => state.health = .failed

theorem Agrees.health {state : HealthState} {documented : Documented}
    (agrees : Agrees state documented) : state.health = documented.health := by
  cases documented with
  | healthy failures => exact agrees.1
  | degraded failures => exact agrees.1
  | failed => exact agrees

theorem agrees_start (start : Start) : Agrees start.state (.start start) := by
  cases start with
  | new => exact ⟨rfl, rfl⟩
  | startFailure => rfl

/-- Three failures have followed the success that left failed. -/
def Misses (state : HealthState) (success : Bool) : Prop :=
  state = ⟨.degraded, 2⟩ ∧ success = false

theorem agrees_success {state : HealthState} {documented : Documented}
    (agrees : Agrees state documented) :
    Agrees (state.record true) (documented.record true) := by
  cases documented with
  | healthy failures => exact ⟨by simp [HealthState.record, HealthState.recordSuccess, agrees.1], rfl⟩
  | degraded failures => exact ⟨by simp [HealthState.record, HealthState.recordSuccess, agrees.1], rfl⟩
  | failed =>
    have failed : state.health = .failed := agrees
    exact ⟨by simp [HealthState.record, HealthState.recordSuccess, failed], Or.inr rfl⟩

/-- A failure is recorded as documented exactly if it is not the third one after failed was
left. -/
theorem agrees_failure {state : HealthState} {documented : Documented}
    (agrees : Agrees state documented) :
    (¬ Misses state false → Agrees (state.record false) (documented.record false)) ∧
      (Misses state false → (state.record false).health ≠ (documented.record false).health) := by
  obtain ⟨health, count⟩ := state
  cases documented with
  | healthy failures =>
    obtain ⟨rfl, rfl⟩ : health = .healthy ∧ count = failures := agrees
    refine ⟨fun _ => ?_, fun misses => ?_⟩
    swap
    · cases (HealthState.mk.inj misses.1).1
    have small := failures.isLt
    have word : (failures.val + 1) % 4294967296 = failures.val + 1 := Nat.mod_eq_of_lt (by omega)
    by_cases more : failures.val + 1 < 3
    · simp only [Documented.record, dif_pos more, HealthState.record, HealthState.recordFailure,
        Bool.false_eq_true, if_false, word, Agrees, if_neg (Nat.not_le_of_lt more), and_self]
    · have third : failures.val = 2 := by omega
      simp [Documented.record, HealthState.record, HealthState.recordFailure, Agrees, third]
  | degraded failures =>
    obtain ⟨rfl, counted⟩ : health = .degraded ∧ (count = 3 + failures ∨ count = failures) := agrees
    have small := failures.isLt
    have word : (count + 1) % 4294967296 = count + 1 := Nat.mod_eq_of_lt (by omega)
    have after : (HealthState.mk .degraded count).record false =
        ⟨if 6 ≤ count + 1 then .failed else .degraded, count + 1⟩ := by
      simp only [HealthState.record, HealthState.recordFailure, Bool.false_eq_true, if_false, word]
    by_cases more : failures.val + 1 < 3
    · refine ⟨fun _ => ?_, fun misses => ?_⟩
      · rw [after, Documented.record, dif_pos more, if_neg (by omega)]
        have next : count + 1 = 3 + (failures.val + 1) ∨ count + 1 = failures.val + 1 := by omega
        exact ⟨rfl, next⟩
      · obtain ⟨same, -⟩ := misses
        have two : count = 2 := (HealthState.mk.inj same).2
        omega
    · rw [after, Documented.record, dif_neg more]
      obtain high | low := counted
      · refine ⟨fun _ => if_pos (by omega), fun misses => ?_⟩
        have two : count = 2 := (HealthState.mk.inj misses.1).2
        omega
      · have two : count = 2 := by omega
        refine ⟨fun kept => absurd ⟨by rw [two], rfl⟩ kept, fun _ => ?_⟩
        rw [if_neg (by omega)]
        intro same
        cases same
  | failed =>
    obtain rfl : health = .failed := agrees
    refine ⟨fun _ => rfl, fun misses => ?_⟩
    cases (HealthState.mk.inj misses.1).1

/-- The health is the documented one, in every state, exactly if no failure is recorded as the
third one in a row after the success that left failed. -/
theorem health_run_iff (outcomes : List Bool) (state : HealthState) (documented : Documented)
    (agrees : Agrees state documented) :
    (∀ front, front <+: outcomes → (state.run front).health = (documented.run front).health) ↔
      ∀ front success, front ++ [success] <+: outcomes → ¬ Misses (state.run front) success := by
  induction outcomes generalizing state documented with
  | nil =>
    constructor
    · intro _ front success starts
      exact absurd (List.prefix_nil.mp starts) (List.append_ne_nil_of_right_ne_nil _ nofun)
    · intro _ front starts
      rw [List.prefix_nil.mp starts]
      exact agrees.health
  | cons first rest ih =>
    have next : ¬ Misses state first → Agrees (state.record first) (documented.record first) := by
      intro kept
      cases first with
      | true => exact agrees_success agrees
      | false => exact (agrees_failure agrees).1 kept
    constructor
    · intro all
      have kept : ¬ Misses state first := by
        intro misses
        have failure : first = false := misses.2
        subst failure
        exact (agrees_failure agrees).2 misses (all [false] (List.prefix_cons_inj false |>.mpr
          List.nil_prefix))
      have later := (ih _ _ (next kept)).mp fun front starts =>
        all (first :: front) ((List.prefix_cons_inj first).mpr starts)
      intro front success starts
      cases front with
      | nil =>
        obtain ⟨rfl, -⟩ := List.cons_prefix_cons.mp starts
        exact kept
      | cons head tail =>
        obtain ⟨rfl, onwards⟩ := List.cons_prefix_cons.mp starts
        exact later tail success onwards
    · intro all front starts
      have kept : ¬ Misses state first :=
        all [] first ((List.prefix_cons_inj first).mpr List.nil_prefix)
      cases front with
      | nil => exact agrees.health
      | cons head tail =>
        obtain ⟨rfl, onwards⟩ := List.cons_prefix_cons.mp starts
        refine (ih _ _ (next kept)).mpr ?_ tail onwards
        intro front success starts
        exact all (head :: front) success ((List.prefix_cons_inj head).mpr starts)

/-- From either start, after any outcomes, the health is the documented one exactly if no failure
is the third one in a row after the success that left failed; and what is reported is always
whether the health changed. -/
theorem documented_iff (start : Start) (outcomes : List Bool) :
    ((∀ front, front <+: outcomes →
        (start.state.run front).health = ((Documented.start start).run front).health) ↔
      ∀ front success, front ++ [success] <+: outcomes →
        ¬ Misses (start.state.run front) success) ∧
    ∀ state : HealthState, ∀ success, (state.recordReporting success).1 = true ↔
      (state.recordReporting success).2.health ≠ state.health := by
  refine ⟨health_run_iff outcomes start.state (.start start) (agrees_start start), ?_⟩
  intro state success
  exact decide_eq_true_iff.trans ne_comm

/-- A server that failed to start answers once and then fails three times. -/
theorem degraded_again :
    (Start.startFailure.state.run [true, false, false, false]).health = .degraded ∧
      ((Documented.start .startFailure).run [true, false, false, false]).health = .failed := by
  decide

end Plug.Health
