import Mathlib.Data.List.Perm.Basic

/-!
# Runs with answers, and their keys

A step may fail; otherwise it gives an answer and the next state. Where each key has a part of the
state to itself, what a run answers under a key is what a run over that part answers to the inputs
of the key alone.
-/

namespace KeyedRuns

variable {Key State Own Input Output : Type}

/-- The answers to the inputs and the last state, unless a step fails. -/
def run (step : State → Input → Option (Output × State)) :
    State → List Input → Option (List Output × State)
  | state, [] => some ([], state)
  | state, input :: rest =>
    (step state input).bind fun (output, next) =>
      (run step next rest).map fun (outputs, final) => (output :: outputs, final)

section Runs

variable {step : State → Input → Option (Output × State)} {state final : State}
  {input : Input} {rest : List Input} {outputs : List Output}

theorem run_cons_iff : run step state (input :: rest) = some (outputs, final) ↔
    ∃ output next others, step state input = some (output, next) ∧
      run step next rest = some (others, final) ∧ outputs = output :: others := by
  simp only [run, Option.bind_eq_some_iff, Option.map_eq_some_iff, Prod.exists, Prod.mk.injEq]
  constructor
  · rintro ⟨output, next, stepped, others, _, ran, rfl, rfl⟩
    exact ⟨output, next, others, stepped, ran, rfl⟩
  · rintro ⟨output, next, others, stepped, ran, rfl⟩
    exact ⟨output, next, stepped, others, final, ran, rfl, rfl⟩

/-- Where an invariant makes every step succeed and is kept by it, runs succeed and keep it. -/
theorem run_total {Good : State → Prop}
    (steps : ∀ state input, Good state →
      ∃ output next, step state input = some (output, next) ∧ Good next)
    (good : Good state) (inputs : List Input) :
    ∃ outputs final, run step state inputs = some (outputs, final) ∧ Good final := by
  induction inputs generalizing state with
  | nil => exact ⟨[], state, rfl, good⟩
  | cons input inputs ih =>
    obtain ⟨output, next, stepped, kept⟩ := steps state input good
    obtain ⟨outputs, final, ran, last⟩ := ih kept
    exact ⟨output :: outputs, final, run_cons_iff.mpr ⟨output, next, outputs, stepped, ran, rfl⟩,
      last⟩

end Runs

/-! ### One key -/

variable [DecidableEq Key]

/-- The answers to the inputs of a key. -/
def answers (key : Key) : List (Key × Input) → List Output → List Output
  | input :: inputs, output :: outputs =>
    if input.1 = key then output :: answers key inputs outputs else answers key inputs outputs
  | _, _ => []

def inputsOf (key : Key) (inputs : List (Key × Input)) : List Input :=
  (inputs.filter fun input => input.1 = key).map Prod.snd

theorem inputsOf_cons (key : Key) (input : Key × Input) (inputs : List (Key × Input)) :
    inputsOf key (input :: inputs) =
      if input.1 = key then input.2 :: inputsOf key inputs else inputsOf key inputs := by
  by_cases mine : input.1 = key
  · simp [inputsOf, mine]
  · simp [inputsOf, mine]

/-- Each key has its own part of the state, which its inputs alone see and change. -/
structure Keyed (step : State → Key × Input → Option (Output × State))
    (part : Key → State → Own) (own : Own → Input → Option (Output × Own)) : Prop where
  same : ∀ {state key input output next}, step state (key, input) = some (output, next) →
    own (part key state) input = some (output, part key next)
  other : ∀ {state key input output next}, step state (key, input) = some (output, next) →
    ∀ other ≠ key, part other next = part other state

/-- A run as one key sees it. -/
theorem Keyed.projected {step : State → Key × Input → Option (Output × State)}
    {part : Key → State → Own} {own : Own → Input → Option (Output × Own)}
    (keyed : Keyed step part own) {state final : State} {inputs : List (Key × Input)}
    {outputs : List Output} (ran : run step state inputs = some (outputs, final)) (key : Key) :
    run own (part key state) (inputsOf key inputs) =
      some (answers key inputs outputs, part key final) := by
  induction inputs generalizing state outputs with
  | nil =>
    cases ran
    rfl
  | cons input inputs ih =>
    obtain ⟨output, next, others, stepped, later, rfl⟩ := run_cons_iff.mp ran
    have rest := ih later
    by_cases mine : input.1 = key
    · obtain rfl := mine
      rw [inputsOf_cons, if_pos rfl, answers, if_pos rfl]
      exact run_cons_iff.mpr ⟨output, _, _, keyed.same stepped, rest, rfl⟩
    · rw [keyed.other stepped key (Ne.symm mine)] at rest
      rw [inputsOf_cons, if_neg mine, answers, if_neg mine]
      exact rest

end KeyedRuns
