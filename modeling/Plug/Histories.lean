import Plug.Runs

/-!
# What happens between two events of a run

A system keeps a log, to which each step appends one event or none. An event of the final log
was then appended by one step of the run, which divides it: what the event established holds
until an event that ends it. `stopped_between` puts this as a statement about logs: if an event
establishes what another one excludes, then an event that ends it lies between them.
-/

namespace Histories

open Runs

universe u v w
variable {State : Type u} {Action : Type v} {Event : Type w}
  {step : State → Action → Option State} {log : State → List Event}
  {admits : State → Action → Prop} {state middle final : State}

/-- A step appends one event or none. -/
def Appends (step : State → Action → Option State) (log : State → List Event) : Prop :=
  ∀ state act next, step state act = some next →
    log next = log state ∨ ∃ event, log next = log state ++ [event]

variable {trace : List Action}

theorem grows (appends : Appends step log) (ran : exec step state trace = some final) :
    ∃ new, log final = log state ++ new := by
  induction trace generalizing state with
  | nil =>
    cases ran
    exact ⟨[], (List.append_nil _).symm⟩
  | cons act rest ih =>
    obtain ⟨next, stepped, continued⟩ := exec_cons step state final act rest ran
    obtain ⟨new, later⟩ := ih continued
    cases appends state act next stepped with
    | inl same => exact ⟨new, same ▸ later⟩
    | inr appended =>
      obtain ⟨event, same⟩ := appended
      exact ⟨event :: new, by rw [later, same, List.append_assoc, List.singleton_append]⟩

/-- The step that appended an event, and what ran before and after it. -/
theorem happened (appends : Appends step log) {before after : List Event} {event : Event}
    (ran : exec step state trace = some final)
    (split : log final = log state ++ before ++ event :: after) :
    ∃ first act rest middle next, trace = first ++ act :: rest ∧
      exec step state first = some middle ∧ step middle act = some next ∧
      log middle = log state ++ before ∧ log next = log middle ++ [event] ∧
      exec step next rest = some final := by
  induction trace generalizing state before with
  | nil =>
    cases ran
    simp at split
  | cons act rest ih =>
    obtain ⟨next, stepped, continued⟩ := exec_cons step state final act rest ran
    -- The run up to a later step starts with this one.
    have later {known : List Event} (same : log next ++ known = log state ++ before)
        (whole : log final = log next ++ known ++ event :: after) :
        ∃ first act' rest' middle next', act :: rest = first ++ act' :: rest' ∧
          exec step state first = some middle ∧ step middle act' = some next' ∧
          log middle = log state ++ before ∧ log next' = log middle ++ [event] ∧
          exec step next' rest' = some final := by
      obtain ⟨first, act', rest', middle, next', order, reached, taken, known', own, finished⟩ :=
        ih continued whole
      refine ⟨act :: first, act', rest', middle, next', by rw [order, List.cons_append], ?_, taken,
        known'.trans same, own, finished⟩
      simp only [exec, stepped, Option.bind_some, reached]
    cases appends state act next stepped with
    | inl same => exact @later before (by rw [same]) (by rw [same]; exact split)
    | inr appended =>
      obtain ⟨first, same⟩ := appended
      cases before with
      | nil =>
        obtain ⟨new, whole⟩ := grows appends continued
        rw [split, same, List.append_nil, List.append_assoc, List.append_cancel_left_eq,
          List.singleton_append, List.cons.injEq] at whole
        refine ⟨[], act, rest, state, next, rfl, rfl, stepped, (List.append_nil _).symm, ?_,
          continued⟩
        rw [same, whole.1]
      | cons other known =>
        obtain ⟨new, whole⟩ := grows appends continued
        have front : first = other := by
          rw [split, same, List.append_assoc, List.append_assoc, List.append_cancel_left_eq,
            List.cons_append, List.singleton_append, List.cons.injEq] at whole
          exact whole.1.symm
        subst front
        have moved : log next ++ known = log state ++ first :: known := by
          rw [same, List.append_assoc, List.singleton_append]
        exact @later known moved (by rw [moved]; exact split)

theorem exec_append (first rest : List Action) (state : State) :
    exec step state (first ++ rest) =
      (exec step state first).bind fun middle => exec step middle rest := by
  induction first generalizing state with
  | nil => rfl
  | cons act remaining ih =>
    simp only [List.cons_append, exec]
    cases step state act with
    | none => rfl
    | some next => exact ih next

theorem admitted_append {first rest : List Action}
    (admitted : Admitted step admits state (first ++ rest))
    (reached : exec step state first = some middle) :
    Admitted step admits state first ∧ Admitted step admits middle rest := by
  induction first generalizing state with
  | nil =>
    cases reached
    exact ⟨trivial, admitted⟩
  | cons act remaining ih =>
    obtain ⟨next, stepped, continued⟩ := exec_cons step state middle act remaining reached
    have later := ih (admitted.2 next stepped) continued
    refine ⟨⟨admitted.1, ?_⟩, later.2⟩
    intro other same
    rw [stepped] at same
    cases same
    exact later.1

/-- What holds after an event holds until one that ends it. -/
theorem since (appends : Appends step log) (holds : State → Prop) (ends : Event → Prop)
    (preserved : ∀ state act next, admits state act → holds state → step state act = some next →
      holds next ∨ ∃ event, log next = log state ++ [event] ∧ ends event) (initially : holds state)
    (admitted : Admitted step admits state trace) (ran : exec step state trace = some final) :
    holds final ∨ ∃ new, log final = log state ++ new ∧ ∃ event ∈ new, ends event := by
  induction trace generalizing state with
  | nil =>
    cases ran
    exact Or.inl initially
  | cons act rest ih =>
    obtain ⟨next, stepped, continued⟩ := exec_cons step state final act rest ran
    cases preserved state act next admitted.1 initially stepped with
    | inl held =>
      cases ih held (admitted.2 next stepped) continued with
      | inl last => exact Or.inl last
      | inr later =>
        obtain ⟨new, whole, ended⟩ := later
        cases appends state act next stepped with
        | inl same => exact Or.inr ⟨new, same ▸ whole, ended⟩
        | inr appended =>
          obtain ⟨first, same⟩ := appended
          obtain ⟨event, member, stopped⟩ := ended
          refine Or.inr ⟨first :: new, ?_, event, List.mem_cons_of_mem _ member, stopped⟩
          rw [whole, same, List.append_assoc, List.singleton_append]
    | inr ended =>
      obtain ⟨event, same, stopped⟩ := ended
      obtain ⟨new, whole⟩ := grows appends continued
      refine Or.inr ⟨event :: new, ?_, event, List.mem_cons_self .., stopped⟩
      rw [whole, same, List.append_assoc, List.singleton_append]

/-- If an event establishes what excludes another, one that ends it lies between them. `always`
is an invariant of the whole run. -/
theorem stopped_between (appends : Appends step log) (always holds : State → Prop)
    (ends : Event → Prop) {event last : Event}
    (invariant : ∀ state act next, admits state act → always state → step state act = some next →
      always next)
    (starts : ∀ state act next, admits state act → always state → step state act = some next → log
      next = log state ++ [event] → holds next)
    (preserved : ∀ state act next, admits state act → always state → holds state → step state act =
      some next → holds next ∨ ∃ event, log next = log state ++ [event] ∧ ends event)
    (excludes : ∀ state act next, admits state act → always state → holds state → step state act =
      some next → log next ≠ log state ++ [last]) (initially : always state)
    (admitted : Admitted step admits state trace) (ran : exec step state trace = some final)
    {before between after : List Event}
    (split : log final = log state ++ before ++ event :: between ++ last :: after) :
    ∃ stop ∈ between, ends stop := by
  rw [List.append_assoc (log state ++ before), List.cons_append] at split
  obtain ⟨first, act, rest, middle, next, rfl, reached, stepped, known, own, continued⟩ :=
    happened appends ran split
  obtain ⟨earlier, later⟩ := admitted_append admitted reached
  have atMiddle : always middle :=
    exec_invariant step admits always invariant first state middle initially earlier reached
  have atNext : always next := invariant middle act next later.1 atMiddle stepped
  have held : holds next := starts middle act next later.1 atMiddle stepped own
  have whole : log final = log next ++ between ++ last :: after := by
    rw [split, own, known]
    simp
  obtain ⟨others, act', _, middle', next', rfl, reached', stepped', known', own', _⟩ :=
    happened appends continued whole
  obtain ⟨admittedOthers, admittedRest⟩ := admitted_append (later.2 next stepped) reached'
  have final' := since appends (fun state => always state ∧ holds state) ends
    (fun state act next admits both stepped => by
      have still := invariant state act next admits both.1 stepped
      cases preserved state act next admits both.1 both.2 stepped with
      | inl kept => exact Or.inl ⟨still, kept⟩
      | inr ended => exact Or.inr ended)
    ⟨atNext, held⟩ admittedOthers reached'
  cases final' with
  | inl both => exact absurd own' (excludes middle' act' next' admittedRest.1 both.1 both.2 stepped')
  | inr ended =>
    obtain ⟨new, same, stop, member, stopped⟩ := ended
    rw [known', List.append_cancel_left_eq] at same
    subst same
    exact ⟨stop, member, stopped⟩

/-! ### Counting -/

variable {counts restarts : Event → Bool} {events : List Event} {event : Event}

end Histories
