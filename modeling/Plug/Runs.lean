import Mathlib.Data.List.Perm.Basic

/-!
# Runs of a partial step function

A system is given by a step function that refuses an action by returning
nothing. A run carries out a list of actions; every choice a scheduler, a clock
or a peer makes is part of the action, so a run is determined by its list.

`Admitted` restricts a run to steps that meet a condition in the state they are
taken in. The invariant rule below is the only induction over runs that the
developments built on this module need.
-/

namespace Runs

universe u v
variable {State : Type u} {Action : Type v}

/-- Carry out the listed actions in order. A refused action ends the run
without a final state. -/
def exec (step : State → Action → Option State) : State → List Action → Option State
  | state, [] => some state
  | state, action :: rest => (step state action).bind fun next => exec step next rest

/-- Each action of the run meets `admits` in the state it is taken in. Actions
after a refused one are not taken and are not restricted. -/
def Admitted (step : State → Action → Option State) (admits : State → Action → Prop) :
    State → List Action → Prop
  | _, [] => True
  | state, action :: rest =>
      admits state action ∧
        ∀ next, step state action = some next → Admitted step admits next rest

/-- A run is checked step by step. -/
instance Admitted.decidable (step : State → Action → Option State)
    (admits : State → Action → Prop) [∀ state action, Decidable (admits state action)] :
    ∀ state trace, Decidable (Admitted step admits state trace)
  | _, [] => isTrue trivial
  | state, action :: rest =>
    match stepped : step state action with
    | none => decidable_of_iff (admits state action) (by simp [Admitted, stepped])
    | some next =>
      have : Decidable (Admitted step admits next rest) := Admitted.decidable step admits next rest
      decidable_of_iff (admits state action ∧ Admitted step admits next rest)
        (by simp [Admitted, stepped])

/-- A completed nonempty run takes its first action and completes the rest. -/
theorem exec_cons (step : State → Action → Option State) (state final : State)
    (action : Action) (rest : List Action) (ran : exec step state (action :: rest) = some final) :
    ∃ next, step state action = some next ∧ exec step next rest = some final := by
  simpa only [exec, Option.bind_eq_some_iff] using ran

variable {step : State → Action → Option State} {admits : State → Action → Prop}

/-- Where a step is carried out exactly if it is admitted, a run is completed exactly if all its
steps are. -/
theorem exec_isSome_iff
    (each : ∀ state action, (step state action).isSome = true ↔ admits state action)
    (trace : List Action) (state : State) :
    (exec step state trace).isSome = true ↔ Admitted step admits state trace := by
  induction trace generalizing state with
  | nil => exact iff_of_true rfl trivial
  | cons action rest ih =>
    have first := each state action
    cases stepped : step state action with
    | none =>
      rw [stepped] at first
      simp [exec, Admitted, stepped, ← first]
    | some next =>
      rw [stepped] at first
      simp [exec, Admitted, stepped, ← first, ih next]

/-- What every admitted step preserves holds at the end of every admitted run. -/
theorem exec_invariant (step : State → Action → Option State) (admits : State → Action → Prop)
    (invariant : State → Prop)
    (preserved : ∀ state action next, admits state action → invariant state →
      step state action = some next → invariant next)
    (trace : List Action) (state final : State) (initially : invariant state)
    (admitted : Admitted step admits state trace) (ran : exec step state trace = some final) :
    invariant final := by
  induction trace generalizing state with
  | nil =>
    have same : state = final := Option.some.inj ran
    exact same ▸ initially
  | cons action rest ih =>
    obtain ⟨next, stepped, continued⟩ := exec_cons step state final action rest ran
    have held : invariant next := preserved state action next admitted.1 initially stepped
    exact ih next held (admitted.2 next stepped) continued

/-- Some step of the run meets the condition. -/
def Occurs (step : State → Action → Option State) (meets : State → Action → State → Prop) :
    State → List Action → Prop
  | _, [] => False
  | state, action :: rest =>
      ∃ next, step state action = some next ∧
        (meets state action next ∨ Occurs step meets next rest)

instance Occurs.decidable (step : State → Action → Option State)
    (meets : State → Action → State → Prop)
    [∀ state action next, Decidable (meets state action next)] :
    ∀ state trace, Decidable (Occurs step meets state trace)
  | _, [] => isFalse id
  | state, action :: rest =>
    match stepped : step state action with
    | none => isFalse (by simp [Occurs, stepped])
    | some next =>
      have : Decidable (Occurs step meets next rest) := Occurs.decidable step meets next rest
      decidable_of_iff (meets state action next ∨ Occurs step meets next rest)
        (by simp [Occurs, stepped])

/-- What every admitted step preserves unless it meets a condition holds at the end of every
admitted run in which no step met it. -/
theorem exec_unless (step : State → Action → Option State) (admits : State → Action → Prop)
    (invariant : State → Prop) (meets : State → Action → State → Prop)
    (preserved : ∀ state action next, admits state action → invariant state →
      step state action = some next → invariant next ∨ meets state action next)
    (trace : List Action) (state final : State) (initially : invariant state)
    (admitted : Admitted step admits state trace) (ran : exec step state trace = some final) :
    invariant final ∨ Occurs step meets state trace := by
  induction trace generalizing state with
  | nil =>
    have same : state = final := Option.some.inj ran
    exact Or.inl (same ▸ initially)
  | cons action rest ih =>
    obtain ⟨next, stepped, continued⟩ := exec_cons step state final action rest ran
    cases preserved state action next admitted.1 initially stepped with
    | inl held =>
      cases ih next held (admitted.2 next stepped) continued with
      | inl last => exact Or.inl last
      | inr later => exact Or.inr ⟨next, stepped, Or.inr later⟩
    | inr met => exact Or.inr ⟨next, stepped, Or.inl met⟩

/-- A condition on actions alone is met by a run of such actions. -/
theorem Admitted.of_forall {meets : Action → Prop} {trace : List Action}
    (all : ∀ action ∈ trace, meets action) (state : State) :
    Admitted step (fun _ action => meets action) state trace := by
  induction trace generalizing state with
  | nil => trivial
  | cons action rest ih =>
    refine ⟨all action (List.mem_cons_self ..), ?_⟩
    intro next _
    exact ih (fun later member => all later (List.mem_cons_of_mem action member))
      next

/-- Where admitted steps keep an invariant, and a step that is not admitted is seen from the state
after it, the steps of a run are all admitted exactly if nothing is seen in any state that the run
comes to. -/
theorem admitted_iff_seen {invariant holds : State → Prop}
    (kept : ∀ state action next, admits state action → invariant state → step state action = some
      next → invariant next)
    (seen : ∀ state action next, invariant state → step state action = some next → holds next →
      admits state action) (shown : ∀ state, invariant state → holds state)
    (refused : ∀ state action, step state action = none → admits state action) (trace : List Action)
    (state : State) (initially : invariant state) :
    Admitted step admits state trace ↔
      ∀ front final, front <+: trace → exec step state front = some final → holds final := by
  induction trace generalizing state with
  | nil =>
    constructor
    · intro _ front final start ran
      rw [List.prefix_nil.mp start] at ran
      have same : state = final := Option.some.inj ran
      exact same ▸ shown state initially
    · intro _
      trivial
  | cons action rest ih =>
    constructor
    · rintro ⟨admitted, later⟩ front final start ran
      cases front with
      | nil =>
        have same : state = final := Option.some.inj ran
        exact same ▸ shown state initially
      | cons first others =>
        obtain ⟨rfl, remains⟩ := List.cons_prefix_cons.mp start
        obtain ⟨next, stepped, continued⟩ := exec_cons step state final first others ran
        have held : invariant next := kept state first next admitted initially stepped
        exact (ih next held).mp (later next stepped) others final remains
          continued
    · intro always
      have first : ∀ next, step state action = some next → holds next := by
        intro next stepped
        refine always [action] next (List.cons_prefix_cons.mpr ⟨rfl, List.nil_prefix⟩) ?_
        rw [exec, stepped]
        rfl
      have admitted : admits state action := by
        cases stepped : step state action with
        | none => exact refused state action stepped
        | some next => exact seen state action next initially stepped (first next stepped)
      refine ⟨admitted, ?_⟩
      intro next stepped
      have held : invariant next := kept state action next admitted initially stepped
      refine (ih next held).mpr ?_
      intro front final start ran
      refine always (action :: front) final (List.cons_prefix_cons.mpr ⟨rfl, start⟩) ?_
      rw [exec, stepped]
      exact ran

/-- Where a condition on a step decides whether the next state is a good one, the steps of a run
all meet it exactly if every state that the run comes to is good. -/
theorem admitted_iff {holds : State → Prop}
    (each : ∀ state action next, holds state → step state action = some next → (admits state action
      ↔ holds next)) (refused : ∀ state action, step state action = none → admits state action)
    (trace : List Action) (state : State) (initially : holds state) :
    Admitted step admits state trace ↔
      ∀ front final, front <+: trace → exec step state front = some final → holds final :=
  admitted_iff_seen
    (fun state action next admitted held stepped =>
      (each state action next held stepped).mp admitted)
    (fun state action next held stepped => (each state action next held stepped).mpr)
    (fun _ held => held) refused trace state initially

/-- What follows an admitted run is admitted where that run comes to. -/
theorem Admitted.of_append {front later : List Action} {state middle : State}
    (admitted : Admitted step admits state (front ++ later))
    (ran : exec step state front = some middle) : Admitted step admits middle later := by
  induction front generalizing state with
  | nil =>
    obtain rfl : state = middle := Option.some.inj ran
    exact admitted
  | cons action rest ih =>
    obtain ⟨next, stepped, continued⟩ := exec_cons step state middle action rest ran
    exact ih (admitted.2 next stepped) continued

theorem Admitted.of_prefix {front trace : List Action} {state : State}
    (admitted : Admitted step admits state trace) (starts : front <+: trace) :
    Admitted step admits state front := by
  induction front generalizing state trace with
  | nil => trivial
  | cons action rest ih =>
    cases trace with
    | nil => cases List.prefix_nil.mp starts
    | cons first others =>
      obtain ⟨rfl, remains⟩ := List.cons_prefix_cons.mp starts
      exact ⟨admitted.1, fun next stepped => ih (admitted.2 next stepped) remains⟩

theorem Admitted.and {also : State → Action → Prop} {trace : List Action} {state : State}
    (first : Admitted step admits state trace) (second : Admitted step also state trace) :
    Admitted step (fun state action => admits state action ∧ also state action) state trace := by
  induction trace generalizing state with
  | nil => trivial
  | cons action rest ih =>
    refine ⟨⟨first.1, second.1⟩, ?_⟩
    intro next stepped
    exact ih (first.2 next stepped) (second.2 next stepped)

/-- A property that a step keeps exactly if it meets a condition, unless the step ends it: along a
run it lasts until it is ended exactly if all steps meet the condition. -/
theorem lasts_iff {ends : State → Action → Prop} {holds : State → Prop}
    (each : ∀ state action next, holds state → ¬ ends state action → step state action = some next →
      (admits state action ↔ holds next))
    (spared : ∀ state action, (¬ holds state ∨ ends state action ∨ step state action = none) →
      admits state action) (trace : List Action) (state : State) :
    (∀ front later middle final, front ++ later <+: trace → exec step state front = some middle →
        holds middle → Admitted step (fun state action => ¬ ends state action) middle later →
        exec step middle later = some final → holds final) ↔
      Admitted step admits state trace := by
  constructor
  · intro lasts
    induction trace generalizing state with
    | nil => trivial
    | cons action rest ih =>
      constructor
      · by_cases held : holds state
        · by_cases ended : ends state action
          · exact spared state action (Or.inr (Or.inl ended))
          · cases stepped : step state action with
            | none => exact spared state action (Or.inr (Or.inr stepped))
            | some next =>
              apply (each state action next held ended stepped).mpr
              refine lasts [] [action] state next ?_ rfl held ⟨ended, fun _ _ => trivial⟩ ?_
              · exact List.cons_prefix_cons.mpr ⟨rfl, List.nil_prefix⟩
              · rw [exec, stepped]
                rfl
        · exact spared state action (Or.inl held)
      · intro next stepped
        apply ih
        intro front later middle final starts ran
        refine lasts (action :: front) later middle final ?_ ?_
        · exact List.cons_prefix_cons.mpr ⟨rfl, starts⟩
        · rw [exec, stepped]
          exact ran
  · intro admitted front later middle final starts ran held lasting continued
    have both := ((admitted.of_prefix starts).of_append ran).and lasting
    refine exec_invariant step (fun state action => admits state action ∧ ¬ ends state action)
      holds ?_ later middle final held both continued
    rintro state action next ⟨meets, unended⟩ holding stepped
    exact (each state action next holding unended stepped).mp meets

/-- What was queued is the element taken out and what remains. -/
theorem eraseIdx_perm {Item : Type u} {queue : List Item} {index : Nat} {taken : Item}
    (found : queue[index]? = some taken) : List.Perm (taken :: queue.eraseIdx index) queue := by
  obtain ⟨bound, same⟩ := List.getElem?_eq_some_iff.mp found
  exact same ▸ List.getElem_cons_eraseIdx_perm bound

theorem mem_iff_eraseIdx {Item : Type u} {queue : List Item} {index : Nat} {taken : Item}
    (found : queue[index]? = some taken) (item : Item) :
    item ∈ queue ↔ item = taken ∨ item ∈ queue.eraseIdx index := by
  rw [← (eraseIdx_perm found).mem_iff, List.mem_cons]

/-! ### A place in a list -/

/-- Work that ends or stays what it was is the former work while it is there. -/
theorem work_before {Work : Type u} {now next : Option Work} {work : Work}
    (stays : next = none ∨ next = now) (present : next = some work) : now = some work := by
  rcases stays with ended | same
  · cases ended.symm.trans present
  · exact same.symm.trans present

section Places

variable {Item : Type u} {items : List Item} {index : Nat} {former : Item}

/-- An item put in the place of one that is there. -/
theorem getElem?_set_found (found : items[index]? = some former) (item : Item) (other : Nat) :
    (items.set index item)[other]? = if other = index then some item else items[other]? := by
  have bound := (List.getElem?_eq_some_iff.mp found).1
  rw [List.getElem?_set]
  by_cases same : other = index
  · subst same
    rw [if_pos rfl, if_pos bound, if_pos rfl]
  · rw [if_neg fun equal => same equal.symm, if_neg same]

variable {meets : Item → Bool} {item : Item}

theorem any_set_self (found : items[index]? = some former) (own : meets item = true) :
    (items.set index item).any meets = true := by
  have bound := (List.getElem?_eq_some_iff.mp found).1
  exact List.any_eq_true.mpr ⟨item, List.mem_set bound item, own⟩

/-- What some item meets is still met when the item that changed still meets it. -/
theorem any_set (found : items[index]? = some former)
    (kept : meets former = true → meets item = true) (some : items.any meets = true) :
    (items.set index item).any meets = true := by
  obtain ⟨other, member, holds⟩ := List.any_eq_true.mp some
  obtain ⟨place, present⟩ := List.getElem?_of_mem member
  by_cases same : place = index
  · subst same
    rw [found] at present
    cases present
    exact any_set_self found (kept holds)
  · refine List.any_eq_true.mpr ⟨other, ?_, holds⟩
    apply List.mem_of_getElem?
    rw [getElem?_set_found found, if_neg same]
    exact present

theorem any_set_eq_false (none : items.any meets = false) (own : meets item = false) :
    (items.set index item).any meets = false := by
  rw [List.any_eq_false] at none ⊢
  intro other member
  rcases List.mem_or_eq_of_mem_set member with earlier | rfl
  · exact none other earlier
  · rw [own]
    exact Bool.false_ne_true

/-- A count does not change when the item that is replaced counts as the new one does. -/
theorem countP_set_same (found : items[index]? = some former) (same : meets item = meets former) :
    (items.set index item).countP meets =
      items.countP meets := by
  have bound := (List.getElem?_eq_some_iff.mp found).1
  rw [(List.set_perm_cons_eraseIdx bound item).countP_eq, ← (eraseIdx_perm found).countP_eq,
    List.countP_cons, List.countP_cons, same]

end Places

end Runs
