import Plug.Runs

/-!
# Coalesced refreshes

Callers of `refresh_tools` share passes over the upstream servers. A caller that finds
no pass running leads one; a caller that finds one running asks for a trailing pass and
waits for its generation. A leader that is dropped in a pass gives its generation back,
and a waiter leads it again.

Every section under the coordinator's lock is one step, and so is everything a caller
does between two of them. The log keeps what happened, newest first; `note` lets the
code around the coordinator record its own events among them.
-/

namespace Plug.RefreshCoordinator

/-- What is recorded. -/
inductive Event (Note : Type) where
  | called (caller : Nat)
  | began (pass : Nat)
  | completed (pass : Nat)
  | noted (note : Note)
deriving DecidableEq

/-- Where a call of `refresh_tools` is. -/
inductive Phase where
  /-- Before the lock of the first section. -/
  | entering
  /-- It leads a generation and has not begun the pass. -/
  | leading (generation : Nat)
  /-- Its pass runs. -/
  | passing (generation pass : Nat)
  /-- A pass is recorded as completed, and waiters are notified next. -/
  | notifying (next : Option Nat)
  /-- At the top of the loop without a generation to lead. -/
  | waiting (target : Nat)
  /-- `notified()` was created, before the lock. -/
  | watching (target : Nat) (notified : Bool)
  /-- At `changed.await`. -/
  | parked (target : Nat) (notified : Bool)
  | returned
  /-- It was dropped in a pass, and its guard notifies waiters next. -/
  | dropped
  | cancelled
deriving DecidableEq

structure Coordinator (Note : Type) where
  completedGeneration : Nat
  runningGeneration : Option Nat
  trailingRequested : Bool
  callers : List Phase
  passes : Nat
  log : List (Event Note)

def initial {Note : Type} : Coordinator Note where
  completedGeneration := 0
  runningGeneration := none
  trailingRequested := false
  callers := []
  passes := 0
  log := []

variable {Note : Type}

/-- `notify_waiters` reaches every `notified()` that was created before it. -/
def Phase.notify : Phase → Phase
  | .watching target _ => .watching target true
  | .parked target _ => .parked target true
  | phase => phase

def Coordinator.to (coordinator : Coordinator Note) (caller : Nat) (phase : Phase) :
    Coordinator Note :=
  { coordinator with callers := coordinator.callers.set caller phase }

def Coordinator.notifyWaiters (coordinator : Coordinator Note) : Coordinator Note :=
  { coordinator with callers := coordinator.callers.map Phase.notify }

/-- The first section of `refresh_tools`. -/
def Coordinator.join (coordinator : Coordinator Note) (caller : Nat) : Coordinator Note :=
  match coordinator.runningGeneration with
  | some running =>
    { coordinator with trailingRequested := true }.to caller (.waiting (running + 1))
  | none =>
    let generation := coordinator.completedGeneration + 1
    { coordinator with runningGeneration := some generation }.to caller (.leading generation)

/-- The section after `refresh_tools_once`. -/
def Coordinator.complete (coordinator : Coordinator Note) (caller generation pass : Nat) :
    Coordinator Note :=
  let recorded := { coordinator with
    completedGeneration := generation
    log := .completed pass :: coordinator.log }
  if coordinator.trailingRequested then
    { recorded with
      trailingRequested := false
      runningGeneration := some (generation + 1) }.to caller (.notifying (some (generation + 1)))
  else
    { recorded with runningGeneration := none }.to caller (.notifying none)

/-- The section that decides whether to wait. -/
def Coordinator.check (coordinator : Coordinator Note) (caller target : Nat) (notified : Bool) :
    Coordinator Note :=
  if coordinator.completedGeneration ≥ target then coordinator.to caller .returned
  else match coordinator.runningGeneration with
    | none =>
      let generation := coordinator.completedGeneration + 1
      { coordinator with runningGeneration := some generation }.to caller (.leading generation)
    | some _ => coordinator.to caller (.parked target notified)

/-- The next step of a call. A parked call stays where it is until it is notified. -/
def Coordinator.advance (coordinator : Coordinator Note) (caller : Nat) :
    Option (Coordinator Note) :=
  match coordinator.callers[caller]? with
  | some .entering => some (coordinator.join caller)
  | some (.leading generation) =>
    some ({ coordinator with
      passes := coordinator.passes + 1
      log := .began coordinator.passes :: coordinator.log }.to caller
        (.passing generation coordinator.passes))
  | some (.passing generation pass) => some (coordinator.complete caller generation pass)
  | some (.notifying (some next)) => some (coordinator.notifyWaiters.to caller (.leading next))
  | some (.notifying none) => some (coordinator.notifyWaiters.to caller .returned)
  | some (.waiting target) => some (coordinator.to caller (.watching target false))
  | some (.watching target notified) => some (coordinator.check caller target notified)
  | some (.parked target true) => some (coordinator.to caller (.waiting target))
  | some .dropped => some (coordinator.notifyWaiters.to caller .cancelled)
  | _ => none

/-- A call is dropped where it awaits something, or before it starts. A leader's guard
gives its generation back. -/
def Coordinator.cancel (coordinator : Coordinator Note) (caller : Nat) :
    Option (Coordinator Note) :=
  match coordinator.callers[caller]? with
  | some .entering => some (coordinator.to caller .cancelled)
  | some (.parked _ _) => some (coordinator.to caller .cancelled)
  | some (.passing generation _) =>
    some ({ coordinator with
      runningGeneration :=
        if coordinator.runningGeneration = some generation then none
        else coordinator.runningGeneration }.to caller .dropped)
  | _ => none

inductive Action (Note : Type) where
  | call
  | advance (caller : Nat)
  | cancel (caller : Nat)
  | note (note : Note)

def step (coordinator : Coordinator Note) : Action Note → Option (Coordinator Note)
  | .call => some { coordinator with
      callers := coordinator.callers ++ [.entering]
      log := .called coordinator.callers.length :: coordinator.log }
  | .advance caller => coordinator.advance caller
  | .cancel caller => coordinator.cancel caller
  | .note note => some { coordinator with log := .noted note :: coordinator.log }

/-- What a call can do in one step. -/
inductive Moves (coordinator : Coordinator Note) (caller : Nat) : Coordinator Note → Prop where
  | waits (running : Nat) (found : coordinator.callers[caller]? = some .entering)
      (busy : coordinator.runningGeneration = some running) :
      Moves coordinator caller
        ({ coordinator with trailingRequested := true }.to caller (.waiting (running + 1)))
  | leads (phase : Phase) (found : coordinator.callers[caller]? = some phase)
      (former : phase = .entering ∨ ∃ target notified, phase = .watching target notified)
      (idle : coordinator.runningGeneration = none) :
      Moves coordinator caller
        ({ coordinator with runningGeneration := some (coordinator.completedGeneration + 1) }.to
          caller (.leading (coordinator.completedGeneration + 1)))
  | begins (generation : Nat) (found : coordinator.callers[caller]? = some (.leading generation)) :
      Moves coordinator caller
        ({ coordinator with
          passes := coordinator.passes + 1
          log := .began coordinator.passes :: coordinator.log }.to caller
            (.passing generation coordinator.passes))
  | continues (generation pass : Nat)
      (found : coordinator.callers[caller]? = some (.passing generation pass))
      (trailing : coordinator.trailingRequested = true) :
      Moves coordinator caller
        ({ coordinator with
          completedGeneration := generation
          log := .completed pass :: coordinator.log
          trailingRequested := false
          runningGeneration := some (generation + 1) }.to caller
            (.notifying (some (generation + 1))))
  | finishes (generation pass : Nat)
      (found : coordinator.callers[caller]? = some (.passing generation pass))
      (last : coordinator.trailingRequested = false) :
      Moves coordinator caller
        ({ coordinator with
          completedGeneration := generation
          log := .completed pass :: coordinator.log
          runningGeneration := none }.to caller (.notifying none))
  | notifies (phase next : Phase) (found : coordinator.callers[caller]? = some phase)
      (turn : (∃ generation, phase = .notifying (some generation) ∧ next = .leading generation) ∨
        (phase = .notifying none ∧ next = .returned) ∨ (phase = .dropped ∧ next = .cancelled)) :
      Moves coordinator caller (coordinator.notifyWaiters.to caller next)
  | answered (target : Nat) (notified : Bool)
      (found : coordinator.callers[caller]? = some (.watching target notified))
      (reached : target ≤ coordinator.completedGeneration) :
      Moves coordinator caller (coordinator.to caller .returned)
  | watches (target : Nat) (found : coordinator.callers[caller]? = some (.waiting target)) :
      Moves coordinator caller (coordinator.to caller (.watching target false))
  | parks (target running : Nat) (notified : Bool)
      (found : coordinator.callers[caller]? = some (.watching target notified))
      (behind : coordinator.completedGeneration < target)
      (busy : coordinator.runningGeneration = some running) :
      Moves coordinator caller (coordinator.to caller (.parked target notified))
  | wakes (target : Nat) (found : coordinator.callers[caller]? = some (.parked target true)) :
      Moves coordinator caller (coordinator.to caller (.waiting target))
  | abandons (phase : Phase) (found : coordinator.callers[caller]? = some phase)
      (former : phase = .entering ∨ ∃ target notified, phase = .parked target notified) :
      Moves coordinator caller (coordinator.to caller .cancelled)
  | drops (generation pass : Nat)
      (found : coordinator.callers[caller]? = some (.passing generation pass)) :
      Moves coordinator caller
        ({ coordinator with
          runningGeneration :=
            if coordinator.runningGeneration = some generation then none
            else coordinator.runningGeneration }.to caller .dropped)

theorem advance_moves {coordinator next : Coordinator Note} {caller : Nat}
    (advanced : coordinator.advance caller = some next) : Moves coordinator caller next := by
  unfold Coordinator.advance at advanced
  split at advanced
  case h_1 found =>
    cases advanced
    unfold Coordinator.join
    split
    · rename_i running busy
      exact .waits running found busy
    · rename_i idle
      exact .leads _ found (Or.inl rfl) idle
  case h_2 generation found =>
    cases advanced
    exact .begins generation found
  case h_3 generation pass found =>
    cases advanced
    unfold Coordinator.complete
    dsimp only
    split
    · rename_i trailing
      exact .continues generation pass found trailing
    · rename_i last
      exact .finishes generation pass found (Bool.eq_false_iff.mpr last)
  case h_4 generation found =>
    cases advanced
    exact .notifies _ _ found (Or.inl ⟨generation, rfl, rfl⟩)
  case h_5 found =>
    cases advanced
    exact .notifies _ _ found (Or.inr (Or.inl ⟨rfl, rfl⟩))
  case h_6 target found =>
    cases advanced
    exact .watches target found
  case h_7 target notified found =>
    cases advanced
    unfold Coordinator.check
    split
    · rename_i reached
      exact .answered target notified found reached
    · rename_i behind
      split
      · rename_i idle
        exact .leads _ found (Or.inr ⟨target, notified, rfl⟩) idle
      · rename_i running busy
        exact .parks target running notified found (Nat.lt_of_not_le behind) busy
  case h_8 target found =>
    cases advanced
    exact .wakes target found
  case h_9 found =>
    cases advanced
    exact .notifies _ _ found (Or.inr (Or.inr ⟨rfl, rfl⟩))
  case h_10 => cases advanced

theorem cancel_moves {coordinator next : Coordinator Note} {caller : Nat}
    (cancelled : coordinator.cancel caller = some next) : Moves coordinator caller next := by
  unfold Coordinator.cancel at cancelled
  split at cancelled
  case h_1 found =>
    cases cancelled
    exact .abandons _ found (Or.inl rfl)
  case h_2 target notified found =>
    cases cancelled
    exact .abandons _ found (Or.inr ⟨target, notified, rfl⟩)
  case h_3 generation pass found =>
    cases cancelled
    exact .drops generation pass found
  case h_4 => cases cancelled

/-! ### One leader -/

/-- The generation a call leads. -/
def Phase.generation : Phase → Option Nat
  | .leading generation => some generation
  | .passing generation _ => some generation
  | .notifying next => next
  | _ => none

def Coordinator.leads (coordinator : Coordinator Note) (caller : Nat) : Option Nat :=
  coordinator.callers[caller]?.bind Phase.generation

theorem callers_to {coordinator : Coordinator Note} {caller : Nat} {former : Phase}
    (found : coordinator.callers[caller]? = some former) (phase : Phase) (other : Nat) :
    (coordinator.to caller phase).callers[other]? =
      if other = caller then some phase else coordinator.callers[other]? :=
  Runs.getElem?_set_found found phase other

theorem leads_to {coordinator : Coordinator Note} {caller : Nat} {former : Phase}
    (found : coordinator.callers[caller]? = some former) (phase : Phase) (other : Nat) :
    (coordinator.to caller phase).leads other =
      if other = caller then phase.generation else coordinator.leads other := by
  rw [Coordinator.leads, callers_to found]
  split <;> rfl

@[simp] theorem generation_notify (phase : Phase) : phase.notify.generation = phase.generation := by
  cases phase <;> rfl

theorem leads_notifyWaiters (coordinator : Coordinator Note) (caller : Nat) :
    coordinator.notifyWaiters.leads caller = coordinator.leads caller := by
  simp only [Coordinator.leads, Coordinator.notifyWaiters, List.getElem?_map]
  cases coordinator.callers[caller]? with
  | none => rfl
  | some phase => exact generation_notify phase

/-- The running generation is the next one, and exactly one call leads it. -/
def Led (coordinator : Coordinator Note) : Prop :=
  match coordinator.runningGeneration with
  | none => ∀ caller, coordinator.leads caller = none
  | some running => running = coordinator.completedGeneration + 1 ∧
      ∃ leader, coordinator.leads leader = some running ∧
        ∀ caller, caller ≠ leader → coordinator.leads caller = none

theorem Led.of_leads {coordinator : Coordinator Note} (led : Led coordinator) {caller : Nat}
    {generation : Nat} (leads : coordinator.leads caller = some generation) :
    coordinator.runningGeneration = some generation ∧
      generation = coordinator.completedGeneration + 1 ∧
      ∀ other, other ≠ caller → coordinator.leads other = none := by
  unfold Led at led
  split at led
  · rw [led caller] at leads
    cases leads
  · rename_i running busy
    obtain ⟨next, leader, leading, alone⟩ := led
    have same : caller = leader := by
      by_contra differs
      rw [alone caller differs] at leads
      cases leads
    subst same
    rw [leading] at leads
    cases leads
    exact ⟨busy, next, alone⟩

/-- Giving a call without a generation another such place keeps the leader. -/
theorem Led.aside {coordinator next : Coordinator Note} (led : Led coordinator)
    (running : next.runningGeneration = coordinator.runningGeneration)
    (completed : next.completedGeneration = coordinator.completedGeneration)
    (leads : ∀ caller, next.leads caller = coordinator.leads caller) : Led next := by
  unfold Led at led ⊢
  rw [running, completed]
  simpa only [leads] using led

/-- The leader passes its generation on to itself. -/
theorem Led.leader {next : Coordinator Note} (leader : Nat) {running : Nat}
    (busy : next.runningGeneration = some running)
    (completed : running = next.completedGeneration + 1) (leads : next.leads leader = some running)
    (alone : ∀ caller, caller ≠ leader → next.leads caller = none) : Led next := by
  unfold Led
  rw [busy]
  exact ⟨completed, leader, leads, alone⟩

theorem Led.nobody {next : Coordinator Note} (idle : next.runningGeneration = none)
    (leads : ∀ caller, next.leads caller = none) : Led next := by
  unfold Led
  rw [idle]
  exact leads

theorem leads_found {coordinator : Coordinator Note} {caller : Nat} {phase : Phase}
    (found : coordinator.callers[caller]? = some phase) :
    coordinator.leads caller = phase.generation := by
  rw [Coordinator.leads, found]
  rfl

/-- A call that leads nothing before and after leaves every leader. -/
theorem leads_to_same {coordinator : Coordinator Note} {caller : Nat} {former phase : Phase}
    (found : coordinator.callers[caller]? = some former)
    (same : phase.generation = former.generation) (other : Nat) :
    (coordinator.to caller phase).leads other = coordinator.leads other := by
  rw [leads_to found]
  split
  · rename_i here
    rw [here, leads_found found, same]
  · rfl

theorem Moves.led {coordinator next : Coordinator Note} {caller : Nat}
    (moves : Moves coordinator caller next) (led : Led coordinator) : Led next := by
  cases moves with
  | waits running found busy => exact led.aside rfl rfl (leads_to_same found rfl)
  | leads phase found former idle =>
    have nobody : ∀ other, coordinator.leads other = none := by
      unfold Led at led
      rwa [idle] at led
    refine Led.leader caller rfl rfl ?_ ?_
    · exact (leads_to found _ _).trans (if_pos rfl)
    · intro other differs
      exact ((leads_to found _ _).trans (if_neg differs)).trans (nobody other)
  | begins generation found => exact led.aside rfl rfl (leads_to_same found rfl)
  | continues generation pass found trailing =>
    obtain ⟨-, -, alone⟩ := led.of_leads (leads_found found)
    refine Led.leader caller rfl rfl ?_ ?_
    · exact (leads_to found _ _).trans (if_pos rfl)
    · intro other differs
      exact ((leads_to found _ _).trans (if_neg differs)).trans (alone other differs)
  | finishes generation pass found last =>
    obtain ⟨-, -, alone⟩ := led.of_leads (leads_found found)
    refine Led.nobody rfl ?_
    intro other
    refine (leads_to found _ _).trans ?_
    split
    · rfl
    · exact alone other ‹_›
  | notifies phase after found turn =>
    have present : coordinator.notifyWaiters.callers[caller]? = some phase.notify := by
      rw [Coordinator.notifyWaiters, List.getElem?_map, found]
      rfl
    have same : after.generation = phase.notify.generation := by
      rcases turn with ⟨generation, rfl, rfl⟩ | ⟨rfl, rfl⟩ | ⟨rfl, rfl⟩ <;> rfl
    refine led.aside rfl rfl fun other => ?_
    rw [leads_to_same present same, leads_notifyWaiters]
  | answered target notified found reached => exact led.aside rfl rfl (leads_to_same found rfl)
  | watches target found => exact led.aside rfl rfl (leads_to_same found rfl)
  | parks target running notified found behind busy =>
    exact led.aside rfl rfl (leads_to_same found rfl)
  | wakes target found => exact led.aside rfl rfl (leads_to_same found rfl)
  | abandons phase found former =>
    refine led.aside rfl rfl (leads_to_same found ?_)
    rcases former with rfl | ⟨target, notified, rfl⟩ <;> rfl
  | drops generation pass found =>
    obtain ⟨busy, -, alone⟩ := led.of_leads (leads_found found)
    refine Led.nobody (if_pos busy) ?_
    intro other
    refine (leads_to found _ _).trans ?_
    split
    · rfl
    · exact alone other ‹_›

theorem step_led {coordinator next : Coordinator Note} {action : Action Note}
    (led : Led coordinator) (stepped : step coordinator action = some next) : Led next := by
  cases action with
  | call =>
    cases stepped
    refine led.aside rfl rfl fun caller => ?_
    rw [Coordinator.leads, Coordinator.leads, List.getElem?_append]
    split
    · rfl
    · rename_i beyond
      rw [List.getElem?_eq_none (Nat.le_of_not_lt beyond)]
      cases caller - coordinator.callers.length <;> rfl
  | advance caller => exact (advance_moves stepped).led led
  | cancel caller => exact (cancel_moves stepped).led led
  | note note =>
    cases stepped
    exact led

/-! ### What a return has seen -/

/-- The generation a waiting call waits for. -/
def Phase.target : Phase → Option Nat
  | .waiting target => some target
  | .watching target _ => some target
  | .parked target _ => some target
  | _ => none

def Phase.isPassing : Phase → Bool
  | .passing _ _ => true
  | _ => false

/-- A generation is completed, or its pass has begun. -/
def Coordinator.reached (coordinator : Coordinator Note) (target : Nat) : Bool :=
  decide (target ≤ coordinator.completedGeneration) ||
    (decide (coordinator.runningGeneration = some target) &&
      coordinator.callers.any Phase.isPassing)

/-- No further pass has to begin before the call returns. -/
def Coordinator.served (coordinator : Coordinator Note) : Phase → Bool
  | .passing _ _ => !coordinator.trailingRequested
  | .notifying next => next.isNone
  | .waiting target => coordinator.reached target
  | .watching target _ => coordinator.reached target
  | .parked target _ => coordinator.reached target
  | .returned => true
  | _ => false

/-- Among the events a pass began and completed. -/
def Passed (since : List (Event Note)) : Prop :=
  ∃ pass, [.completed pass, .began pass].Sublist since

/-- A pass that began among the events runs, and the call returns after it. -/
def Underway (coordinator : Coordinator Note) (since : List (Event Note)) (caller : Nat)
    (phase : Phase) : Prop :=
  ∃ leader generation pass,
    coordinator.callers[leader]? = some (.passing generation pass) ∧ .began pass ∈ since ∧
    (leader = caller ∨ phase.target = some generation)

/-- A call that needs no further pass has one among the events. -/
def Seen (coordinator : Coordinator Note) (since : List (Event Note)) (caller : Nat) : Prop :=
  ∀ phase, coordinator.callers[caller]? = some phase → coordinator.served phase = true →
    Passed since ∨ Underway coordinator since caller phase

theorem Passed.later {since : List (Event Note)} (passed : Passed since)
    (newer : List (Event Note)) : Passed (newer ++ since) := by
  obtain ⟨pass, found⟩ := passed
  exact ⟨pass, found.trans (List.sublist_append_right newer since)⟩

/-- A pass that runs is led by the only leader. -/
theorem Led.same_leader {coordinator : Coordinator Note} (led : Led coordinator)
    {leader generation pass caller : Nat} {phase : Phase}
    (runs : coordinator.callers[leader]? = some (.passing generation pass))
    (found : coordinator.callers[caller]? = some phase) (leads : phase.generation ≠ none) :
    leader = caller := by
  obtain ⟨-, -, alone⟩ := led.of_leads (leads_found runs)
  by_contra differs
  have none := alone caller fun same => differs same.symm
  rw [leads_found found] at none
  exact leads none

theorem any_passing {coordinator : Coordinator Note} :
    coordinator.callers.any Phase.isPassing = true ↔
      ∃ leader generation pass : Nat,
        coordinator.callers[leader]? = some (.passing generation pass) := by
  rw [List.any_eq_true]
  constructor
  · rintro ⟨phase, member, runs⟩
    obtain ⟨leader, found⟩ := List.getElem?_of_mem member
    cases phase with
    | passing generation pass => exact ⟨leader, generation, pass, found⟩
    | _ => cases runs
  · rintro ⟨leader, generation, pass, found⟩
    exact ⟨_, List.mem_of_getElem? found, rfl⟩

/-- What a step leaves of a call it does not bring nearer to its return. -/
theorem Seen.frame {coordinator next : Coordinator Note} {since : List (Event Note)}
    {caller : Nat} (seen : Seen coordinator since caller) (newer : List (Event Note))
    (kept : ∀ after, next.callers[caller]? = some after → next.served after = true →
      ∃ phase, coordinator.callers[caller]? = some phase ∧ coordinator.served phase = true ∧
        after.target = phase.target)
    (passing : ∀ leader generation pass : Nat,
      coordinator.callers[leader]? = some (.passing generation pass) →
        next.callers[leader]? = some (.passing generation pass)) :
    Seen next (newer ++ since) caller := by
  intro after found served
  obtain ⟨phase, present, before, target⟩ := kept after found served
  rcases seen phase present before with passed | ⟨leader, generation, pass, runs, began, waits⟩
  · exact Or.inl (passed.later newer)
  · refine Or.inr ⟨leader, generation, pass, passing leader generation pass runs,
      List.mem_append_right newer began, ?_⟩
    rwa [target]

/-- A call that is not about to return is looked at when it is. -/
theorem Seen.of_unserved {coordinator : Coordinator Note} {since : List (Event Note)}
    {caller : Nat} {phase : Phase} (found : coordinator.callers[caller]? = some phase)
    (unserved : coordinator.served phase = false) : Seen coordinator since caller := by
  intro present presentFound served
  rw [found] at presentFound
  cases presentFound
  rw [unserved] at served
  cases served

/-- A waiting call that was served was served by the pass that completes. -/
theorem Seen.completes {coordinator : Coordinator Note} {since : List (Event Note)}
    {caller leader generation pass : Nat} {phase : Phase} (led : Led coordinator)
    (seen : Seen coordinator since caller)
    (runs : coordinator.callers[leader]? = some (.passing generation pass))
    (found : coordinator.callers[caller]? = some phase)
    (served : coordinator.served phase = true) : Passed (.completed pass :: since) := by
  rcases seen phase found served with passed | ⟨other, own, number, ownRuns, began, _⟩
  · exact passed.later [.completed pass]
  · obtain rfl := led.same_leader ownRuns runs (by simp [Phase.generation])
    rw [runs] at ownRuns
    simp only [Option.some.injEq, Phase.passing.injEq] at ownRuns
    obtain ⟨rfl, rfl⟩ := ownRuns
    exact ⟨pass, (List.singleton_sublist.mpr began).cons_cons _⟩

/-- A waiting call whose generation is completed is past its pass. -/
theorem Seen.answered {coordinator : Coordinator Note} {since : List (Event Note)}
    {caller target : Nat} {phase : Phase} (led : Led coordinator)
    (seen : Seen coordinator since caller)
    (found : coordinator.callers[caller]? = some phase) (waits : phase.target = some target)
    (reached : target ≤ coordinator.completedGeneration) : Passed since := by
  have idle : phase.generation = none := by
    cases phase <;> simp [Phase.target] at waits <;> rfl
  have served : coordinator.served phase = true := by
    cases phase <;> simp [Phase.target] at waits <;>
      simp [Coordinator.served, Coordinator.reached, waits, reached]
  rcases seen phase found served with passed | ⟨leader, generation, pass, runs, _, same⟩
  · exact passed
  · obtain ⟨-, next, -⟩ := led.of_leads (leads_found runs)
    rcases same with rfl | sameTarget
    · rw [found] at runs
      cases runs
      cases waits
    · rw [waits] at sameTarget
      cases sameTarget
      omega

theorem served_notify (coordinator : Coordinator Note) (phase : Phase) :
    coordinator.served phase.notify = coordinator.served phase := by
  cases phase <;> rfl

theorem target_notify (phase : Phase) : phase.notify.target = phase.target := by
  cases phase <;> rfl

/-- The only leader has another place now. -/
theorem no_passing {coordinator : Coordinator Note} (led : Led coordinator)
    {caller : Nat} {former phase : Phase} (found : coordinator.callers[caller]? = some former)
    (leads : former.generation ≠ none) (elsewhere : phase.isPassing = false) :
    (coordinator.to caller phase).callers.any Phase.isPassing = false := by
  apply Bool.eq_false_iff.mpr
  rw [Ne, any_passing]
  rintro ⟨leader, generation, pass, runs⟩
  rw [callers_to found] at runs
  split at runs
  · cases runs
    cases elsewhere
  · exact ‹¬ leader = caller› (led.same_leader runs found leads)

theorem served_of {coordinator next : Coordinator Note} {phase : Phase}
    (served : next.served phase = true)
    (reached : ∀ target, next.reached target = true → coordinator.reached target = true)
    (trailing : phase.isPassing = true → next.trailingRequested = false →
      coordinator.trailingRequested = false) : coordinator.served phase = true := by
  cases phase with
  | passing generation pass =>
    simp only [Coordinator.served, Bool.not_eq_true'] at served ⊢
    exact trailing rfl served
  | waiting target => exact reached target served
  | watching target notified => exact reached target served
  | parked target notified => exact reached target served
  | notifying after => exact served
  | returned => rfl
  | _ => cases served

theorem reached_of {coordinator next : Coordinator Note}
    (completed : next.completedGeneration = coordinator.completedGeneration)
    (passing : ∀ target, next.runningGeneration = some target →
      next.callers.any Phase.isPassing = true →
        coordinator.runningGeneration = some target ∧
          coordinator.callers.any Phase.isPassing = true) (target : Nat)
    (reached : next.reached target = true) : coordinator.reached target = true := by
  simp only [Coordinator.reached, Bool.or_eq_true, Bool.and_eq_true, decide_eq_true_eq] at reached ⊢
  rcases reached with past | ⟨running, runs⟩
  · exact Or.inl (completed ▸ past)
  · exact Or.inr (passing target running runs)

/-- A call that neither leads a pass before nor after its step. -/
theorem passing_to {coordinator : Coordinator Note} {caller : Nat} {former phase : Phase}
    (found : coordinator.callers[caller]? = some former) (before : former.isPassing = false)
    (after : phase.isPassing = false) (leader generation pass : Nat) :
    (coordinator.to caller phase).callers[leader]? = some (.passing generation pass) ↔
      coordinator.callers[leader]? = some (.passing generation pass) := by
  rw [callers_to found]
  split
  · rename_i same
    subst same
    rw [found]
    constructor
    · intro equal
      cases equal
      cases after
    · intro equal
      cases equal
      cases before
  · rfl

theorem any_passing_to {coordinator : Coordinator Note} {caller : Nat} {former phase : Phase}
    (found : coordinator.callers[caller]? = some former) (before : former.isPassing = false)
    (after : phase.isPassing = false) :
    (coordinator.to caller phase).callers.any Phase.isPassing =
      coordinator.callers.any Phase.isPassing := by
  rw [Bool.eq_iff_iff, any_passing, any_passing]
  simp only [passing_to found before after]

/-- A call that begins, completes and drops no pass. -/
theorem Seen.beside {coordinator : Coordinator Note} {since : List (Event Note)}
    {caller other : Nat} {former phase : Phase} (seen : Seen coordinator since other)
    (found : coordinator.callers[caller]? = some former)
    (before : former.isPassing = false) (after : phase.isPassing = false)
    (own : other = caller → coordinator.served phase = true →
      coordinator.served former = true ∧ phase.target = former.target) :
    Seen (coordinator.to caller phase) since other := by
  have reached : ∀ target, (coordinator.to caller phase).reached target = true →
      coordinator.reached target = true := by
    refine reached_of rfl ?_
    intro target busy runs
    rw [any_passing_to found before after] at runs
    exact ⟨busy, runs⟩
  refine seen.frame [] ?_ ?_
  · intro place present served
    have servedBefore := served_of served reached fun _ off => off
    rw [callers_to found] at present
    split at present
    · rename_i same
      cases present
      subst same
      exact ⟨former, found, own rfl servedBefore⟩
    · exact ⟨place, present, servedBefore, rfl⟩
  · intro leader generation pass runs
    rwa [passing_to found before after]

/-- A request for a trailing pass. -/
theorem Seen.request {coordinator : Coordinator Note} {since : List (Event Note)} {other : Nat}
    (seen : Seen coordinator since other) :
    Seen { coordinator with trailingRequested := true } since other := by
  refine seen.frame [] ?_ fun _ _ _ runs => runs
  intro place present served
  refine ⟨place, present, served_of served (fun _ reached => reached) ?_, rfl⟩
  intro _ off
  cases off

theorem Seen.notify {coordinator : Coordinator Note} {since : List (Event Note)} {other : Nat}
    (seen : Seen coordinator since other) : Seen coordinator.notifyWaiters since other := by
  have passing : ∀ leader generation pass : Nat,
      coordinator.notifyWaiters.callers[leader]? = some (.passing generation pass) ↔
        coordinator.callers[leader]? = some (.passing generation pass) := by
    intro leader generation pass
    rw [Coordinator.notifyWaiters, List.getElem?_map, Option.map_eq_some_iff]
    constructor
    · rintro ⟨phase, found, same⟩
      cases phase <;> cases same
      exact found
    · intro found
      exact ⟨_, found, rfl⟩
  have reached : ∀ target, coordinator.notifyWaiters.reached target = true →
      coordinator.reached target = true := by
    refine reached_of rfl ?_
    intro target busy runs
    rw [any_passing] at runs ⊢
    simp only [passing] at runs
    exact ⟨busy, runs⟩
  refine seen.frame [] ?_ fun leader generation pass => (passing leader generation pass).mpr
  intro place present served
  rw [Coordinator.notifyWaiters, List.getElem?_map] at present
  obtain ⟨phase, found, rfl⟩ := Option.map_eq_some_iff.mp present
  have servedBefore := served_of served reached fun _ off => off
  rw [served_notify] at servedBefore
  exact ⟨phase, found, servedBefore, target_notify phase⟩

/-- A generation that is taken while nobody leads has no pass yet. -/
theorem Seen.take {coordinator : Coordinator Note} {since : List (Event Note)} {other : Nat}
    (seen : Seen coordinator since other) (nobody : ∀ caller, coordinator.leads caller = none)
    (generation : Nat) :
    Seen { coordinator with runningGeneration := some generation } since other := by
  refine seen.frame [] ?_ fun _ _ _ runs => runs
  intro place present served
  refine ⟨place, present, served_of served ?_ fun _ off => off, rfl⟩
  refine reached_of rfl ?_
  intro target busy runs
  obtain ⟨leader, own, pass, found⟩ := any_passing.mp runs
  have leads : coordinator.leads leader = some own := leads_found found
  rw [nobody leader] at leads
  cases leads

/-- The pass of the only leader begins. -/
theorem Seen.begin {coordinator : Coordinator Note} {since : List (Event Note)}
    {caller other generation : Nat} (led : Led coordinator) (seen : Seen coordinator since other)
    (found : coordinator.callers[caller]? = some (.leading generation)) (pass : Nat) :
    Seen (coordinator.to caller (.passing generation pass)) (.began pass :: since) other := by
  intro place present served
  rw [callers_to found] at present
  have runs : (coordinator.to caller (.passing generation pass)).callers[caller]? =
      some (.passing generation pass) := (callers_to found _ _).trans (if_pos rfl)
  obtain ⟨busy, next, -⟩ := led.of_leads (leads_found found)
  split at present
  · rename_i same
    exact Or.inr ⟨caller, generation, pass, runs, List.mem_cons_self .., Or.inl same.symm⟩
  · rename_i differs
    have idle : place.generation = none := by
      by_contra leads
      obtain ⟨own, leads⟩ := Option.ne_none_iff_exists'.mp leads
      obtain ⟨-, -, alone⟩ := led.of_leads ((leads_found present).trans leads)
      have none := alone caller fun same => differs same.symm
      rw [leads_found found] at none
      cases none
    by_cases awaits : place.target = some generation
    · exact Or.inr ⟨caller, generation, pass, runs, List.mem_cons_self .., Or.inr awaits⟩
    -- The call waits for an earlier generation, or has returned.
    have before : coordinator.served place = true := by
      have reached : ∀ target, place.target = some target →
          (coordinator.to caller (.passing generation pass)).reached target = true →
            coordinator.reached target = true := by
        intro target waits reached
        simp only [Coordinator.reached, Bool.or_eq_true, Bool.and_eq_true,
          decide_eq_true_eq] at reached ⊢
        rcases reached with past | ⟨running, _⟩
        · exact Or.inl past
        · have same : coordinator.runningGeneration = some target := running
          rw [busy] at same
          exact absurd (waits.trans same.symm) awaits
      cases place with
      | waiting target => exact reached target rfl served
      | watching target notified => exact reached target rfl served
      | parked target notified => exact reached target rfl served
      | passing own number => cases idle
      | notifying after => exact served
      | returned => rfl
      | _ => cases served
    rcases seen place present before with passed | ⟨leader, own, number, ownRuns, _, _⟩
    · exact Or.inl (passed.later [.began pass])
    · obtain rfl := led.same_leader ownRuns found (by simp [Phase.generation])
      rw [found] at ownRuns
      cases ownRuns

/-- The pass of the only leader is completed. -/
theorem Seen.complete {coordinator next : Coordinator Note} {since : List (Event Note)}
    {caller other generation pass : Nat} {phase : Phase} (led : Led coordinator)
    (seen : Seen coordinator since other)
    (found : coordinator.callers[caller]? = some (.passing generation pass))
    (callers : next.callers = coordinator.callers)
    (completed : next.completedGeneration = generation) (elsewhere : phase.isPassing = false)
    (own : next.served phase = true → coordinator.trailingRequested = false)
    (noTarget : phase.target = none) :
    Seen (next.to caller phase) (.completed pass :: since) other := by
  obtain ⟨busy, after, alone⟩ := led.of_leads (leads_found found)
  have foundNext : next.callers[caller]? = some (.passing generation pass) := callers ▸ found
  have quiet : (next.to caller phase).callers.any Phase.isPassing = false := by
    have moved : (next.to caller phase).callers = (coordinator.to caller phase).callers := by
      rw [Coordinator.to, Coordinator.to, callers]
    rw [moved]
    exact no_passing led found (by simp [Phase.generation]) elsewhere
  have runs : coordinator.callers.any Phase.isPassing = true :=
    any_passing.mpr ⟨caller, generation, pass, found⟩
  have reached : ∀ target, (next.to caller phase).reached target = true →
      coordinator.reached target = true := by
    intro target reached
    simp only [Coordinator.reached, quiet, Bool.and_false, Bool.or_false, decide_eq_true_eq,
      Bool.or_eq_true, Bool.and_eq_true, runs, and_true, busy, Option.some.injEq] at reached ⊢
    have past : target ≤ generation := completed ▸ reached
    omega
  intro place present served
  rw [callers_to foundNext] at present
  split at present
  · rename_i same
    cases present
    subst same
    refine Or.inl (seen.completes led found found ?_)
    have last : coordinator.trailingRequested = false := by
      apply own
      cases phase with
      | waiting target => cases noTarget
      | watching target notified => cases noTarget
      | parked target notified => cases noTarget
      | passing own number => cases elsewhere
      | _ => exact served
    simp [Coordinator.served, last]
  · rename_i differs
    rw [callers] at present
    refine Or.inl (seen.completes led found present (served_of served reached ?_))
    intro passing _
    cases place with
    | passing ownGeneration number =>
      exact absurd (led.same_leader present found (by simp [Phase.generation])) differs
    | _ => cases passing

/-- A call that neither waits nor leads a pass and needs no further one. -/
theorem Seen.settled {coordinator : Coordinator Note} {since : List (Event Note)} {caller : Nat}
    {phase : Phase} (seen : Seen coordinator since caller)
    (found : coordinator.callers[caller]? = some phase) (noTarget : phase.target = none)
    (elsewhere : phase.isPassing = false) (served : coordinator.served phase = true) :
    Passed since := by
  rcases seen phase found served with passed | ⟨leader, generation, pass, runs, _, same⟩
  · exact passed
  · rcases same with rfl | waits
    · rw [found] at runs
      cases runs
      cases elsewhere
    · rw [noTarget] at waits
      cases waits

/-- The pass of the only leader is dropped. -/
theorem Seen.drop {coordinator : Coordinator Note} {since : List (Event Note)}
    {caller other generation pass : Nat} (led : Led coordinator)
    (seen : Seen coordinator since other)
    (found : coordinator.callers[caller]? = some (.passing generation pass))
    (running : Option Nat) :
    Seen ({ coordinator with runningGeneration := running }.to caller .dropped) since other := by
  have quiet : ({ coordinator with runningGeneration := running }.to caller .dropped).callers.any
      Phase.isPassing = false :=
    no_passing led found (by simp [Phase.generation]) rfl
  have past : ∀ target,
      ({ coordinator with runningGeneration := running }.to caller .dropped).reached target = true →
        target ≤ coordinator.completedGeneration := by
    intro target reached
    rw [Coordinator.reached, quiet, Bool.and_false, Bool.or_false] at reached
    exact of_decide_eq_true reached
  intro place present served
  have moved := (callers_to found .dropped other).symm.trans present
  split at moved
  · cases moved
    cases served
  · rename_i differs
    cases place with
    | waiting target => exact Or.inl (seen.answered led moved rfl (past target served))
    | watching target notified => exact Or.inl (seen.answered led moved rfl (past target served))
    | parked target notified => exact Or.inl (seen.answered led moved rfl (past target served))
    | passing own number =>
      exact absurd (led.same_leader moved found (by simp [Phase.generation])) differs
    | notifying after => exact Or.inl (seen.settled moved rfl rfl served)
    | returned => exact Or.inl (seen.settled moved rfl rfl served)
    | _ => cases served

theorem Moves.seen {coordinator next : Coordinator Note} {caller other : Nat}
    (moves : Moves coordinator caller next) (led : Led coordinator) {since : List (Event Note)}
    (seen : Seen coordinator since other) :
    ∃ newer, next.log = newer ++ coordinator.log ∧ Seen next (newer ++ since) other := by
  cases moves with
  | waits running found busy =>
    refine ⟨[], rfl, seen.request.beside found rfl rfl ?_⟩
    intro _ served
    exfalso
    have next : running = coordinator.completedGeneration + 1 := by
      unfold Led at led
      rw [busy] at led
      exact led.1
    have late : ¬ running + 1 ≤ coordinator.completedGeneration := by omega
    simp [Coordinator.served, Coordinator.reached, busy, late] at served
  | leads phase found former idle =>
    have nobody : ∀ caller, coordinator.leads caller = none := by
      unfold Led at led
      rwa [idle] at led
    refine ⟨[], rfl, (seen.take nobody _).beside found ?_ rfl fun _ served => by cases served⟩
    rcases former with rfl | ⟨target, notified, rfl⟩ <;> rfl
  | begins generation found => exact ⟨[.began coordinator.passes], rfl, seen.begin led found _⟩
  | continues generation pass found trailing =>
    refine ⟨[.completed pass], rfl, seen.complete led found rfl rfl rfl ?_ rfl⟩
    intro served
    cases served
  | finishes generation pass found last =>
    exact ⟨[.completed pass], rfl, seen.complete led found rfl rfl rfl (fun _ => last) rfl⟩
  | notifies phase after found turn =>
    have present : coordinator.notifyWaiters.callers[caller]? = some phase.notify := by
      rw [Coordinator.notifyWaiters, List.getElem?_map, found]
      rfl
    refine ⟨[], rfl, ?_⟩
    rcases turn with ⟨generation, rfl, rfl⟩ | ⟨rfl, rfl⟩ | ⟨rfl, rfl⟩
    · exact seen.notify.beside present rfl rfl fun _ served => by cases served
    · exact seen.notify.beside present rfl rfl fun _ _ => ⟨rfl, rfl⟩
    · exact seen.notify.beside present rfl rfl fun _ served => by cases served
  | answered target notified found reached =>
    refine ⟨[], rfl, ?_⟩
    by_cases same : other = caller
    · subst same
      intro place _ _
      exact Or.inl (seen.answered led found rfl reached)
    · exact seen.beside found rfl rfl fun equal => absurd equal same
  | watches target found => exact ⟨[], rfl, seen.beside found rfl rfl fun _ served => ⟨served, rfl⟩⟩
  | parks target running notified found behind busy =>
    exact ⟨[], rfl, seen.beside found rfl rfl fun _ served => ⟨served, rfl⟩⟩
  | wakes target found => exact ⟨[], rfl, seen.beside found rfl rfl fun _ served => ⟨served, rfl⟩⟩
  | abandons phase found former =>
    refine ⟨[], rfl, seen.beside found ?_ rfl fun _ served => by cases served⟩
    rcases former with rfl | ⟨target, notified, rfl⟩ <;> rfl
  | drops generation pass found => exact ⟨[], rfl, seen.drop led found _⟩

/-! ### Runs -/

theorem callers_call {coordinator : Coordinator Note} {caller : Nat} {phase : Phase}
    (found : (coordinator.callers ++ [.entering])[caller]? = some phase) :
    coordinator.callers[caller]? = some phase ∨
      caller = coordinator.callers.length ∧ phase = .entering := by
  rw [List.getElem?_append] at found
  split at found
  · exact Or.inl found
  · obtain ⟨bound, same⟩ := List.getElem?_eq_some_iff.mp found
    have last : caller - coordinator.callers.length = 0 := by simpa using bound
    refine Or.inr ⟨by omega, ?_⟩
    simpa [last] using same.symm

theorem step_seen {coordinator next : Coordinator Note} {action : Action Note} {other : Nat}
    (led : Led coordinator) {since : List (Event Note)} (seen : Seen coordinator since other)
    (stepped : step coordinator action = some next) :
    ∃ newer, next.log = newer ++ coordinator.log ∧ Seen next (newer ++ since) other := by
  cases action with
  | call =>
    cases stepped
    refine ⟨[.called coordinator.callers.length], rfl, seen.frame _ ?_ ?_⟩
    · intro place present served
      rcases callers_call present with earlier | ⟨-, rfl⟩
      · refine ⟨place, earlier, served_of served (reached_of rfl ?_) fun _ off => off, rfl⟩
        intro target busy runs
        refine ⟨busy, ?_⟩
        simpa [Phase.isPassing] using runs
      · cases served
    · intro leader generation pass runs
      have bound := (List.getElem?_eq_some_iff.mp runs).1
      exact (List.getElem?_append_left bound).trans runs
  | advance caller => exact (advance_moves stepped).seen led seen
  | cancel caller => exact (cancel_moves stepped).seen led seen
  | note note =>
    cases stepped
    refine ⟨[.noted note], rfl, seen.frame _ ?_ fun _ _ _ runs => runs⟩
    intro place present served
    exact ⟨place, present, served, rfl⟩

/-- Only notes are recorded as notes. -/
theorem step_log {coordinator next : Coordinator Note} {action : Action Note}
    (stepped : step coordinator action = some next) :
    ∃ newer, next.log = newer ++ coordinator.log ∧
      ∀ note, .noted note ∈ newer → action = .note note := by
  have moved : ∀ caller, Moves coordinator caller next →
      ∃ newer, next.log = newer ++ coordinator.log ∧ ∀ note, .noted note ∉ newer := by
    intro caller moves
    cases moves with
    | begins generation found => exact ⟨[.began coordinator.passes], rfl, by simp⟩
    | continues generation pass found trailing => exact ⟨[.completed pass], rfl, by simp⟩
    | finishes generation pass found last => exact ⟨[.completed pass], rfl, by simp⟩
    | _ => exact ⟨[], rfl, by simp⟩
  cases action with
  | call =>
    cases stepped
    exact ⟨[.called coordinator.callers.length], rfl, by simp⟩
  | advance caller =>
    obtain ⟨newer, logged, none⟩ := moved caller (advance_moves stepped)
    exact ⟨newer, logged, fun note member => absurd member (none note)⟩
  | cancel caller =>
    obtain ⟨newer, logged, none⟩ := moved caller (cancel_moves stepped)
    exact ⟨newer, logged, fun note member => absurd member (none note)⟩
  | note note =>
    cases stepped
    exact ⟨[.noted note], rfl, by simp⟩

theorem Moves.length {coordinator next : Coordinator Note} {caller : Nat}
    (moves : Moves coordinator caller next) :
    next.callers.length = coordinator.callers.length := by
  cases moves <;> simp [Coordinator.to, Coordinator.notifyWaiters]

theorem Moves.completed {coordinator next : Coordinator Note} {caller : Nat}
    (moves : Moves coordinator caller next) (led : Led coordinator) :
    coordinator.completedGeneration ≤ next.completedGeneration := by
  cases moves with
  | continues generation pass found trailing =>
    obtain ⟨-, after, -⟩ := led.of_leads (leads_found found)
    exact after ▸ Nat.le_succ _
  | finishes generation pass found last =>
    obtain ⟨-, after, -⟩ := led.of_leads (leads_found found)
    exact after ▸ Nat.le_succ _
  | _ => exact Nat.le_refl _

theorem step_completed {coordinator next : Coordinator Note} {action : Action Note}
    (led : Led coordinator) (stepped : step coordinator action = some next) :
    coordinator.completedGeneration ≤ next.completedGeneration := by
  cases action with
  | call =>
    cases stepped
    exact Nat.le_refl _
  | advance caller => exact (advance_moves stepped).completed led
  | cancel caller => exact (cancel_moves stepped).completed led
  | note note =>
    cases stepped
    exact Nat.le_refl _

/-- Every call is recorded, and what it has seen is recorded after it. -/
def Recorded (coordinator : Coordinator Note) : Prop :=
  ∀ caller < coordinator.callers.length, ∃ since older,
    coordinator.log = since ++ .called caller :: older ∧ Seen coordinator since caller

theorem step_recorded {coordinator next : Coordinator Note} {action : Action Note}
    (led : Led coordinator) (recorded : Recorded coordinator)
    (stepped : step coordinator action = some next) : Recorded next := by
  have earlier : ∀ caller < coordinator.callers.length, ∃ since older,
      next.log = since ++ .called caller :: older ∧ Seen next since caller := by
    intro caller bound
    obtain ⟨since, older, logged, seen⟩ := recorded caller bound
    obtain ⟨newer, grown, seenNext⟩ := step_seen led seen stepped
    exact ⟨newer ++ since, older, by rw [grown, logged, List.append_assoc], seenNext⟩
  intro caller bound
  cases action with
  | call =>
    by_cases old : caller < coordinator.callers.length
    · exact earlier caller old
    · cases stepped
      have last : caller = coordinator.callers.length := by
        simp only [List.length_append, List.length_cons, List.length_nil] at bound
        omega
      subst last
      exact ⟨[], coordinator.log, rfl, Seen.of_unserved List.getElem?_concat_length rfl⟩
  | advance other => exact earlier caller ((advance_moves stepped).length ▸ bound)
  | cancel other => exact earlier caller ((cancel_moves stepped).length ▸ bound)
  | note note =>
    cases stepped
    exact earlier caller bound

theorem initial_led : Led (initial : Coordinator Note) := by
  intro caller
  rfl

/-- In every run at most one pass runs, completed generations only grow, and a call
that returned saw a pass begin after it and complete. -/
theorem refreshes_coordinated (trace later : List (Action Note))
    (coordinator final : Coordinator Note)
    (ran : Runs.exec step initial trace = some coordinator)
    (continued : Runs.exec step coordinator later = some final) :
    (∀ caller other generation otherGeneration pass otherPass : Nat,
      coordinator.callers[caller]? = some (.passing generation pass) →
      coordinator.callers[other]? = some (.passing otherGeneration otherPass) →
        caller = other) ∧
    coordinator.completedGeneration ≤ final.completedGeneration ∧
    ∀ caller : Nat, coordinator.callers[caller]? = some .returned →
      ∃ pass, [.completed pass, .began pass, .called caller].Sublist coordinator.log := by
  have always : ∀ (trace : List (Action Note)) state,
      Runs.Admitted step (fun _ _ => True) state trace :=
    fun trace state => Runs.Admitted.of_forall (fun _ _ => trivial) state
  obtain ⟨led, recorded⟩ := Runs.exec_invariant step (fun _ _ => True)
    (fun state => Led state ∧ Recorded state)
    (fun _ _ _ _ held stepped =>
      ⟨step_led held.1 stepped, step_recorded held.1 held.2 stepped⟩)
    trace initial coordinator ⟨initial_led, fun _ bound => nomatch bound⟩ (always _ _) ran
  refine ⟨?_, ?_, ?_⟩
  · intro caller other generation otherGeneration pass otherPass runs otherRuns
    exact led.same_leader runs otherRuns (by simp [Phase.generation])
  · exact (Runs.exec_invariant step (fun _ _ => True)
      (fun state => Led state ∧ coordinator.completedGeneration ≤ state.completedGeneration)
      (fun _ _ _ _ held stepped =>
        ⟨step_led held.1 stepped, Nat.le_trans held.2 (step_completed held.1 stepped)⟩)
      later coordinator final ⟨led, Nat.le_refl _⟩ (always _ _) continued).2
  · intro caller found
    obtain ⟨since, older, logged, seen⟩ :=
      recorded caller (List.getElem?_eq_some_iff.mp found).1
    obtain ⟨pass, ordered⟩ := seen.settled found rfl rfl rfl
    refine ⟨pass, ?_⟩
    rw [logged]
    exact ordered.append (List.singleton_sublist.mpr (List.mem_cons_self ..))

/-- A second call joins while the first leads a pass, the first is dropped, and the
second leads both generations. -/
def leaderDropped : List (Action Unit) :=
  [.call, .advance 0, .advance 0, .call, .advance 1, .advance 1, .advance 1, .cancel 0,
    .advance 0, .advance 1, .advance 1, .advance 1, .advance 1, .advance 1, .advance 1,
    .advance 1, .advance 1, .advance 1]

theorem refreshes_coordinated_dropped :
    ∃ coordinator : Coordinator Unit,
      Runs.exec step initial leaderDropped = some coordinator ∧
      coordinator.callers = [.cancelled, .returned] ∧
      ∃ pass, [.completed pass, .began pass, .called 1].Sublist coordinator.log := by
  have result : (Runs.exec step (initial : Coordinator Unit) leaderDropped).map
      Coordinator.callers = some [.cancelled, .returned] := by decide
  obtain ⟨coordinator, ran, callers⟩ := Option.map_eq_some_iff.mp result
  obtain ⟨-, -, returns⟩ := refreshes_coordinated leaderDropped [] coordinator coordinator ran rfl
  refine ⟨coordinator, ran, callers, returns 1 ?_⟩
  rw [callers]
  rfl

end Plug.RefreshCoordinator
