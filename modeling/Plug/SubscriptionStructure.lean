import Plug.SubscriptionEffects

/-!
# The shape of the subscription registry over undisturbed runs

Every effect is composed of a few moves: an entry is written, a transition is
spawned, obtains its lock, takes a step, or releases the lock. Each move keeps
the registry well formed under its own conditions, and the effects are assembled
from them. The run rule at the end carries an invariant along every undisturbed
run, whatever the order of its steps.
-/

set_option linter.unusedSectionVars false

namespace Plug.Subscriptions

variable {Uri Server Target : Type}

section Moves

variable [DecidableEq Uri] [DecidableEq Server] [DecidableEq Target]

/-- What was unfinished before a spawn, and the spawned transition. -/
theorem unfinished_spawn (state : State Uri Server Target) (uri : Uri)
    (spawned transition : Transition Uri Server) :
    Unfinished (state.spawn spawned) uri transition ↔
      Unfinished state uri transition ∨ (transition = spawned ∧ spawned.uri = uri) := by
  simp only [Unfinished, State.spawn, List.mem_append, List.mem_singleton]
  grind

/-- Obtaining the lock finishes nothing. -/
theorem unfinished_started (state : State Uri Server Target) (index : Nat)
    (started transition : Transition Uri Server) (uri : Uri)
    (queued : state.queued[index]? = some started) (free : state.running started.uri = none) :
    Unfinished { state with
        queued := state.queued.eraseIdx index
        running := Function.update state.running started.uri (some started.start) }
      uri transition ↔ Unfinished state uri transition := by
  have membership := Runs.mem_iff_eraseIdx queued transition
  unfold Unfinished
  by_cases here : uri = started.uri
  · subst here
    simp only [Function.update_self, Option.map_some, start_transition, Option.some.injEq, free,
      Option.map_none, reduceCtorEq, false_or, membership]
    grind
  · simp only [Function.update_of_ne here, membership]
    grind

theorem unfinished_progressed (state : State Uri Server Target) (uri other : Uri)
    (stage following : Running Uri Server) (held : Server → Uri → Bool)
    (transition : Transition Uri Server) (running : state.running uri = some stage)
    (same : following.transition = stage.transition) :
    Unfinished { state with
        running := Function.update state.running uri (some following), held := held }
      other transition ↔ Unfinished state other transition := by
  unfold Unfinished
  by_cases here : other = uri
  · subst here
    simp only [Function.update_self, Option.map_some, running, same]
  · simp only [Function.update_of_ne here]

/-- A step that keeps the lock stays in its transition's body. -/
theorem Progress.transition_eq {state : State Uri Server Target} {uri : Uri}
    {stage following : Running Uri Server} {held : Server → Uri → Bool}
    (progress : Progress state uri stage following held) :
    following.transition = stage.transition := by
  cases progress <;> rfl

/-- Releasing the lock finishes the transition that held it and no other. -/
theorem unfinished_released (state : State Uri Server Target) (uri other : Uri)
    (stage : Running Uri Server) (transition : Transition Uri Server)
    (running : state.running uri = some stage) :
    (Unfinished (state.setRunning uri none) other transition → Unfinished state other transition) ∧
      (Unfinished state other transition →
        Unfinished (state.setRunning uri none) other transition ∨
          (other = uri ∧ transition = stage.transition)) := by
  unfold Unfinished State.setRunning
  by_cases here : other = uri
  · subst here
    simp only [Function.update_self, Option.map_none, running, Option.map_some]
    grind
  · simp only [Function.update_of_ne here]
    grind

/-- An entry fits as long as the transitions unfinished on its URI stay. -/
theorem EntryFits.congr {state next : State Uri Server Target} {uri : Uri}
    {entry : Entry Server Target} (fits : EntryFits state uri entry)
    (later : state.nextGeneration ≤ next.nextGeneration)
    (connections : next.connection = state.connection)
    (same : ∀ transition, Unfinished next uri transition ↔ Unfinished state uri transition) :
    EntryFits next uri entry where
  bound := lt_of_lt_of_le fits.bound later
  inactive := fun transition unfinished =>
    fits.inactive transition ((same transition).mp unfinished)
  marked := fun transition unfinished => fits.marked transition ((same transition).mp unfinished)
  pendingStarted := by
    intro owner pending
    obtain ⟨transition, unfinished, facts⟩ := fits.pendingStarted owner pending
    exact ⟨transition, (same transition).mpr unfinished, facts⟩
  drainingStarted := by
    intro prior draining
    obtain ⟨transition, unfinished, facts⟩ := fits.drainingStarted prior draining
    exact ⟨transition, (same transition).mpr unfinished, facts⟩
  membersNonempty := fits.membersNonempty
  ownerConnection := by
    rw [connections]
    exact fits.ownerConnection

/-- Writing a fitting entry. -/
theorem wellFormed_setEntry (state : State Uri Server Target) (uri : Uri)
    (written : Option (Entry Server Target)) (wellFormed : WellFormed state)
    (fits : ∀ entry, written = some entry → EntryFits state uri entry) :
    WellFormed (state.setEntry uri written) where
  connected := wellFormed.connected
  fits := by
    intro other entry present
    have carried : EntryFits state other entry := by
      by_cases here : other = uri
      · subst here
        exact fits entry (by simpa [State.setEntry] using present)
      · refine wellFormed.fits other entry ?_
        simpa [State.setEntry, Function.update_of_ne here] using present
    exact carried.congr le_rfl rfl fun _ => Iff.rfl
  bound := wellFormed.bound
  handles := wellFormed.handles
  queuedDistinct := wellFormed.queuedDistinct
  runningDistinct := wellFormed.runningDistinct
  confirmations := wellFormed.confirmations
  conclusions := wellFormed.conclusions

/-- Spawning a transition on a URI that has no entry yet or not any more. A
starter has to be the only one of its generation. -/
theorem wellFormed_spawn (state : State Uri Server Target) (spawned : Transition Uri Server)
    (wellFormed : WellFormed state) (absent : state.entries spawned.uri = none)
    (bound : spawned.generation < state.nextGeneration)
    (handle : spawned.HandleCurrent state.connection)
    (fresh : ∀ uri transition, Unfinished state uri transition → Distinct transition spawned) :
    WellFormed (state.spawn spawned) where
  connected := wellFormed.connected
  fits := by
    intro uri entry present
    refine (wellFormed.fits uri entry present).congr le_rfl rfl ?_
    intro transition
    rw [unfinished_spawn]
    refine or_iff_left ?_
    rintro ⟨rfl, rfl⟩
    exact absurd present (by simp [State.spawn, absent])
  bound := by
    intro uri transition unfinished
    rcases (unfinished_spawn state uri spawned transition).mp unfinished with before | ⟨rfl, -⟩
    · exact wellFormed.bound uri transition before
    · exact bound
  handles := by
    intro uri transition unfinished
    rcases (unfinished_spawn state uri spawned transition).mp unfinished with before | ⟨rfl, -⟩
    · exact wellFormed.handles uri transition before
    · exact handle
  queuedDistinct := by
    refine List.pairwise_append.mpr ⟨wellFormed.queuedDistinct, List.pairwise_singleton _ _, ?_⟩
    intro transition queued last isLast
    obtain rfl := List.mem_singleton.mp isLast
    exact fresh transition.uri transition (.inr ⟨queued, rfl⟩)
  runningDistinct := by
    intro uri stage running transition queued
    cases List.mem_append.mp queued with
    | inl before => exact wellFormed.runningDistinct uri stage running transition before
    | inr isLast =>
      obtain rfl := List.mem_singleton.mp isLast
      exact fresh uri stage.transition (.inl (by
        have unchanged : state.running uri = some stage := running
        rw [unchanged, Option.map_some]))
  confirmations := wellFormed.confirmations
  conclusions := wellFormed.conclusions

/-- Taking the next generation. -/
theorem wellFormed_bump (state : State Uri Server Target) (wellFormed : WellFormed state) :
    WellFormed { state with nextGeneration := state.nextGeneration + 1 } where
  connected := wellFormed.connected
  fits := fun uri entry present =>
    (wellFormed.fits uri entry present).congr (Nat.le_succ _) rfl fun _ => Iff.rfl
  bound := fun uri transition unfinished =>
    Nat.lt_succ_of_lt (wellFormed.bound uri transition unfinished)
  handles := wellFormed.handles
  queuedDistinct := wellFormed.queuedDistinct
  runningDistinct := wellFormed.runningDistinct
  confirmations := wellFormed.confirmations
  conclusions := wellFormed.conclusions

/-- A queued transition obtains its lock. -/
theorem wellFormed_started (state : State Uri Server Target) (index : Nat)
    (started : Transition Uri Server) (wellFormed : WellFormed state)
    (queued : state.queued[index]? = some started) (free : state.running started.uri = none) :
    WellFormed { state with
      queued := state.queued.eraseIdx index
      running := Function.update state.running started.uri (some started.start) } where
  connected := wellFormed.connected
  fits := fun uri entry present => (wellFormed.fits uri entry present).congr le_rfl rfl
    fun transition => unfinished_started state index started transition uri queued free
  bound := fun uri transition unfinished => wellFormed.bound uri transition
    ((unfinished_started state index started transition uri queued free).mp unfinished)
  handles := fun uri transition unfinished => wellFormed.handles uri transition
    ((unfinished_started state index started transition uri queued free).mp unfinished)
  queuedDistinct := wellFormed.queuedDistinct.sublist (List.eraseIdx_sublist _ _)
  runningDistinct := by
    obtain ⟨bound, found⟩ := List.getElem?_eq_some_iff.mp queued
    intro uri stage running transition remaining
    by_cases here : uri = started.uri
    · subst here
      have first : (started :: state.queued.eraseIdx index).Pairwise Distinct := by
        rw [← found]
        exact ((List.getElem_cons_eraseIdx_perm bound).pairwise_iff fun distinct =>
          distinct.symm).mpr wellFormed.queuedDistinct
      obtain rfl : started.start = stage := by simpa using running
      rw [start_transition]
      exact (List.pairwise_cons.mp first).1 transition remaining
    · have unchanged : state.running uri = some stage := by
        simpa [Function.update_of_ne here] using running
      exact wellFormed.runningDistinct uri stage unchanged transition
        (List.mem_of_mem_eraseIdx remaining)
  confirmations := by
    intro uri transition succeeded running
    by_cases here : uri = started.uri
    · subst here
      cases started <;> simp [Transition.start] at running
    · exact wellFormed.confirmations uri transition succeeded
        (by simpa [Function.update_of_ne here] using running)
  conclusions := by
    intro uri transition failed running
    by_cases here : uri = started.uri
    · subst here
      cases started <;> simp [Transition.start] at running
    · exact wellFormed.conclusions uri transition failed
        (by simpa [Function.update_of_ne here] using running)

/-- A transition takes a step inside its body. -/
theorem wellFormed_progressed (state : State Uri Server Target) (uri : Uri)
    (stage following : Running Uri Server) (held : Server → Uri → Bool)
    (wellFormed : WellFormed state) (running : state.running uri = some stage)
    (progress : Progress state uri stage following held) :
    WellFormed { state with
      running := Function.update state.running uri (some following), held := held } := by
  have same (other : Uri) (transition : Transition Uri Server) :=
    unfinished_progressed state uri other stage following held transition running
      progress.transition_eq
  refine ⟨wellFormed.connected, ?_, ?_, ?_, wellFormed.queuedDistinct, ?_, ?_, ?_⟩
  · intro other entry present
    exact (wellFormed.fits other entry present).congr le_rfl rfl (same other)
  · intro other transition unfinished
    exact wellFormed.bound other transition ((same other transition).mp unfinished)
  · intro other transition unfinished
    exact wellFormed.handles other transition ((same other transition).mp unfinished)
  · intro other present presentRunning transition queued
    by_cases here : other = uri
    · subst here
      obtain rfl : following = present := by simpa using presentRunning
      rw [progress.transition_eq]
      exact wellFormed.runningDistinct other stage running transition queued
    · exact wellFormed.runningDistinct other present
        (by simpa [Function.update_of_ne here] using presentRunning) transition queued
  · intro other transition succeeded present
    by_cases here : other = uri
    · subst here
      obtain rfl : following = .confirming transition succeeded := by simpa using present
      cases progress
      rfl
    · exact wellFormed.confirmations other transition succeeded
        (by simpa [Function.update_of_ne here] using present)
  · intro other transition failed present
    by_cases here : other = uri
    · subst here
      obtain rfl : following = .concluding transition failed := by simpa using present
      cases progress with
      | resubscribeSkipped _ reason unusable => simp [unusable]
      | resubscribeCalled _ generation usable => simp [usable]
    · exact wellFormed.conclusions other transition failed
        (by simpa [Function.update_of_ne here] using present)

/-- A transition ends without an entry on its generation. -/
theorem wellFormed_released (state : State Uri Server Target) (uri : Uri)
    (stage : Running Uri Server) (wellFormed : WellFormed state)
    (running : state.running uri = some stage)
    (stale : ∀ entry, state.entries uri = some entry →
      entry.generation ≠ stage.transition.generation) :
    WellFormed (state.setRunning uri none) := by
  have before (other : Uri) (transition : Transition Uri Server) :=
    (unfinished_released state uri other stage transition running).1
  have runningBefore : ∀ other present,
      (state.setRunning uri none).running other = some present →
      state.running other = some present := by
    intro other present presentRunning
    by_cases here : other = uri
    · subst here
      simp [State.setRunning] at presentRunning
    · simpa [State.setRunning, Function.update_of_ne here] using presentRunning
  refine ⟨wellFormed.connected, ?_, ?_, ?_, wellFormed.queuedDistinct, ?_, ?_, ?_⟩
  · intro other entry present
    have fits := wellFormed.fits other entry present
    have remains : ∀ transition, Unfinished state other transition →
        transition.generation = entry.generation →
        Unfinished (state.setRunning uri none) other transition := by
      intro transition unfinished same
      rcases (unfinished_released state uri other stage transition running).2 unfinished with
        remaining | ⟨rfl, rfl⟩
      · exact remaining
      · exact absurd same.symm (stale entry present)
    refine ⟨fits.bound, ?_, ?_, ?_, ?_, fits.membersNonempty, fits.ownerConnection⟩
    · exact fun transition unfinished => fits.inactive transition (before other _ unfinished)
    · exact fun transition unfinished => fits.marked transition (before other _ unfinished)
    · intro owner pending
      obtain ⟨transition, unfinished, starts, same⟩ := fits.pendingStarted owner pending
      exact ⟨transition, remains transition unfinished same, starts, same⟩
    · intro prior draining
      obtain ⟨transition, unfinished, starts, same⟩ := fits.drainingStarted prior draining
      exact ⟨transition, remains transition unfinished same, starts, same⟩
  · exact fun other transition unfinished =>
      wellFormed.bound other transition (before other _ unfinished)
  · exact fun other transition unfinished =>
      wellFormed.handles other transition (before other _ unfinished)
  · exact fun other present presentRunning => wellFormed.runningDistinct other present
      (runningBefore other present presentRunning)
  · exact fun other transition succeeded present => wellFormed.confirmations other transition
      succeeded (runningBefore other _ present)
  · exact fun other transition failed present => wellFormed.conclusions other transition failed
      (runningBefore other _ present)

/-- An entry is marked for draining and its drain spawned. -/
theorem wellFormed_marked (state : State Uri Server Target) (uri : Uri)
    (entry : Entry Server Target) (members : Finset Target) (upstream : Option (Upstream Server))
    (wellFormed : WellFormed state) (present : state.entries uri = some entry) :
    WellFormed ((state.setEntry uri (some { entry with members }.markDraining)).spawn
      (.drain { uri, generation := entry.generation, upstream })) := by
  let drain : Transition Uri Server := .drain { uri, generation := entry.generation, upstream }
  have fits := wellFormed.fits uri entry present
  -- The entry is taken out while the drain is spawned: the old entry may be active.
  have split : (state.setEntry uri (some { entry with members }.markDraining)).spawn drain =
      ((state.setEntry uri none).spawn drain).setEntry uri
        (some { entry with members }.markDraining) := by
    simp only [State.setEntry, State.spawn, Function.update_idem]
  rw [split]
  have spawned : WellFormed ((state.setEntry uri none).spawn drain) := by
    refine wellFormed_spawn _ drain ?_ ?_ fits.bound trivial ?_
    · exact wellFormed_setEntry state uri none wellFormed (by simp)
    · exact Function.update_self uri none state.entries
    · intro other transition unfinished starts drains
      cases drains
  refine wellFormed_setEntry _ uri _ spawned ?_
  intro written same
  cases same
  refine ⟨fits.bound, ?_, ?_, ?_, ?_, ?_, fits.ownerConnection⟩
  · intro transition unfinished generation active
    cases active
  · exact fun transition unfinished generation drains => ⟨_, rfl⟩
  · intro owner pending
    cases pending
  · intro prior draining
    exact ⟨drain, (unfinished_spawn _ uri drain drain).mpr (.inr ⟨rfl, rfl⟩), rfl, rfl⟩
  · intro settled
    exact absurd rfl (settled _)

/-- An entry is written on a fresh generation together with the transition that
was spawned for it. -/
theorem wellFormed_renewed (state : State Uri Server Target) (uri : Uri)
    (entry : Nat → Entry Server Target) (spawned : Transition Uri Server)
    (wellFormed : WellFormed state) (here : spawned.uri = uri)
    (entryGeneration : ∀ generation, (entry generation).generation = generation)
    (spawnedGeneration : spawned.generation = state.nextGeneration)
    (handle : spawned.HandleCurrent state.connection)
    (kind : (∃ owner, (entry state.nextGeneration).state = .pending owner ∧
        spawned.starts = true ∧ (entry state.nextGeneration).members.Nonempty) ∨
      (∃ prior, (entry state.nextGeneration).state = .draining prior ∧ spawned.starts = false))
    (owned : ∀ owner, (entry state.nextGeneration).ownerServerId = some owner →
      (entry state.nextGeneration).ownerConnectionGeneration = state.connection owner) :
    WellFormed ((state.allot uri entry).spawn spawned) := by
  let bumped : State Uri Server Target := { state with nextGeneration := state.nextGeneration + 1 }
  have split : (state.allot uri entry).spawn spawned =
      ((bumped.setEntry uri none).spawn spawned).setEntry uri
        (some (entry state.nextGeneration)) := by
    simp only [State.allot, State.setEntry, State.spawn, Function.update_idem, bumped]
  have older : ∀ transition, Unfinished state uri transition →
      transition.generation < state.nextGeneration :=
    fun transition unfinished => wellFormed.bound uri transition unfinished
  rw [split]
  have spawnedWellFormed : WellFormed ((bumped.setEntry uri none).spawn spawned) := by
    refine wellFormed_spawn _ spawned ?_ ?_ ?_ handle ?_
    · exact wellFormed_setEntry bumped uri none (wellFormed_bump state wellFormed) (by simp)
    · rw [here]
      exact Function.update_self uri none state.entries
    · exact spawnedGeneration ▸ Nat.lt_succ_self _
    · intro other transition unfinished _ _ same
      have := wellFormed.bound other transition unfinished
      omega
  refine wellFormed_setEntry _ uri _ spawnedWellFormed ?_
  intro written same
  cases same
  have own : Unfinished ((bumped.setEntry uri none).spawn spawned) uri spawned :=
    (unfinished_spawn _ uri spawned spawned).mpr (.inr ⟨rfl, here⟩)
  -- Only the spawned transition can be on the fresh generation.
  have only : ∀ transition, Unfinished ((bumped.setEntry uri none).spawn spawned) uri transition →
      (entry state.nextGeneration).generation = transition.generation → transition = spawned := by
    intro transition unfinished generation
    rcases (unfinished_spawn _ uri spawned transition).mp unfinished with before | ⟨rfl, -⟩
    · have := older transition before
      rw [entryGeneration] at generation
      omega
    · rfl
  have agrees : spawned.generation = (entry state.nextGeneration).generation := by
    rw [spawnedGeneration, entryGeneration]
  refine ⟨?_, ?_, ?_, ?_, ?_, ?_, owned⟩
  · rw [entryGeneration]
    exact Nat.lt_succ_self _
  · intro transition unfinished generation active
    rcases kind with ⟨owner, pending, -⟩ | ⟨prior, draining, -⟩
    · simp [pending] at active
    · simp [draining] at active
  · intro transition unfinished generation drains
    obtain rfl := only transition unfinished generation
    rcases kind with ⟨owner, pending, starts, -⟩ | ⟨prior, draining, -⟩
    · simp [drains] at starts
    · exact ⟨prior, draining⟩
  · intro owner pending
    rcases kind with ⟨_, _, starts, -⟩ | ⟨prior, draining, -⟩
    · exact ⟨spawned, own, starts, agrees⟩
    · simp [draining] at pending
  · intro prior draining
    rcases kind with ⟨owner, pending, -⟩ | ⟨_, _, drains⟩
    · simp [pending] at draining
    · exact ⟨spawned, own, drains, agrees⟩
  · intro settled
    rcases kind with ⟨_, _, _, nonempty⟩ | ⟨prior, draining, -⟩
    · exact nonempty
    · exact absurd draining (settled prior)

/-- A transition ends and removes the entry if it is still on its generation. -/
theorem wellFormed_removeIf (state : State Uri Server Target) (uri : Uri)
    (stage : Running Uri Server) (wellFormed : WellFormed state)
    (running : state.running uri = some stage) :
    WellFormed ((state.setRunning uri none).removeIf uri stage.transition.generation) := by
  unfold State.removeIf
  split
  · rename_i entry present
    split
    · have removed := wellFormed_setEntry state uri none wellFormed (by simp)
      refine wellFormed_released (state.setEntry uri none) uri stage removed running ?_
      intro other absent
      simp [State.setEntry] at absent
    · rename_i stale
      refine wellFormed_released state uri stage wellFormed running ?_
      intro other presentOther
      obtain rfl : entry = other := Option.some.inj (present.symm.trans presentOther)
      exact stale
  · rename_i absent
    refine wellFormed_released state uri stage wellFormed running ?_
    intro other present
    exact absurd (absent.symm.trans present) (by simp)

/-- A starter ends and confirms the entry if it is still on its generation. -/
theorem wellFormed_confirm (state : State Uri Server Target) (uri : Uri)
    (stage : Running Uri Server) (owner : Server) (connectionGeneration : Option Nat)
    (wellFormed : WellFormed state) (running : state.running uri = some stage)
    (starts : stage.transition.starts = true)
    (current : state.connection owner = connectionGeneration) :
    WellFormed ((state.setRunning uri none).confirm uri stage.transition.generation owner
      connectionGeneration) := by
  unfold State.confirm
  split
  · rename_i entry present
    split
    · rename_i same
      have fits := wellFormed.fits uri entry present
      have removed := wellFormed_released (state.setEntry uri none) uri stage
        (wellFormed_setEntry state uri none wellFormed (by simp)) running
        (by simp [State.setEntry])
      have released := unfinished_released state uri uri stage
      have split : ∀ written, (state.setRunning uri none).setEntry uri written =
          ((state.setEntry uri none).setRunning uri none).setEntry uri written := by
        intro written
        simp only [State.setEntry, State.setRunning, Function.update_idem]
      rw [split]
      refine wellFormed_setEntry _ uri _ removed ?_
      intro written isWritten
      cases isWritten
      refine ⟨fits.bound, ?_, ?_, ?_, ?_, ?_, ?_⟩
      · intro transition unfinished generation active
        have before : Unfinished state uri transition :=
          (released transition running).1 unfinished
        cases status : entry.state with
        | active => exact fits.inactive transition before generation status
        | draining prior => simp [status] at active
        | pending intended =>
          -- A drain would have marked the entry; a second starter has its own generation.
          cases kind : transition.starts with
          | false =>
            obtain ⟨prior, draining⟩ := fits.marked transition before generation kind
            simp [status] at draining
          | true =>
            rcases unfinished with locked | ⟨queued, -⟩
            · simp [State.setRunning] at locked
            · exact wellFormed.runningDistinct uri stage running transition queued starts kind
                (same.symm.trans generation)
      · intro transition unfinished generation drains
        obtain ⟨prior, draining⟩ := fits.marked transition
          ((released transition running).1 unfinished) generation drains
        exact ⟨prior, by simp [draining]⟩
      · intro intended pending
        cases status : entry.state <;> simp [status] at pending
      · intro prior draining
        have marked : entry.state = .draining prior := by
          cases status : entry.state <;> simp [status] at draining
          rw [draining]
        obtain ⟨transition, unfinished, drains, generation⟩ := fits.drainingStarted prior marked
        rcases (released transition running).2 unfinished with remains | ⟨-, rfl⟩
        · exact ⟨transition, remains, drains, generation⟩
        · simp [starts] at drains
      · intro settled
        refine fits.membersNonempty ?_
        intro prior draining
        exact settled prior (by simp [draining])
      · intro recorded isRecorded
        cases isRecorded
        exact current.symm
    · rename_i stale
      refine wellFormed_released state uri stage wellFormed running ?_
      intro other presentOther
      obtain rfl : entry = other := Option.some.inj (present.symm.trans presentOther)
      exact stale
  · rename_i absent
    refine wellFormed_released state uri stage wellFormed running ?_
    intro other present
    exact absurd (absent.symm.trans present) (by simp)

theorem ending_wellFormed (state next : State Uri Server Target) (uri : Uri)
    (stage : Running Uri Server) (wellFormed : WellFormed state)
    (running : state.running uri = some stage) (ending : Ending state uri stage next) :
    WellFormed next := by
  have handle := wellFormed.handles uri stage.transition (.inl (by rw [running, Option.map_some]))
  cases ending with
  | superseded stage _ stale => exact wellFormed_released state uri stage wellFormed running stale
  | subscribeConfirmed transition =>
    exact wellFormed_confirm state uri _ _ _ wellFormed running rfl handle
  | drained transition => exact wellFormed_removeIf state uri _ wellFormed running
  | rebindConfirmed transition =>
    obtain ⟨generation, usable⟩ := (wellFormed.conclusions uri transition false running).mp rfl
    refine wellFormed_confirm state uri _ _ _ wellFormed running rfl ?_
    rw [handle generation usable, usable]
    rfl
  | rebindAbandoned transition => exact wellFormed_removeIf state uri _ wellFormed running

/-- Every effect keeps the registry well formed. -/
theorem effect_wellFormed (state next : State Uri Server Target)
    (action : Action Uri Server Target) (uri : Uri) (wellFormed : WellFormed state)
    (effect : Effect state action uri next) : WellFormed next := by
  cases effect with
  | unchanged => exact wellFormed
  | joined _ _ entry members present nonempty =>
    have fits := wellFormed.fits uri entry present
    refine wellFormed_setEntry state uri _ wellFormed ?_
    intro written same
    cases same
    exact ⟨fits.bound, fits.inactive, fits.marked, fits.pendingStarted, fits.drainingStarted,
      nonempty, fits.ownerConnection⟩
  | marked _ _ entry members upstream _ present =>
    exact wellFormed_marked state uri entry members upstream wellFormed present
  | subscribed _ target upstream displacedOwner takenOver current =>
    refine wellFormed_renewed state uri _ _ wellFormed rfl (fun _ => rfl) rfl current ?_ ?_
    · exact .inl ⟨_, rfl, rfl, Finset.singleton_nonempty target⟩
    · intro owner recorded
      cases recorded
  | migrated _ _ entry oldUpstream newServerId supportsSubscribe releaseOldOwner _ present
      nonempty =>
    have fits := wellFormed.fits uri entry present
    refine wellFormed_renewed state uri _ _ wellFormed rfl (fun _ => rfl) rfl ?_ ?_
      fits.ownerConnection
    · exact resolveRebindOwner_current state newServerId supportsSubscribe
    · exact .inl ⟨_, rfl, rfl, Finset.nonempty_iff_ne_empty.mpr nonempty⟩
  | emptied _ _ entry oldUpstream _ present =>
    have fits := wellFormed.fits uri entry present
    refine wellFormed_renewed state uri _ _ wellFormed rfl (fun _ => rfl) rfl trivial ?_
      fits.ownerConnection
    exact .inr ⟨_, rfl, rfl⟩
  | started index transition queued free =>
    exact wellFormed_started state index transition wellFormed queued free
  | progressed _ stage following held running progress =>
    exact wellFormed_progressed state uri stage following held wellFormed running progress
  | ended _ stage next running ending =>
    exact ending_wellFormed state next uri stage wellFormed running ending

end Moves

section Runs

variable [DecidableEq Uri] [DecidableEq Server] [DecidableEq Target]

/-- An invariant that every effect keeps holds at the end of every undisturbed
run; it may use that the registry is well formed, and the conditions the steps
of the run meet. -/
theorem undisturbed_invariant (admits : State Uri Server Target → Action Uri Server Target → Prop)
    (invariant : State Uri Server Target → Prop) (connection : Server → Option Nat)
    (connected : ∀ server, (connection server).isSome = true)
    (initially : invariant (initial connection))
    (preserved : ∀ state action uri next, WellFormed state → admits state action →
      Effect state action uri next → invariant state → invariant next)
    (trace : List (Action Uri Server Target)) (final : State Uri Server Target)
    (admitted : Runs.Admitted step (fun state action => Undisturbed action ∧ admits state action)
      (initial connection) trace)
    (ran : Runs.exec step (initial connection) trace = some final) :
    WellFormed final ∧ invariant final := by
  refine Runs.exec_invariant step _ (fun state => WellFormed state ∧ invariant state) ?_ trace
    (initial connection) final ⟨initial_wellFormed connection connected, initially⟩ admitted ran
  rintro state action next ⟨undisturbed, meets⟩ ⟨wellFormed, held⟩ stepped
  obtain ⟨uri, effect⟩ := step_effect state next action wellFormed undisturbed stepped
  exact ⟨effect_wellFormed state next action uri wellFormed effect,
    preserved state action uri next wellFormed meets effect held⟩

/-- Requests and transitions of other URIs never disturb a URI at rest. -/
theorem undisturbed_idle (connection : Server → Option Nat)
    (connected : ∀ server, (connection server).isSome = true)
    (trace : List (Action Uri Server Target)) (final : State Uri Server Target) (uri : Uri)
    (admitted : Runs.Admitted step
      (fun _ action => Undisturbed action ∧ action.requested ≠ some uri)
      (initial connection) trace)
    (ran : Runs.exec step (initial connection) trace = some final) : Idle final uri := by
  refine (undisturbed_invariant (fun _ action => action.requested ≠ some uri)
    (fun state => Idle state uri) connection connected ?_ ?_ trace final admitted ran).2
  · exact ⟨rfl, by simp [initial]⟩
  · intro state action here next _ unnamed effect idle
    exact effect.idle uri idle unnamed

/-- A run whose requests all name one URI is quiescent once that URI is. -/
theorem quiescent_of_single (connection : Server → Option Nat)
    (connected : ∀ server, (connection server).isSome = true)
    (trace : List (Action Uri Server Target)) (final : State Uri Server Target) (uri : Uri)
    (single : ∀ action ∈ trace, Undisturbed action ∧
      (action.requested = none ∨ action.requested = some uri))
    (ran : Runs.exec step (initial connection) trace = some final)
    (empty : final.queued = []) (free : final.running uri = none) : Quiescent final := by
  refine ⟨empty, ?_⟩
  intro other
  by_cases same : other = uri
  · exact same ▸ free
  · have unnamed : ∀ action ∈ trace, Undisturbed action ∧ action.requested ≠ some other := by
      intro action member
      obtain ⟨undisturbed, requested⟩ := single action member
      refine ⟨undisturbed, ?_⟩
      cases requested with
      | inl none =>
        simp [none]
      | inr some =>
        rw [some]
        exact fun isOther => same (Option.some.inj isOther).symm
    exact (undisturbed_idle connection connected trace final other
      (Runs.Admitted.of_forall unnamed _) ran).1

/-- A quiescent registry has active entries only, each with a member. -/
theorem quiescent_active (state : State Uri Server Target) (uri : Uri)
    (entry : Entry Server Target) (wellFormed : WellFormed state) (quiescent : Quiescent state)
    (present : state.entries uri = some entry) :
    entry.state = .active ∧ entry.members.Nonempty := by
  have fits := wellFormed.fits uri entry present
  have finished : ∀ transition, ¬ Unfinished state uri transition := by
    intro transition unfinished
    simp [Unfinished, quiescent.1, quiescent.2 uri] at unfinished
  have active : entry.state = .active := by
    cases status : entry.state with
    | active => rfl
    | pending owner =>
      obtain ⟨transition, unfinished, -⟩ := fits.pendingStarted owner status
      exact absurd unfinished (finished transition)
    | draining prior =>
      obtain ⟨transition, unfinished, -⟩ := fits.drainingStarted prior status
      exact absurd unfinished (finished transition)
  exact ⟨active, fits.membersNonempty (by simp [active])⟩

end Runs

end Plug.Subscriptions
