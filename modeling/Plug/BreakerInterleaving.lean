import Plug.CircuitBreaker

/-!
# The circuit breaker one atomic operation at a time

State, opening time, failure count and permits are separate atomics, so between
two operations of one caller any other may act. A caller is a program counter;
a step loads, swaps or stores one atomic, reads the clock, or takes or gives back
one permit. The log records every change of the breaker's state and every
admission, newest first, with the clock.

What the breaker promises holds as long as three things do not happen: a caller
half-opens a breaker on an opening time read before its latest opening, a caller
takes a permit from an open breaker, and a breaker is half-opened while old
permits, or callers about to add new ones, are still around.
-/

namespace Plug.BreakerInterleaving

open CircuitBreaker (CircuitState CircuitBreakerConfig notSet)

inductive Operation where
  | callAllowed
  | onSuccess
  | onFailure
  | reset
deriving DecidableEq

/-- The operation a caller takes next, with what it has read so far. -/
inductive Pc where
  | allowedLoad
  | allowedLoadOpened
  | allowedClock (openedAt : Nat)
  | allowedSwap (openedAt : Nat)
  | draining
  | drainingHeld
  | addingPermits
  | acquiring
  | successLoad
  | successClear
  | successSwap
  | successStoreCount
  | successStoreTime
  | failureLoad
  | failureCount
  | failureSwapClosed
  | failureSwapHalfOpen
  | failureClock
  | failureStore (opened : Nat)
  | resetState
  | resetCount
  | resetTime
  | done
deriving DecidableEq

def Operation.start : Operation → Pc
  | .callAllowed => .allowedLoad
  | .onSuccess => .successLoad
  | .onFailure => .failureLoad
  | .reset => .resetState

/-- A change of the breaker's state, or a call that was admitted. -/
inductive Event where
  | opened (time : Nat)
  | halfOpened
  | closed
  | admitted (time : Nat)
deriving DecidableEq

/-- What all callers share, with the log of what happened. -/
structure Shared where
  state : CircuitState
  failureCount : Nat
  openSinceNanos : Nat
  permits : Nat
  clock : Nat
  log : List Event

structure State where
  shared : Shared
  callers : List Pc

def initial : State where
  shared :=
    { state := .closed, failureCount := 0, openSinceNanos := notSet, permits := 0, clock := 0,
      log := [] }
  callers := []

/-- The call is admitted now. -/
def Shared.admitting (shared : Shared) : Shared :=
  { shared with log := .admitted shared.clock :: shared.log }

/-- The breaker opens now. -/
def Shared.opening (shared : Shared) : Shared :=
  { shared with state := .open, log := .opened shared.clock :: shared.log }

/-- One atomic operation of one caller. -/
def Pc.advance (config : CircuitBreakerConfig) (shared : Shared) : Pc → Shared × Pc
  | .allowedLoad =>
    match shared.state with
    | .closed => (shared.admitting, .done)
    | .open => (shared, .allowedLoadOpened)
    | .halfOpen => (shared, .acquiring)
  | .allowedLoadOpened => (shared, .allowedClock shared.openSinceNanos)
  | .allowedClock openedAt =>
    if config.openDuration ≤ shared.clock - openedAt then (shared, .allowedSwap openedAt)
    else (shared, .done)
  | .allowedSwap _ =>
    if shared.state = .open then
      ({ shared with state := .halfOpen, log := .halfOpened :: shared.log }, .draining)
    else (shared, .acquiring)
  | .draining =>
    if shared.permits = 0 then (shared, .addingPermits)
    else ({ shared with permits := shared.permits - 1 }, .drainingHeld)
  -- The permit is dropped where it was acquired, which gives it back.
  | .drainingHeld => ({ shared with permits := shared.permits + 1 }, .draining)
  | .addingPermits => ({ shared with permits := shared.permits + config.probeCount }, .acquiring)
  | .acquiring =>
    if shared.permits = 0 then (shared, .done)
    else ({ shared with permits := shared.permits - 1 }.admitting, .done)
  | .successLoad =>
    match shared.state with
    | .closed => (shared, .successClear)
    | .halfOpen => (shared, .successSwap)
    | .open => (shared, .done)
  | .successClear => ({ shared with failureCount := 0 }, .done)
  | .successSwap =>
    if shared.state = .halfOpen then
      ({ shared with state := .closed, log := .closed :: shared.log }, .successStoreCount)
    else (shared, .done)
  | .successStoreCount => ({ shared with failureCount := 0 }, .successStoreTime)
  | .successStoreTime => ({ shared with openSinceNanos := notSet }, .done)
  | .failureLoad =>
    match shared.state with
    | .closed => (shared, .failureCount)
    | .halfOpen => (shared, .failureSwapHalfOpen)
    | .open => (shared, .done)
  | .failureCount =>
    ({ shared with failureCount := shared.failureCount + 1 },
      if config.failureThreshold ≤ shared.failureCount + 1 then .failureSwapClosed else .done)
  | .failureSwapClosed =>
    if shared.state = .closed then (shared.opening, .failureClock) else (shared, .done)
  | .failureSwapHalfOpen =>
    if shared.state = .halfOpen then (shared.opening, .failureClock) else (shared, .done)
  | .failureClock => (shared, .failureStore shared.clock)
  | .failureStore opened => ({ shared with openSinceNanos := opened }, .done)
  | .resetState =>
    ({ shared with state := .closed, log := .closed :: shared.log }, .resetCount)
  | .resetCount => ({ shared with failureCount := 0 }, .resetTime)
  | .resetTime => ({ shared with openSinceNanos := notSet }, .done)
  | .done => (shared, .done)

inductive Action where
  | start (operation : Operation)
  | advance (caller : Nat)
  | tick (elapsed : Nat)
deriving DecidableEq

def step (config : CircuitBreakerConfig) (state : State) : Action → Option State
  | .start operation => some { state with callers := state.callers ++ [operation.start] }
  | .advance caller =>
    match state.callers[caller]? with
    | none => none
    | some pc =>
      let outcome := pc.advance config state.shared
      some { shared := outcome.1, callers := state.callers.set caller outcome.2 }
  | .tick elapsed =>
    some { state with shared := { state.shared with clock := state.shared.clock + elapsed } }

/-- Calls admitted since the last change of state. -/
def admittedSince : List Event → Nat
  | .admitted _ :: rest => admittedSince rest + 1
  | _ => 0

/-- Whether the last change of state half-opened the breaker. -/
def inHalfOpen : List Event → Bool
  | .admitted _ :: rest => inHalfOpen rest
  | .halfOpened :: _ => true
  | _ => false

/-- No call is admitted before the open duration has passed since each opening,
and at most `probeCount` are admitted between a half-opening and the next change. -/
def Lawful (config : CircuitBreakerConfig) : List Event → Prop
  | [] => True
  | .admitted time :: rest =>
    (∀ opened, .opened opened ∈ rest → opened + config.openDuration ≤ time) ∧
      (inHalfOpen rest = true → admittedSince rest < config.probeCount) ∧ Lawful config rest
  | _ :: rest => Lawful config rest

/-- Between half-opening the breaker and adding its permits. -/
def Pc.entering : Pc → Bool
  | .draining | .drainingHeld | .addingPermits => true
  | _ => false

/-- Every opening in the log happened no later than the time given. -/
def openedBy (time : Nat) (log : List Event) : Bool :=
  log.all fun
    | .opened opened => opened ≤ time
    | _ => true

/-- The step is not one of the three that break the promise. -/
def orderly (state : State) : Action → Bool
  | .advance caller =>
    match state.callers[caller]?, state.shared.state with
    | some (.allowedSwap openedAt), .open =>
      openedBy openedAt state.shared.log && state.shared.permits == 0 &&
        !state.callers.any Pc.entering
    | some .acquiring, .open => state.shared.permits == 0
    | _, _ => true
  | .start operation => operation != .reset
  | .tick _ => true

/-- The permits a caller holds or is about to add. -/
def Pc.weight (config : CircuitBreakerConfig) : Pc → Nat
  | .draining => config.probeCount
  | .drainingHeld => config.probeCount + 1
  | .addingPermits => config.probeCount
  | _ => 0

def load (config : CircuitBreakerConfig) (callers : List Pc) : Nat :=
  (callers.map (Pc.weight config)).sum

def Pc.resetting : Pc → Bool
  | .resetState | .resetCount | .resetTime => true
  | _ => false

/-- What an atomic operation of a run without resets can do. -/
inductive Move (config : CircuitBreakerConfig) (shared : Shared) : Pc → Shared → Pc → Prop where
  | quiet (pc next : Pc) (failureCount openSinceNanos : Nat)
      (lighter : next.weight config ≤ pc.weight config)
      (elapsed : ∀ openedAt, next = .allowedSwap openedAt →
        config.openDuration ≤ shared.clock - openedAt)
      (running : next.resetting = false) :
      Move config shared pc { shared with failureCount, openSinceNanos } next
  | admittedClosed (closed : shared.state = .closed) :
      Move config shared .allowedLoad shared.admitting .done
  | halfOpened (openedAt : Nat) (isOpen : shared.state = .open) :
      Move config shared (.allowedSwap openedAt)
        { shared with state := .halfOpen, log := .halfOpened :: shared.log } .draining
  | permitHeld (available : shared.permits ≠ 0) :
      Move config shared .draining { shared with permits := shared.permits - 1 } .drainingHeld
  | permitDropped :
      Move config shared .drainingHeld { shared with permits := shared.permits + 1 } .draining
  | permitsAdded :
      Move config shared .addingPermits
        { shared with permits := shared.permits + config.probeCount } .acquiring
  | acquired (available : shared.permits ≠ 0) :
      Move config shared .acquiring { shared with permits := shared.permits - 1 }.admitting .done
  | closed (halfOpen : shared.state = .halfOpen) :
      Move config shared .successSwap
        { shared with state := .closed, log := .closed :: shared.log } .successStoreCount
  | opened (pc : Pc) : Move config shared pc shared.opening .failureClock

theorem advance_move (config : CircuitBreakerConfig) (shared : Shared) (pc : Pc)
    (running : pc.resetting = false) :
    Move config shared pc (pc.advance config shared).1 (pc.advance config shared).2 := by
  have quiet (next : Pc) (lighter : next.weight config ≤ pc.weight config)
      (elapsed : ∀ openedAt, next = .allowedSwap openedAt →
        config.openDuration ≤ shared.clock - openedAt)
      (running : next.resetting = false) : Move config shared pc shared next :=
    .quiet pc next shared.failureCount shared.openSinceNanos lighter elapsed running
  cases pc with
  | allowedLoad =>
    cases status : shared.state with
    | closed => simpa [Pc.advance, status] using Move.admittedClosed status
    | «open» =>
      simpa [Pc.advance, status] using quiet .allowedLoadOpened (Nat.le_refl _) (by simp) rfl
    | halfOpen => simpa [Pc.advance, status] using quiet .acquiring (Nat.le_refl _) (by simp) rfl
  | allowedLoadOpened => exact quiet _ (Nat.le_refl _) (by simp [Pc.advance]) rfl
  | allowedClock openedAt =>
    by_cases elapsed : config.openDuration ≤ shared.clock - openedAt
    · simp only [Pc.advance, elapsed, if_true]
      refine quiet _ (Nat.le_refl _) ?_ rfl
      rintro read same
      cases same
      exact elapsed
    · simp only [Pc.advance, elapsed, if_false]
      exact quiet _ (Nat.le_refl _) (by simp) rfl
  | allowedSwap openedAt =>
    by_cases isOpen : shared.state = .open
    · simpa [Pc.advance, isOpen] using Move.halfOpened openedAt isOpen
    · simpa [Pc.advance, isOpen] using quiet .acquiring (Nat.le_refl _) (by simp) rfl
  | draining =>
    by_cases empty : shared.permits = 0
    · simpa [Pc.advance, empty] using quiet .addingPermits (Nat.le_refl _) (by simp) rfl
    · simpa [Pc.advance, empty] using Move.permitHeld empty
  | drainingHeld => exact .permitDropped
  | addingPermits => exact .permitsAdded
  | acquiring =>
    by_cases empty : shared.permits = 0
    · simpa [Pc.advance, empty] using quiet .done (Nat.le_refl _) (by simp) rfl
    · simpa [Pc.advance, empty] using Move.acquired empty
  | successLoad =>
    cases status : shared.state with
    | closed => simpa [Pc.advance, status] using quiet .successClear (Nat.le_refl _) (by simp) rfl
    | «open» => simpa [Pc.advance, status] using quiet .done (Nat.le_refl _) (by simp) rfl
    | halfOpen => simpa [Pc.advance, status] using quiet .successSwap (Nat.le_refl _) (by simp) rfl
  | successClear => exact .quiet _ _ _ _ (Nat.le_refl _) (by simp [Pc.advance]) rfl
  | successSwap =>
    by_cases halfOpen : shared.state = .halfOpen
    · simpa [Pc.advance, halfOpen] using Move.closed halfOpen
    · simpa [Pc.advance, halfOpen] using quiet .done (Nat.le_refl _) (by simp) rfl
  | successStoreCount => exact .quiet _ _ _ _ (Nat.le_refl _) (by simp [Pc.advance]) rfl
  | successStoreTime => exact .quiet _ _ _ _ (Nat.le_refl _) (by simp [Pc.advance]) rfl
  | failureLoad =>
    cases status : shared.state with
    | closed => simpa [Pc.advance, status] using quiet .failureCount (Nat.le_refl _) (by simp) rfl
    | «open» => simpa [Pc.advance, status] using quiet .done (Nat.le_refl _) (by simp) rfl
    | halfOpen =>
      simpa [Pc.advance, status] using quiet .failureSwapHalfOpen (Nat.le_refl _) (by simp) rfl
  | failureCount =>
    by_cases reached : config.failureThreshold ≤ shared.failureCount + 1
    · simp only [Pc.advance, reached, if_true]
      exact .quiet _ _ _ _ (Nat.le_refl _) (by simp) rfl
    · simp only [Pc.advance, reached, if_false]
      exact .quiet _ _ _ _ (Nat.le_refl _) (by simp) rfl
  | failureSwapClosed =>
    by_cases closed : shared.state = .closed
    · simpa [Pc.advance, closed] using Move.opened .failureSwapClosed
    · simpa [Pc.advance, closed] using quiet .done (Nat.le_refl _) (by simp) rfl
  | failureSwapHalfOpen =>
    by_cases halfOpen : shared.state = .halfOpen
    · simpa [Pc.advance, halfOpen] using Move.opened .failureSwapHalfOpen
    · simpa [Pc.advance, halfOpen] using quiet .done (Nat.le_refl _) (by simp) rfl
  | failureClock => exact quiet _ (Nat.le_refl _) (by simp [Pc.advance]) rfl
  | failureStore opened => exact .quiet _ _ _ _ (Nat.le_refl _) (by simp [Pc.advance]) rfl
  | done => exact quiet _ (Nat.le_refl _) (by simp [Pc.advance]) rfl
  | resetState | resetCount | resetTime => cases running

/-- Moving one caller changes the load by that caller's weight. -/
theorem load_set (config : CircuitBreakerConfig) (callers : List Pc) (caller : Nat) (pc next : Pc)
    (present : callers[caller]? = some pc) :
    load config (callers.set caller next) + pc.weight config =
      load config callers + next.weight config := by
  induction callers generalizing caller with
  | nil => simp at present
  | cons first rest ih =>
    cases caller with
    | zero =>
      obtain rfl : first = pc := by simpa using present
      simp only [load, List.set_cons_zero, List.map_cons, List.sum_cons]
      omega
    | succ caller =>
      have later := ih caller (by simpa using present)
      simp only [load, List.set_cons_succ, List.map_cons, List.sum_cons] at later ⊢
      omega

/-- Callers that are not entering weigh nothing. -/
theorem load_eq_zero (config : CircuitBreakerConfig) (callers : List Pc)
    (none : callers.any Pc.entering = false) : load config callers = 0 := by
  induction callers with
  | nil => rfl
  | cons first rest ih =>
    simp only [List.any_cons, Bool.or_eq_false_iff] at none
    have light : first.weight config = 0 := by
      cases first <;> simp_all [Pc.entering, Pc.weight]
    simpa [load, light] using ih none.2

/-- What holds of every state of an orderly run. -/
structure Disciplined (config : CircuitBreakerConfig) (state : State) : Prop where
  lawful : Lawful config state.shared.log
  past : ∀ opened, .opened opened ∈ state.shared.log → opened ≤ state.shared.clock
  elapsed : state.shared.state ≠ .open → ∀ opened, .opened opened ∈ state.shared.log →
    opened + config.openDuration ≤ state.shared.clock
  swaps : ∀ openedAt, .allowedSwap openedAt ∈ state.callers →
    config.openDuration ≤ state.shared.clock - openedAt
  period : inHalfOpen state.shared.log = true → state.shared.state = .halfOpen
  budget : state.shared.state = .halfOpen →
    admittedSince state.shared.log + state.shared.permits + load config state.callers ≤
      config.probeCount
  running : ∀ pc ∈ state.callers, pc.resetting = false

/-- The steps that the condition restricts. -/
theorem orderly_swap (state : State) (caller openedAt : Nat)
    (met : orderly state (.advance caller) = true)
    (present : state.callers[caller]? = some (.allowedSwap openedAt))
    (isOpen : state.shared.state = .open) :
    (∀ opened, .opened opened ∈ state.shared.log → opened ≤ openedAt) ∧
      state.shared.permits = 0 ∧ state.callers.any Pc.entering = false := by
  simp only [orderly, present, isOpen, Bool.and_eq_true, beq_iff_eq, Bool.not_eq_true'] at met
  refine ⟨?_, met.1.2, met.2⟩
  intro opened member
  simpa using List.all_eq_true.mp met.1.1 (.opened opened) member

theorem orderly_acquire (state : State) (caller : Nat)
    (met : orderly state (.advance caller) = true)
    (present : state.callers[caller]? = some .acquiring) (available : state.shared.permits ≠ 0) :
    state.shared.state ≠ .open := by
  intro isOpen
  simp only [orderly, present, isOpen, beq_iff_eq] at met
  exact available met

/-- An orderly move keeps the discipline. -/
theorem move_disciplined (config : CircuitBreakerConfig) (state : State) (caller : Nat) (pc : Pc)
    (shared : Shared) (next : Pc) (met : orderly state (.advance caller) = true)
    (present : state.callers[caller]? = some pc)
    (move : Move config state.shared pc shared next) (running : next.resetting = false)
    (disciplined : Disciplined config state) :
    Disciplined config ⟨shared, state.callers.set caller next⟩ := by
  have balance := load_set config state.callers caller pc next present
  have budget := disciplined.budget
  have members : ∀ other ∈ state.callers.set caller next, other ∈ state.callers ∨ other = next :=
    fun other => List.mem_or_eq_of_mem_set
  have stillRunning : ∀ other ∈ state.callers.set caller next, other.resetting = false := by
    intro other member
    rcases members other member with before | rfl
    · exact disciplined.running other before
    · exact running
  have swaps (fresh : ∀ openedAt, next ≠ .allowedSwap openedAt) : ∀ openedAt,
      .allowedSwap openedAt ∈ state.callers.set caller next →
      config.openDuration ≤ state.shared.clock - openedAt := by
    intro openedAt member
    cases members _ member with
    | inl before => exact disciplined.swaps openedAt before
    | inr same => exact absurd same.symm (fresh openedAt)
  cases move with
  | quiet _ _ failureCount openSinceNanos lighter elapsed =>
    refine ⟨disciplined.lawful, disciplined.past, disciplined.elapsed, ?_, disciplined.period, ?_,
      stillRunning⟩
    · intro openedAt member
      cases members _ member with
      | inl before => exact disciplined.swaps openedAt before
      | inr same => exact elapsed openedAt same.symm
    · intro halfOpen
      have := budget halfOpen
      simp only
      omega
  | admittedClosed closed =>
    have other : state.shared.state ≠ .open := by simp [closed]
    refine ⟨⟨disciplined.elapsed other, ?_, disciplined.lawful⟩, ?_, ?_, swaps (by simp), ?_, ?_,
      stillRunning⟩
    · intro inPeriod
      simp [disciplined.period inPeriod] at closed
    · simpa [Shared.admitting] using disciplined.past
    · intro _
      simpa [Shared.admitting] using disciplined.elapsed other
    · simpa [Shared.admitting, inHalfOpen] using disciplined.period
    · intro halfOpen
      simp [Shared.admitting, closed] at halfOpen
  | halfOpened openedAt isOpen =>
    obtain ⟨current, empty, alone⟩ := orderly_swap state caller openedAt met present isOpen
    have waited := disciplined.swaps openedAt (List.mem_of_getElem? present)
    refine ⟨disciplined.lawful, ?_, ?_, swaps (by simp), fun _ => rfl, ?_, stillRunning⟩
    · simpa using disciplined.past
    · intro _ opened member
      have member : .opened opened ∈ state.shared.log := by simpa using member
      have read := current opened member
      have past := disciplined.past opened member
      simp only
      omega
    · intro _
      have idle := load_eq_zero config state.callers alone
      simp only [admittedSince, Pc.weight] at balance ⊢
      omega
  | permitHeld available =>
    refine ⟨disciplined.lawful, disciplined.past, disciplined.elapsed, swaps (by simp),
      disciplined.period, ?_, stillRunning⟩
    intro halfOpen
    have := budget halfOpen
    simp only [Pc.weight] at balance ⊢
    omega
  | permitDropped =>
    refine ⟨disciplined.lawful, disciplined.past, disciplined.elapsed, swaps (by simp),
      disciplined.period, ?_, stillRunning⟩
    intro halfOpen
    have := budget halfOpen
    simp only [Pc.weight] at balance ⊢
    omega
  | permitsAdded =>
    refine ⟨disciplined.lawful, disciplined.past, disciplined.elapsed, swaps (by simp),
      disciplined.period, ?_, stillRunning⟩
    intro halfOpen
    have := budget halfOpen
    simp only [Pc.weight] at balance ⊢
    omega
  | acquired available =>
    have other := orderly_acquire state caller met present available
    refine ⟨⟨disciplined.elapsed other, ?_, disciplined.lawful⟩, ?_, ?_, swaps (by simp), ?_, ?_,
      stillRunning⟩
    · intro inPeriod
      have := budget (disciplined.period inPeriod)
      have room : admittedSince state.shared.log < config.probeCount := by omega
      exact room
    · simpa [Shared.admitting] using disciplined.past
    · intro _
      simpa [Shared.admitting] using disciplined.elapsed other
    · simpa [Shared.admitting, inHalfOpen] using disciplined.period
    · intro halfOpen
      have := budget halfOpen
      simp only [Shared.admitting, admittedSince, Pc.weight] at balance ⊢
      omega
  | closed halfOpen =>
    have other : state.shared.state ≠ .open := by simp [halfOpen]
    refine ⟨disciplined.lawful, ?_, ?_, swaps (by simp), ?_, ?_, stillRunning⟩
    · simpa using disciplined.past
    · intro _
      simpa using disciplined.elapsed other
    · intro inPeriod
      simp [inHalfOpen] at inPeriod
    · intro isHalfOpen
      cases isHalfOpen
  | opened =>
    refine ⟨disciplined.lawful, ?_, ?_, swaps (by simp), ?_, ?_, stillRunning⟩
    · intro opened member
      cases List.mem_cons.mp member with
      | inl now =>
        cases now
        exact Nat.le_refl _
      | inr before => exact disciplined.past opened before
    · intro isClosed
      exact absurd rfl isClosed
    · intro inPeriod
      simp [Shared.opening, inHalfOpen] at inPeriod
    · intro isHalfOpen
      cases isHalfOpen

theorem move_running (config : CircuitBreakerConfig) (shared after : Shared) (pc next : Pc)
    (move : Move config shared pc after next) : next.resetting = false := by
  cases move with
  | quiet _ _ _ _ _ _ running => exact running
  | _ => rfl

theorem step_disciplined (config : CircuitBreakerConfig) (state next : State) (action : Action)
    (met : orderly state action = true) (disciplined : Disciplined config state)
    (stepped : step config state action = some next) : Disciplined config next := by
  cases action with
  | start operation =>
    cases stepped
    have added : ∀ openedAt, operation.start ≠ .allowedSwap openedAt := by
      intro openedAt
      cases operation <;> simp [Operation.start]
    have light : load config (state.callers ++ [operation.start]) = load config state.callers := by
      cases operation <;> simp [load, Operation.start, Pc.weight]
    refine ⟨disciplined.lawful, disciplined.past, disciplined.elapsed, ?_, disciplined.period, ?_,
      ?_⟩
    · intro openedAt member
      cases List.mem_append.mp member with
      | inl before => exact disciplined.swaps openedAt before
      | inr last => exact absurd (List.mem_singleton.mp last).symm (added openedAt)
    · simpa only [light] using disciplined.budget
    · intro pc member
      cases List.mem_append.mp member with
      | inl before => exact disciplined.running pc before
      | inr last =>
        obtain rfl := List.mem_singleton.mp last
        cases operation <;> simp_all [Operation.start, Pc.resetting, orderly]
  | advance caller =>
    simp only [step] at stepped
    split at stepped
    · cases stepped
    · rename_i pc present
      cases stepped
      have move := advance_move config state.shared pc
        (disciplined.running pc (List.mem_of_getElem? present))
      exact move_disciplined config state caller pc _ _ met present move
        (move_running config _ _ _ _ move) disciplined
  | tick elapsed =>
    cases stepped
    refine ⟨disciplined.lawful, ?_, ?_, ?_, disciplined.period, disciplined.budget,
      disciplined.running⟩
    · intro opened member
      have := disciplined.past opened member
      simp only
      omega
    · intro other opened member
      have := disciplined.elapsed other opened member
      simp only
      omega
    · intro openedAt member
      have := disciplined.swaps openedAt member
      simp only
      omega

/-- In every orderly run of any number of callers, no call is admitted before
the open duration has passed since each opening, and at most `probeCount` calls
are admitted in each half-open period. -/
theorem admissions_lawful (config : CircuitBreakerConfig) (trace : List Action) (final : State)
    (admitted : Runs.Admitted (step config) (fun state action => orderly state action = true)
      initial trace)
    (ran : Runs.exec (step config) initial trace = some final) :
    Lawful config final.shared.log := by
  have initially : Disciplined config initial := by
    refine ⟨trivial, ?_, ?_, ?_, ?_, ?_, ?_⟩ <;> simp [initial, inHalfOpen]
  exact (Runs.exec_invariant (step config) _ (Disciplined config)
    (fun state action next met disciplined stepped =>
      step_disciplined config state next action met disciplined stepped)
    trace initial final initially admitted ran).lawful

/-- One caller takes some steps. -/
def advances (caller steps : Nat) : List Action :=
  List.replicate steps (.advance caller)

/-- Five failures open the breaker, and after thirty seconds a caller half-opens
it and is admitted. -/
def openedTrace : List Action :=
  List.flatten [
    List.replicate 5 (.start .onFailure), advances 0 2, advances 1 2, advances 2 2, advances 3 2,
    advances 4 5, [.tick 30000000000, .start .callAllowed], advances 5 7]

/-- The first probe of that run was admitted lawfully. -/
theorem admissions_lawful_opened :
    ∃ final, Runs.exec (step .default) initial openedTrace = some final ∧
      final.shared.log = [.admitted 30000000000, .halfOpened, .opened 0] ∧
      Lawful .default final.shared.log := by
  have facts : (Runs.exec (step .default) initial openedTrace).any (fun state =>
      state.shared.log == [.admitted 30000000000, .halfOpened, .opened 0]) = true := by
    decide +kernel
  simp only [Option.any_eq_true, beq_iff_eq] at facts
  obtain ⟨final, ran, logged⟩ := facts
  exact ⟨final, ran, logged, admissions_lawful .default openedTrace final (by decide +kernel) ran⟩

/-- The probe fails and swaps the state, but has not stored the new opening time
when a caller reads the old one and half-opens the breaker at once. -/
def staleTimeTrace : List Action :=
  List.flatten [
    openedTrace, [.start .onFailure], advances 6 2,
    [.start .callAllowed], advances 7 4, [.start .callAllowed], advances 8 2]

/-- A call is admitted at the very moment the breaker opened. -/
theorem stale_time_admits_early :
    ∃ final, .start .reset ∉ staleTimeTrace ∧
      Runs.exec (step .default) initial staleTimeTrace = some final ∧
      ¬ Lawful .default final.shared.log := by
  have facts : (Runs.exec (step .default) initial staleTimeTrace).any (fun state =>
      state.shared.log == [.admitted 30000000000, .halfOpened, .opened 30000000000,
        .admitted 30000000000, .halfOpened, .opened 0]) = true := by
    decide +kernel
  simp only [Option.any_eq_true, beq_iff_eq] at facts
  obtain ⟨final, ran, logged⟩ := facts
  refine ⟨final, by decide +kernel, ran, ?_⟩
  intro lawful
  rw [logged] at lawful
  have early := lawful.1 30000000000 (by simp)
  simp [CircuitBreakerConfig.default] at early

end Plug.BreakerInterleaving
