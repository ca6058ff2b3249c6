import Mathlib.Algebra.Order.Ring.Nat
import Plug.Runs
import Plug.ToolCalls

/-!
# The circuit breaker and the calls it admits

A breaker opens after a run of failures, refuses calls for a while, and then
admits a few probes. A probe takes a permit for good; the permits come back only
through the report of a call that ended, which closes the breaker or opens it for
another round. The direct call has many exits and some report nothing, so a
half-open breaker can be left without permits and without a call that will ever
report.

Here every operation of the breaker is one step. Calls have no identity beyond
whether they took a permit. Draining old permits on the way into the half-open
state acquires and drops one permit over and over, so it ends only when other
callers have taken them all: `draining` counts the callers still in that loop.
-/

namespace Plug.CircuitBreaker

open ToolCalls

inductive CircuitState where
  | closed
  | open
  | halfOpen
deriving DecidableEq

structure CircuitBreakerConfig where
  failureThreshold : Nat
  openDuration : Nat
  probeCount : Nat

/-- Five failures, thirty seconds, two probes. Times are in nanoseconds. -/
def CircuitBreakerConfig.default : CircuitBreakerConfig where
  failureThreshold := 5
  openDuration := 30000000000
  probeCount := 2

/-- The value of the opening time that means it is not set. -/
def notSet : Nat :=
  2 ^ 64 - 1

structure Breaker where
  state : CircuitState
  failureCount : Nat
  openSinceNanos : Nat
  permits : Nat
deriving DecidableEq

def Breaker.new : Breaker where
  state := .closed
  failureCount := 0
  openSinceNanos := notSet
  permits := 0

/-- How `call_allowed` comes back; `draining` has not come back yet. -/
inductive Admission where
  | allowed
  | probe
  | refused
  | draining
deriving DecidableEq

def Breaker.tryAcquireProbe (breaker : Breaker) : Breaker × Admission :=
  if breaker.permits = 0 then (breaker, .refused)
  else ({ breaker with permits := breaker.permits - 1 }, .probe)

/-- The end of the draining loop: no permit is left, the new ones are added and
the caller tries for its own. -/
def Breaker.drained (breaker : Breaker) (config : CircuitBreakerConfig) : Breaker × Admission :=
  { breaker with permits := config.probeCount }.tryAcquireProbe

def Breaker.callAllowed (breaker : Breaker) (config : CircuitBreakerConfig) (now : Nat) :
    Breaker × Admission :=
  match breaker.state with
  | .closed => (breaker, .allowed)
  | .open =>
    if config.openDuration ≤ now - breaker.openSinceNanos then
      let entered := { breaker with state := .halfOpen }
      if entered.permits = 0 then entered.drained config else (entered, .draining)
    else (breaker, .refused)
  | .halfOpen => breaker.tryAcquireProbe

def Breaker.onSuccess (breaker : Breaker) : Breaker :=
  match breaker.state with
  | .closed => { breaker with failureCount := 0 }
  | .halfOpen =>
    { breaker with state := .closed, failureCount := 0, openSinceNanos := notSet }
  | .open => breaker

def Breaker.onFailure (breaker : Breaker) (config : CircuitBreakerConfig) (now : Nat) : Breaker :=
  match breaker.state with
  | .closed =>
    let counted := { breaker with failureCount := breaker.failureCount + 1 }
    if config.failureThreshold ≤ breaker.failureCount + 1 then
      { counted with state := .open, openSinceNanos := now }
    else counted
  | .halfOpen => { breaker with state := .open, openSinceNanos := now }
  | .open => breaker

def Breaker.reset (breaker : Breaker) : Breaker :=
  { breaker with state := .closed, failureCount := 0, openSinceNanos := notSet }

/-- The exits before the request that come after the breaker's admission. -/
def afterAdmission : Stop → Bool
  | .duplicate | .busy | .semaphoreClosed | .upstreamMissing | .expiredContinuation
  | .sendFailed => true
  | _ => false

/-- How an admitted call ends: at one of the exits before its request, by being
dropped, or with an answer and what the direct call makes of it. -/
inductive Ending where
  | stopped (stop : Stop)
  | abandoned
  | answered (round : ToolRoundInput) (isRetry harmless : Bool) (answer : Answer)
      (reconnects : Bool)

def Ending.possible : Ending → Bool
  | .stopped stop => afterAdmission stop
  | _ => true

/-- The part of the breaker's ledger an ending touches. A retry has reconnected
its server, which resets the breaker. -/
inductive Report where
  | nothing
  | success
  | failure
  | reset
deriving DecidableEq

def Ending.report : Ending → Report
  | .stopped _ => .nothing
  | .abandoned => .nothing
  | .answered round isRetry harmless answer reconnects =>
    match verdict round isRetry harmless answer reconnects with
    | .ended none => .nothing
    | .ended (some true) => .success
    | .ended (some false) => .failure
    | .retry => .reset

def Breaker.record (breaker : Breaker) (config : CircuitBreakerConfig) (now : Nat) :
    Report → Breaker
  | .nothing => breaker
  | .success => breaker.onSuccess
  | .failure => breaker.onFailure config now
  | .reset => breaker.reset

/-- A breaker with the calls it admitted and that have not ended; a call that
took a permit is `true`. -/
structure State where
  breaker : Breaker
  now : Nat
  running : List Bool
  draining : Nat

def initial : State where
  breaker := .new
  now := 0
  running := []
  draining := 0

/-- One step of the calls against a server. `reset` is a reconnect made for any
other reason. -/
inductive Action where
  | callAllowed
  | drained
  | finish (index : Nat) (ending : Ending)
  | reset
  | tick (elapsed : Nat)

/-- A caller of `call_allowed` goes on with what it got. -/
def State.goOn (state : State) (outcome : Breaker × Admission) : State :=
  match outcome.2 with
  | .allowed => { state with breaker := outcome.1, running := state.running ++ [false] }
  | .probe => { state with breaker := outcome.1, running := state.running ++ [true] }
  | .refused => { state with breaker := outcome.1 }
  | .draining => { state with breaker := outcome.1, draining := state.draining + 1 }

def step (config : CircuitBreakerConfig) (state : State) : Action → Option State
  | .callAllowed => some (state.goOn (state.breaker.callAllowed config state.now))
  | .drained =>
    if state.draining = 0 ∨ state.breaker.permits ≠ 0 then none
    else some ({ state with draining := state.draining - 1 }.goOn (state.breaker.drained config))
  | .finish index ending =>
    match state.running[index]?, ending.possible with
    | some _, true => some { state with
        breaker := state.breaker.record config state.now ending.report
        running := state.running.eraseIdx index }
    | _, _ => none
  | .reset => some { state with breaker := state.breaker.reset }
  | .tick elapsed => some { state with now := state.now + elapsed }

/-- Whether the step is not the end of a probe that reports nothing to a
half-open breaker. -/
def returnsPermit (state : State) : Action → Bool
  | .finish index ending =>
    !(state.running[index]? == some true && state.breaker.state == .halfOpen &&
      ending.report == .nothing)
  | _ => true

/-- A half-open breaker has a permit left or a probe that has yet to report. -/
def ProbeLeft (state : State) : Prop :=
  state.breaker.state = .halfOpen → state.breaker.permits ≠ 0 ∨ true ∈ state.running

/-- A caller that tries for a permit takes one or finds none. -/
theorem tryAcquireProbe_cases (breaker : Breaker) :
    (breaker.permits = 0 ∧ breaker.tryAcquireProbe = (breaker, .refused)) ∨
      (breaker.permits ≠ 0 ∧ breaker.tryAcquireProbe =
        ({ breaker with permits := breaker.permits - 1 }, .probe)) := by
  unfold Breaker.tryAcquireProbe
  by_cases empty : breaker.permits = 0
  · exact .inl ⟨empty, by simp [empty]⟩
  · exact .inr ⟨empty, by simp [empty]⟩

/-- Adding permits gives the caller one of them. -/
theorem drained_eq (breaker : Breaker) (config : CircuitBreakerConfig)
    (probes : 0 < config.probeCount) :
    breaker.drained config =
      ({ breaker with permits := config.probeCount - 1 }, .probe) := by
  have some : config.probeCount ≠ 0 := by omega
  simp [Breaker.drained, Breaker.tryAcquireProbe, some]

/-- A report leaves no breaker half-open, and no report leaves it as it is. -/
theorem record_state (breaker : Breaker) (config : CircuitBreakerConfig) (now : Nat)
    (report : Report) (reported : report ≠ .nothing) :
    (breaker.record config now report).state ≠ .halfOpen := by
  cases report with
  | nothing => exact absurd rfl reported
  | success => cases status : breaker.state <;> simp [Breaker.record, Breaker.onSuccess, status]
  | failure =>
    cases status : breaker.state with
    | closed =>
      simp only [Breaker.record, Breaker.onFailure, status]
      split <;> simp
    | «open» => simp [Breaker.record, Breaker.onFailure, status]
    | halfOpen => simp [Breaker.record, Breaker.onFailure, status]
  | reset => simp [Breaker.record, Breaker.reset]

/-- Admission takes a permit only for a probe, and makes the breaker half-open
only with permits. -/
theorem callAllowed_probeLeft (config : CircuitBreakerConfig) (state : State)
    (probes : 0 < config.probeCount) (left : ProbeLeft state) :
    ProbeLeft (state.goOn (state.breaker.callAllowed config state.now)) := by
  unfold Breaker.callAllowed
  cases status : state.breaker.state with
  | closed =>
    intro halfOpen
    simp [State.goOn, status] at halfOpen
  | «open» =>
    dsimp only
    split
    · split
      · rw [drained_eq _ config probes]
        exact fun _ => .inr (by simp [State.goOn])
      · rename_i permits
        exact fun _ => .inl permits
    · intro halfOpen
      simp [State.goOn, status] at halfOpen
  | halfOpen =>
    rcases tryAcquireProbe_cases state.breaker with ⟨empty, refused⟩ | ⟨-, taken⟩
    · rw [refused]
      exact left
    · rw [taken]
      exact fun _ => .inr (by simp [State.goOn])

/-- Ending a call keeps a probe, unless it was the last and reported nothing. -/
theorem finish_probeLeft (config : CircuitBreakerConfig) (state : State) (index : Nat)
    (ending : Ending) (probe : Bool) (called : state.running[index]? = some probe)
    (returns : returnsPermit state (.finish index ending) = true) (left : ProbeLeft state) :
    ProbeLeft { state with
      breaker := state.breaker.record config state.now ending.report
      running := state.running.eraseIdx index } := by
  intro halfOpen
  have unreported : ending.report = .nothing := by
    by_cases unreported : ending.report = .nothing
    · exact unreported
    · exact absurd halfOpen
        (record_state state.breaker config state.now ending.report unreported)
  rw [unreported] at halfOpen ⊢
  have other : probe = false := by
    simpa [returnsPermit, called, unreported, show state.breaker.state = .halfOpen from halfOpen]
      using returns
  cases left halfOpen with
  | inl permits => exact .inl permits
  | inr running =>
    refine .inr ?_
    simpa [Runs.mem_iff_eraseIdx called, other] using running

/-- No step wedges the breaker unless a probe ends without a report. -/
theorem step_probeLeft (config : CircuitBreakerConfig) (probes : 0 < config.probeCount)
    (state next : State) (action : Action) (returns : returnsPermit state action = true)
    (left : ProbeLeft state) (stepped : step config state action = some next) :
    ProbeLeft next := by
  cases action with
  | callAllowed =>
    cases stepped
    exact callAllowed_probeLeft config state probes left
  | drained =>
    simp only [step] at stepped
    split at stepped
    · cases stepped
    · cases stepped
      rw [drained_eq _ config probes]
      exact fun _ => .inr (by simp [State.goOn])
  | finish index ending =>
    simp only [step] at stepped
    split at stepped
    · rename_i probe called _
      cases stepped
      exact finish_probeLeft config state index ending probe called returns left
    · cases stepped
  | reset =>
    cases stepped
    intro halfOpen
    simp [Breaker.reset] at halfOpen
  | tick elapsed =>
    cases stepped
    exact left

/-- The breaker never wedges in a run whose probes report to it: a half-open
breaker without permits has an admitted call that has not ended. -/
theorem breaker_not_wedged (config : CircuitBreakerConfig) (probes : 0 < config.probeCount)
    (trace : List Action) (final : State)
    (admitted : Runs.Admitted (step config)
      (fun state action => returnsPermit state action = true) initial trace)
    (ran : Runs.exec (step config) initial trace = some final)
    (halfOpen : final.breaker.state = .halfOpen) (empty : final.breaker.permits = 0) :
    final.running ≠ [] := by
  have left : ProbeLeft final :=
    Runs.exec_invariant (step config) _ ProbeLeft
      (fun state action next returns left stepped =>
        step_probeLeft config probes state next action returns left stepped)
      trace initial final (fun halfOpen => by cases halfOpen) admitted ran
  cases left halfOpen with
  | inl permits => exact absurd empty permits
  | inr probe => exact List.ne_nil_of_mem probe

/-- Five calls fail and the breaker opens; thirty seconds later two probes are
admitted. -/
def probedTrace : List Action :=
  List.replicate 5 .callAllowed ++
    List.replicate 5 (.finish 0 (.answered ⟨false, false, false⟩ false false (.error .mcpError)
      false)) ++
    [.tick 30000000000, .callAllowed, .callAllowed]

/-- With both permits taken the two probes are still running. -/
theorem breaker_not_wedged_probed :
    ∃ final, Runs.exec (step .default) initial probedTrace = some final ∧
      final.breaker.state = .halfOpen ∧ final.breaker.permits = 0 ∧ final.running ≠ [] := by
  have facts : (Runs.exec (step .default) initial probedTrace).any (fun state =>
      state.breaker.state == .halfOpen && state.breaker.permits == 0) = true := by
    decide +kernel
  simp only [Option.any_eq_true, Bool.and_eq_true, beq_iff_eq] at facts
  obtain ⟨final, ran, halfOpen, empty⟩ := facts
  exact ⟨final, ran, halfOpen, empty, breaker_not_wedged .default (by decide) probedTrace final
    (by decide +kernel) ran halfOpen empty⟩

/-- Two probes that time out report nothing and wedge the breaker: it is half
open, no permit is left and no call is running. -/
theorem timed_out_probes_wedge :
    (Runs.exec (step .default) initial (probedTrace ++
      List.replicate 2 (.finish 0 (.answered ⟨false, false, false⟩ false false (.error .timeout)
        false)))).any (fun state =>
          state.breaker.state == .halfOpen && state.breaker.permits == 0 &&
            state.running.isEmpty && state.draining == 0) = true := by
  decide +kernel

end Plug.CircuitBreaker
