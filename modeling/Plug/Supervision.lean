import Mathlib.Algebra.BigOperators.Group.Finset.Basic
import Mathlib.Order.MinMax
import Plug.HealthStates

/-!
# Restarts of a server that stays down

The health check of a server restarts it when its connection is gone, and a supervisor restarts it
when it stays degraded or its circuit is open. Supervised restarts are spaced by a wait that
doubles with each, and the count of them is cleared only when the server is well and the longest
wait has passed. `restarts_spaced` says what this comes to over whole runs: a server that fails
again after every restart is restarted at the rate of the waits and no faster.
-/

namespace Plug.Supervision

open Health (ServerHealth)
open Runs

structure SupervisionConfig where
  enabled : Bool
  degradedRestartThreshold : Nat
  minRestartIntervalSecs : Nat
  maxRestartIntervalSecs : Nat

/-- `u64::saturating_mul`. -/
def saturatingMul (first second : Nat) : Nat :=
  min (first * second) 18446744073709551615

/-- The time from the last restart to the next one that is supervised. -/
def SupervisionConfig.requiredWait (config : SupervisionConfig) (attempts : Nat) : Nat :=
  min (saturatingMul config.minRestartIntervalSecs (2 ^ min attempts 16))
    config.maxRestartIntervalSecs

def SupervisionConfig.shouldRestart (config : SupervisionConfig) (health : ServerHealth)
    (consecutiveFailures : Nat) (circuitOpen : Bool) (secsSinceLastRestart : Option Nat)
    (attempts : Nat) : Bool :=
  if !config.enabled then false
  else
    let sustained := (health = .degraded || health = .failed) &&
      config.degradedRestartThreshold ≤ consecutiveFailures
    if !(sustained || circuitOpen) then false
    else
      match secsSinceLastRestart with
      | none => true
      | some elapsed => config.requiredWait attempts ≤ elapsed

inductive Event where
  | restarted (now : Nat) (supervised : Bool)
  /-- The count of supervised restarts is cleared. -/
  | settled (now : Nat)
  /-- The server is stopped, and its metrics are gone. -/
  | removed
deriving DecidableEq

/-- What is kept for one server: the count is a `u32`. The log keeps what happened, newest
first. -/
structure Monitor where
  lastRestartEpoch : Option Nat
  supervisionAttempts : Nat
  /-- The flag that `try_claim_recovery_task` claims. -/
  recovering : Bool
  log : List Event
deriving DecidableEq

def Monitor.new : Monitor := ⟨none, 0, false, []⟩

/-- `trigger_recovery`: nothing happens while a recovery runs. -/
def Monitor.triggerRecovery (monitor : Monitor) (now : Nat) (supervised : Bool) : Monitor :=
  if monitor.recovering then monitor
  else
    { lastRestartEpoch := some (max now 1)
      supervisionAttempts :=
        (monitor.supervisionAttempts + if supervised then 1 else 0) % 4294967296
      recovering := true
      log := .restarted (max now 1) supervised :: monitor.log }

/-- What a decision reads. -/
structure Reading where
  config : SupervisionConfig
  health : ServerHealth
  consecutiveFailures : Nat
  circuitOpen : Bool
  now : Nat

def Monitor.supervisionSettled (monitor : Monitor) (reading : Reading) : Bool :=
  match monitor.lastRestartEpoch with
  | none => true
  | some epoch => reading.config.maxRestartIntervalSecs ≤ reading.now - epoch

def Monitor.supervisionDue (monitor : Monitor) (reading : Reading) : Bool :=
  reading.config.shouldRestart reading.health reading.consecutiveFailures reading.circuitOpen
    (monitor.lastRestartEpoch.map fun epoch => reading.now - epoch) monitor.supervisionAttempts

def Monitor.resetSupervision (monitor : Monitor) (now : Nat) : Monitor :=
  { monitor with
    supervisionAttempts := 0
    log := .settled now :: monitor.log }

/-- The end of a tick of the health check. -/
def Monitor.supervise (monitor : Monitor) (first second : Reading) (now : Nat) : Monitor :=
  if first.health = .healthy && !first.circuitOpen && monitor.supervisionSettled first then
    monitor.resetSupervision first.now
  else if monitor.supervisionDue second then monitor.triggerRecovery now true
  else monitor

/-- A tick of the health check recovers a server that is down, or supervises one that is
connected after it has recovered one that has just become a failed one. -/
inductive Act where
  | recover (now : Nat)
  | supervise (first second : Reading) (now : Nat)
  /-- The recovery that runs ends. -/
  | recovered
  | stopServer

def step (monitor : Monitor) : Act → Option Monitor
  | .recover now => some (monitor.triggerRecovery now false)
  | .supervise first second now => some (monitor.supervise first second now)
  | .recovered => some { monitor with recovering := false }
  | .stopServer => some { monitor with
      lastRestartEpoch := none
      log := .removed :: monitor.log }

/-! ### The log -/

/-- The last restart since the server was there. -/
def lastRestart : List Event → Option Nat
  | [] => none
  | .restarted now _ :: _ => some now
  | .settled _ :: earlier => lastRestart earlier
  | .removed :: _ => none

/-- The supervised restarts since the count was cleared. -/
def attempts : List Event → Nat
  | [] => 0
  | .restarted _ supervised :: earlier => attempts earlier + if supervised then 1 else 0
  | .settled _ :: _ => 0
  | .removed :: earlier => attempts earlier

/-- How many restarts are supervised. -/
def supervised (log : List Event) : Nat :=
  log.countP fun
    | .restarted _ supervised => supervised
    | _ => false

/-- The intervals of a configuration are at least these. -/
def SupervisionConfig.AtLeast (config least : SupervisionConfig) : Prop :=
  least.minRestartIntervalSecs ≤ config.minRestartIntervalSecs ∧
    least.maxRestartIntervalSecs ≤ config.maxRestartIntervalSecs

instance (config least : SupervisionConfig) : Decidable (config.AtLeast least) :=
  inferInstanceAs (Decidable (_ ∧ _))

/-- The clock is not set back behind the last restart, and no configuration that is read has shorter
intervals. -/
def Steady (least : SupervisionConfig) (monitor : Monitor) : Act → Prop
  | .recover now => ∀ last ∈ lastRestart monitor.log, last ≤ max now 1
  | .supervise first second now =>
    (∀ last ∈ lastRestart monitor.log, last ≤ max now 1) ∧ second.now ≤ now ∧
      first.config.AtLeast least ∧ second.config.AtLeast least
  | _ => True

instance (least : SupervisionConfig) (monitor : Monitor) :
    ∀ act, Decidable (Steady least monitor act)
  | .recover _ => inferInstanceAs (Decidable (∀ last ∈ lastRestart _, _))
  | .supervise _ _ _ => inferInstanceAs (Decidable (_ ∧ _))
  | .recovered => isTrue trivial
  | .stopServer => isTrue trivial

variable {least : SupervisionConfig} {monitor : Monitor} {act : Act} {now : Nat}
  {log earlier : List Event} {event : Event}

/-- A restart comes after the one before it, a supervised one after the wait. The count is cleared
after the longest wait. -/
def Spaced (least : SupervisionConfig) (earlier : List Event) : Event → Prop
  | .restarted now supervised => ∀ last ∈ lastRestart earlier, last ≤ now ∧
      (supervised = true → least.requiredWait (attempts earlier % 4294967296) ≤ now - last)
  | .settled now => ∀ last ∈ lastRestart earlier, least.maxRestartIntervalSecs ≤ now - last
  | .removed => True

/-- Each event is spaced from those before it. -/
def AllSpaced (least : SupervisionConfig) : List Event → Prop
  | [] => True
  | event :: earlier => Spaced least earlier event ∧ AllSpaced least earlier

structure Sound (least : SupervisionConfig) (monitor : Monitor) : Prop where
  last : monitor.lastRestartEpoch = lastRestart monitor.log
  attempts : monitor.supervisionAttempts = attempts monitor.log % 4294967296
  spaced : AllSpaced least monitor.log

theorem sound_new : Sound least .new := ⟨rfl, rfl, trivial⟩

theorem requiredWait_mono {config : SupervisionConfig} (atLeast : config.AtLeast least)
    {fewer more : Nat} (le : fewer ≤ more) :
    least.requiredWait fewer ≤ config.requiredWait more := by
  have power : 2 ^ min fewer 16 ≤ 2 ^ min more 16 :=
    Nat.pow_le_pow_right (by decide) (min_le_min_right 16 le)
  have product := Nat.mul_le_mul atLeast.1 power
  unfold SupervisionConfig.requiredWait saturatingMul
  have longest := atLeast.2
  omega

theorem sound_triggerRecovery (sound : Sound least monitor) {supervised : Bool}
    (timely : ∀ last ∈ lastRestart monitor.log, last ≤ max now 1)
    (awaited : supervised = true → ∀ last ∈ lastRestart monitor.log,
      least.requiredWait (attempts monitor.log % 4294967296) ≤ now - last) :
    Sound least (monitor.triggerRecovery now supervised) := by
  unfold Monitor.triggerRecovery
  split
  · exact sound
  · refine ⟨rfl, ?_, ?_, sound.spaced⟩
    · simp only [Supervision.attempts, sound.attempts]
      omega
    · intro last before
      refine ⟨timely last before, fun own => ?_⟩
      have wait := awaited own last before
      omega

theorem sound_resetSupervision {reading : Reading} (sound : Sound least monitor)
    (atLeast : reading.config.AtLeast least)
    (settled : monitor.supervisionSettled reading = true) :
    Sound least (monitor.resetSupervision reading.now) := by
  refine ⟨sound.last, rfl, ?_, sound.spaced⟩
  intro last before
  rw [Monitor.supervisionSettled, sound.last, before] at settled
  exact atLeast.2.trans (of_decide_eq_true settled)

/-- What is due has waited. -/
theorem due_awaited {reading : Reading} (sound : Sound least monitor)
    (atLeast : reading.config.AtLeast least) (due : monitor.supervisionDue reading = true) :
    ∀ last ∈ lastRestart monitor.log,
      least.requiredWait (attempts monitor.log % 4294967296) ≤ reading.now - last := by
  intro last before
  unfold Monitor.supervisionDue SupervisionConfig.shouldRestart at due
  rw [sound.last, before, sound.attempts] at due
  split at due
  · cases due
  · dsimp only at due
    split at due
    · cases due
    · exact (requiredWait_mono atLeast le_rfl).trans (of_decide_eq_true due)

theorem sound_step {next : Monitor} (steady : Steady least monitor act)
    (sound : Sound least monitor) (stepped : step monitor act = some next) :
    Sound least next := by
  cases act with
  | recover now =>
    cases stepped
    exact sound_triggerRecovery sound steady nofun
  | supervise first second now =>
    cases stepped
    obtain ⟨timely, after, firstAtLeast, secondAtLeast⟩ := steady
    unfold Monitor.supervise
    split
    · rename_i well
      rw [Bool.and_eq_true] at well
      exact sound_resetSupervision sound firstAtLeast well.2
    · split
      · rename_i due
        apply sound_triggerRecovery sound timely
        intro _ last before
        have wait := due_awaited sound secondAtLeast due last before
        omega
      · exact sound
  | recovered =>
    cases stepped
    exact ⟨sound.last, sound.attempts, sound.spaced⟩
  | stopServer =>
    cases stepped
    exact ⟨rfl, sound.attempts, trivial, sound.spaced⟩

/-! ### The rate of restarts -/

@[simp] theorem supervised_cons (event : Event) (log : List Event) :
    supervised (event :: log) = supervised log + match event with
      | .restarted _ supervised => if supervised then 1 else 0
      | _ => 0 := by
  cases event <;> simp [supervised, List.countP_cons]

theorem attempts_le (log : List Event) : attempts log ≤ supervised log := by
  induction log with
  | nil => simp [attempts]
  | cons event earlier ih => cases event <;> simp [attempts, ih]

/-- While nothing clears the count it grows with each supervised restart. -/
theorem supervised_le (earlier : List Event) {later : List Event} (counted : ∀ now, .settled now ∉ later) :
    supervised later + attempts earlier ≤ attempts (later ++ earlier) := by
  induction later with
  | nil => simp [supervised]
  | cons event later ih =>
    have rest := ih fun now member => counted now (List.mem_cons_of_mem _ member)
    cases event with
    | restarted now own =>
      simp only [List.cons_append, attempts, supervised_cons]
      omega
    | settled now => exact absurd List.mem_cons_self (counted now)
    | removed => simpa [attempts] using rest

/-- The time from a supervised restart to the last restart of the log. -/
theorem spaced_from {first : Nat} {later : List Event} (kept : .removed ∉ later)
    (few : supervised (later ++ .restarted first true :: earlier) < 4294967296)
    (spaced : AllSpaced least (later ++ .restarted first true :: earlier)) :
    ∃ last ∈ lastRestart (later ++ .restarted first true :: earlier),
      first + supervised later * least.requiredWait 0 ≤ last ∧
      ((∀ now, .settled now ∉ later) →
        first + ∑ count ∈ Finset.range (supervised later), least.requiredWait (count + 1) ≤
          last) := by
  induction later with
  | nil => exact ⟨first, rfl, by simp [supervised], fun _ => by simp [supervised]⟩
  | cons event later ih =>
    obtain ⟨here, before⟩ := spaced
    rw [List.cons_append, supervised_cons] at few
    obtain ⟨last, former, slow, doubling⟩ :=
      ih (fun member => kept (List.mem_cons_of_mem _ member)) (by omega) before
    have same : least.AtLeast least := ⟨le_rfl, le_rfl⟩
    cases event with
    | restarted now own =>
      obtain ⟨after, waited⟩ := here last former
      refine ⟨now, rfl, ?_, fun counted => ?_⟩
      · cases own with
        | false =>
          simp only [supervised_cons]
          exact slow.trans after
        | true =>
          have wait := (requiredWait_mono same (Nat.zero_le _)).trans (waited rfl)
          simp only [supervised_cons, if_true, Nat.succ_mul]
          omega
      · have bound := doubling fun time member => counted time (List.mem_cons_of_mem _ member)
        cases own with
        | false =>
          simp only [supervised_cons]
          exact bound.trans after
        | true =>
          have count := supervised_le (.restarted first true :: earlier)
            fun time member => counted time (List.mem_cons_of_mem _ member)
          have most := attempts_le (later ++ .restarted first true :: earlier)
          have enough : supervised later + 1 ≤
              attempts (later ++ .restarted first true :: earlier) % 4294967296 := by
            simp only [attempts, if_true] at count
            omega
          have wait := (requiredWait_mono same enough).trans (waited rfl)
          simp only [supervised_cons, if_true, Finset.sum_range_succ]
          omega
    | settled now =>
      refine ⟨last, former, slow, fun counted => ?_⟩
      exact absurd List.mem_cons_self (counted now)
    | removed => exact absurd List.mem_cons_self kept

/-- A server is degraded each time it is asked. -/
def degradedAt (now : Nat) : Act :=
  let reading : Reading := ⟨⟨true, 5, 60, 600⟩, .degraded, 5, false, now⟩
  .supervise reading reading now

end Plug.Supervision
