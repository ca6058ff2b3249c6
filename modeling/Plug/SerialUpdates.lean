import Mathlib.Data.List.Permutation
import Plug.ConfigUpdates
import Plug.ReloadCoverage

/-!
# The order of changes

Each call takes effect at once: where it finds nothing to do, or where its reload is done. The
calls that succeeded, in that order and one after another, make the file and the configuration
what they are while nobody holds the lock. Who holds it is on the way to the next state of that
order.
-/

namespace Plug.Reload

variable {File Mutation : Type} {storage : Storage File Mutation}

/-- The call that holds the lock is on its way from what the former calls made of the file. -/
def Pending (storage : Storage File Mutation) (before : File × Config) (file : File) :
    Call Mutation → Phase → Prop
  | call, .applying next => perform storage before call = some (file, next)
  | .applyOperatorMutation _, .saving => before.1 = file
  | .applyOperatorMutation mutation, .loading => storage.applyMutation mutation before.1 = .ok file
  | _, _ => False

/-- While nobody holds the lock the file is what the former calls made of it. -/
def Reached (storage : Storage File Mutation) (before : File × Config) (file : File)
    (calls : List (Call Mutation × Phase)) : Option Nat → Prop
  | none => before.1 = file
  | some holder => ∀ call phase, calls[holder]? = some (call, phase) →
      Pending storage before file call phase

/-- What has happened is what the calls that succeeded do one after another. -/
def Ordered (storage : Storage File Mutation) (start : File × Config)
    (engine : Engine File Mutation) : Prop :=
  ∃ order before, order.Perm (succeeded engine.calls) ∧
    performAll storage order start = some before ∧ before.2 = engine.config ∧
    Reached storage before engine.file engine.calls engine.reloadLock

structure Serial (storage : Storage File Mutation) (start : File × Config)
    (engine : Engine File Mutation) : Prop where
  holder : ∀ index call phase, engine.calls[index]? = some (call, phase) →
    (phase.holds = true ↔ engine.reloadLock = some index)
  prepared : ∀ (call : Call Mutation) read next, (call, .prepared read next) ∈ engine.calls →
    ∃ name enabled, call = .setServerEnabled name enabled ∧
      prepare read name enabled = .prepared read next
  ordered : Ordered storage start engine

/-! ### Calls that succeeded -/

section Succeeded

variable {calls : List (Call Mutation × Phase)} {index : Nat} {call : Call Mutation}
  {phase : Phase}

theorem succeeded_set (found : calls[index]? = some (call, phase)) (unfinished : phase ≠ .succeeded)
    (next : Phase) :
    (succeeded (calls.set index (call, next))).Perm
      ((if next = .succeeded then [call] else []) ++ succeeded calls) := by
  obtain ⟨bound, _⟩ := List.getElem?_eq_some_iff.mp found
  have changed := (List.set_perm_cons_eraseIdx bound (call, next)).filterMap
    fun item : Call Mutation × Phase => if item.2 = .succeeded then some item.1 else none
  have former := (Runs.eraseIdx_perm found).filterMap
    fun item : Call Mutation × Phase => if item.2 = .succeeded then some item.1 else none
  rw [List.filterMap_cons_none (by simp [unfinished])] at former
  by_cases done : next = .succeeded
  · simp only [List.filterMap_cons, if_pos done] at changed
    rw [if_pos done]
    exact changed.trans (former.cons call)
  · rw [List.filterMap_cons_none (by simp [done])] at changed
    rw [if_neg done]
    exact changed.trans former

end Succeeded

theorem performAll_append {order : List (Call Mutation)} {start before after : File × Config}
    {call : Call Mutation} (performed : performAll storage order start = some before)
    (performs : perform storage before call = some after) :
    performAll storage (order ++ [call]) start = some after := by
  rw [performAll, List.foldlM_append]
  rw [performAll] at performed
  rw [performed]
  simp [performs]

/-! ### Each step -/

section Steps

variable {start : File × Config} {engine : Engine File Mutation} {index : Nat}
  {call : Call Mutation} {phase : Phase}

/-- The lock goes with the phase of the call that took a step. -/
theorem holder_set (serial : Serial storage start engine)
    (found : engine.calls[index]? = some (call, phase)) (next : Phase) (held : Option Nat)
    (own : next.holds = true ↔ held = some index)
    (others : ∀ other, other ≠ index → (engine.reloadLock = some other ↔ held = some other)) :
    ∀ other otherCall otherPhase,
      (engine.calls.set index (call, next))[other]? = some (otherCall, otherPhase) →
      (otherPhase.holds = true ↔ held = some other) := by
  intro other otherCall otherPhase present
  rw [Runs.getElem?_set_found found] at present
  split at present
  · rename_i same
    obtain ⟨_, rfl⟩ := Prod.mk.inj (Option.some.inj present)
    rw [same]
    exact own
  · rename_i apart
    rw [serial.holder other otherCall otherPhase present]
    exact others other apart

theorem prepared_set (serial : Serial storage start engine) {next : Phase}
    (own : ∀ read config, next = .prepared read config →
      ∃ name enabled, call = .setServerEnabled name enabled ∧
        prepare read name enabled = .prepared read config)
    (otherCall : Call Mutation) (read config : Config)
    (member : (otherCall, .prepared read config) ∈ engine.calls.set index (call, next)) :
    ∃ name enabled, otherCall = .setServerEnabled name enabled ∧
      prepare read name enabled = .prepared read config := by
  cases List.mem_or_eq_of_mem_set member with
  | inl former => exact serial.prepared otherCall read config former
  | inr same =>
    obtain ⟨rfl, phase⟩ := Prod.mk.inj same
    exact own read config phase.symm

/-- What is read is what is prepared. -/
theorem prepare_read {config read next : Config} {name : String} {enabled : Bool}
    (prepared : prepare config name enabled = .prepared read next) : read = config := by
  rw [prepare] at prepared
  split at prepared
  · cases prepared
  · split at prepared
    · cases prepared
    · exact (Phase.prepared.inj prepared).1.symm

theorem prepare_holds (config : Config) (name : String) (enabled : Bool) :
    (prepare config name enabled).holds = false := by
  rw [prepare]
  split
  · rfl
  · split <;> rfl

/-- While a call waits, the one that holds the lock is another. -/
theorem reached_set (found : engine.calls[index]? = some (call, phase)) (next : Phase)
    {before : File × Config} (idle : engine.reloadLock ≠ some index)
    (reached : Reached storage before engine.file engine.calls engine.reloadLock) :
    Reached storage before engine.file (engine.calls.set index (call, next)) engine.reloadLock := by
  cases held : engine.reloadLock with
  | none =>
    rw [held] at reached
    exact reached
  | some holder =>
    rw [held] at reached idle
    intro otherCall otherPhase present
    have apart : holder ≠ index := fun same => idle (congrArg some same)
    rw [Runs.getElem?_set_found found, if_neg apart] at present
    exact reached otherCall otherPhase present

/-- The call that holds the lock is the one at its place. -/
theorem reached_self (found : engine.calls[index]? = some (call, phase)) {next : Phase}
    {before : File × Config} {file : File} (own : Pending storage before file call next) :
    Reached storage before file (engine.calls.set index (call, next)) (some index) := by
  intro otherCall otherPhase present
  rw [Runs.getElem?_set_found found, if_pos rfl] at present
  cases present
  exact own

/-- The order of what succeeded stays when a call goes on without success. -/
theorem order_kept {order : List (Call Mutation)} (perm : order.Perm (succeeded engine.calls))
    (found : engine.calls[index]? = some (call, phase)) (unfinished : phase ≠ .succeeded)
    {next : Phase} (open_next : next ≠ .succeeded) :
    order.Perm (succeeded (engine.calls.set index (call, next))) := by
  have changed := succeeded_set found unfinished next
  rw [if_neg open_next, List.nil_append] at changed
  exact perm.trans changed.symm

/-- A call that succeeds comes after those that did. -/
theorem order_done {order : List (Call Mutation)} (perm : order.Perm (succeeded engine.calls))
    (found : engine.calls[index]? = some (call, phase)) (unfinished : phase ≠ .succeeded) :
    (order ++ [call]).Perm (succeeded (engine.calls.set index (call, .succeeded))) := by
  have changed := succeeded_set found unfinished .succeeded
  rw [if_pos rfl] at changed
  exact (perm.append_right [call]).trans (List.perm_append_comm.trans changed.symm)

/-- Who waits does not hold the lock. -/
theorem idle_of_waiting (serial : Serial storage start engine)
    (found : engine.calls[index]? = some (call, phase)) (idle : phase.holds = false) :
    engine.reloadLock ≠ some index := by
  intro held
  rw [← serial.holder index call phase found, idle] at held
  cases held

/-- A call that read takes no lock, and has succeeded where it found nothing to do. -/
theorem serial_read (serial : Serial storage start engine)
    (found : engine.calls[index]? = some (call, .waiting)) {name : String} {enabled : Bool}
    (same : call = .setServerEnabled name enabled) :
    Serial storage start (engine.put index call (prepare engine.config name enabled)) := by
  have idle : engine.reloadLock ≠ some index := idle_of_waiting serial found rfl
  refine ⟨?_, ?_, ?_⟩
  · refine holder_set serial found _ _ ?_ fun other _ => Iff.rfl
    rw [prepare_holds]
    constructor
    · intro holds
      cases holds
    · intro held
      exact absurd held idle
  · apply prepared_set serial
    intro read config prepared
    obtain rfl := prepare_read prepared
    exact ⟨name, enabled, same, prepared⟩
  · obtain ⟨order, before, perm, performed, config, pending⟩ := serial.ordered
    have waits := reached_set found (prepare engine.config name enabled) idle pending
    by_cases done : prepare engine.config name enabled = .succeeded
    · refine ⟨order ++ [call], before, ?_, ?_, config, waits⟩
      · rw [Engine.put, done]
        exact order_done perm found nofun
      · apply performAll_append performed
        rw [same, perform, config, done]
    · exact ⟨order, before, order_kept perm found nofun done, performed, config, waits⟩

/-- A call that takes the lock is on its way from what the former calls made. -/
theorem serial_lock (serial : Serial storage start engine)
    (found : engine.calls[index]? = some (call, phase)) (unfinished : phase ≠ .succeeded)
    (free : engine.reloadLock = none) {next : Phase} (holds : next.holds = true)
    (own : ∀ before : File × Config, before.1 = engine.file → before.2 = engine.config →
      Pending storage before engine.file call next) :
    Serial storage start { engine.put index call next with reloadLock := some index } := by
  refine ⟨?_, ?_, ?_⟩
  · refine holder_set serial found _ _ ?_ ?_
    · rw [holds]
      exact ⟨fun _ => rfl, fun _ => rfl⟩
    · intro other apart
      rw [free]
      constructor
      · intro none
        cases none
      · intro taken
        exact absurd (Option.some.inj taken).symm apart
  · apply prepared_set serial
    intro read config prepared
    rw [prepared] at holds
    cases holds
  · obtain ⟨order, before, perm, performed, config, pending⟩ := serial.ordered
    rw [free] at pending
    have running : next ≠ .succeeded := by
      rintro rfl
      cases holds
    exact ⟨order, before, order_kept perm found unfinished running, performed, config,
      reached_self found (own before pending config)⟩

/-- The call that holds the lock goes on under it. -/
theorem serial_hold (serial : Serial storage start engine)
    (found : engine.calls[index]? = some (call, phase)) (held : phase.holds = true) {next : Phase}
    (holds : next.holds = true) {file : File}
    (own : ∀ before : File × Config, Pending storage before engine.file call phase →
      Pending storage before file call next) :
    Serial storage start { engine.put index call next with file := file } := by
  have lock : engine.reloadLock = some index := (serial.holder index call phase found).mp held
  refine ⟨?_, ?_, ?_⟩
  · refine holder_set serial found _ _ ?_ fun other _ => Iff.rfl
    rw [holds]
    exact ⟨fun _ => lock, fun _ => rfl⟩
  · apply prepared_set serial
    intro read config prepared
    rw [prepared] at holds
    cases holds
  · obtain ⟨order, before, perm, performed, config, pending⟩ := serial.ordered
    rw [lock] at pending
    have unfinished : phase ≠ .succeeded := by
      rintro rfl
      cases held
    have running : next ≠ .succeeded := by
      rintro rfl
      cases holds
    refine ⟨order, before, order_kept perm found unfinished running, performed, config, ?_⟩
    change Reached storage before file _ engine.reloadLock
    rw [lock]
    exact reached_self found (own before (pending call phase found))

/-- The lock is given back, and nobody holds it. -/
theorem holder_unlocked (serial : Serial storage start engine)
    (found : engine.calls[index]? = some (call, phase)) (held : phase.holds = true) (next : Phase)
    (released : next.holds = false) :
    ∀ other otherCall otherPhase,
      (engine.calls.set index (call, next))[other]? = some (otherCall, otherPhase) →
      (otherPhase.holds = true ↔ (none : Option Nat) = some other) := by
  have lock : engine.reloadLock = some index := (serial.holder index call phase found).mp held
  refine holder_set serial found next none ?_ ?_
  · rw [released]
    constructor
    · intro holds
      cases holds
    · intro taken
      cases taken
  · intro other apart
    rw [lock]
    constructor
    · intro taken
      exact absurd (Option.some.inj taken).symm apart
    · intro taken
      cases taken

theorem serial_refused (serial : Serial storage start engine)
    (found : engine.calls[index]? = some (call, .saving)) :
    Serial storage start (engine.unlock index call .failed) := by
  have lock : engine.reloadLock = some index := (serial.holder index call .saving found).mp rfl
  refine ⟨holder_unlocked serial found rfl .failed rfl, ?_, ?_⟩
  · apply prepared_set serial
    intro read next prepared
    cases prepared
  · obtain ⟨order, before, perm, performed, config, pending⟩ := serial.ordered
    rw [lock] at pending
    refine ⟨order, before, order_kept perm found nofun nofun, performed, config, ?_⟩
    have own := pending call .saving found
    cases call with
    | applyOperatorMutation mutation => exact own
    | setServerEnabled name enabled => cases own
    | reloadConfig config => cases own

theorem serial_store (serial : Serial storage start engine) {config : Config}
    (found : engine.calls[index]? = some (call, .applying config)) :
    Serial storage start { engine.unlock index call .succeeded with config := config } := by
  have lock : engine.reloadLock = some index :=
    (serial.holder index call (.applying config) found).mp rfl
  refine ⟨holder_unlocked serial found rfl .succeeded rfl, ?_, ?_⟩
  · apply prepared_set serial
    intro read next prepared
    cases prepared
  · obtain ⟨order, before, perm, performed, _, pending⟩ := serial.ordered
    rw [lock] at pending
    have own : perform storage before call = some (engine.file, config) := by
      have held := pending call (.applying config) found
      cases call <;> exact held
    exact ⟨order ++ [call], (engine.file, config), order_done perm found nofun,
      performAll_append performed own, rfl, rfl⟩

/-- Each step keeps the order. -/
theorem serial_advanced (serial : Serial storage start engine) {next : Engine File Mutation}
    (found : engine.calls[index]? = some (call, phase))
    (advanced : Advanced storage engine index call phase next) : Serial storage start next := by
  cases advanced with
  | read name enabled same => exact serial_read serial found same
  | reload config same free =>
    apply serial_lock serial found nofun free rfl
    intro before file _
    rw [same, Pending, perform, file]
  | save mutation same free =>
    apply serial_lock serial found nofun free rfl
    intro before file _
    rw [same]
    exact file
  | commit config free =>
    apply serial_lock serial found nofun free rfl
    intro before file running
    obtain ⟨name, enabled, rfl, prepared⟩ :=
      serial.prepared call engine.config config (List.mem_of_getElem? found)
    rw [Pending, perform, running, prepared, file]
  | saved mutation file same changed =>
    apply serial_hold serial found rfl rfl
    subst same
    intro before own
    rw [Pending] at own
    rw [Pending, own]
    exact changed
  | refused => exact serial_refused serial found
  | loaded config written =>
    apply serial_hold serial found rfl rfl
    intro before own
    cases call with
    | applyOperatorMutation mutation =>
      rw [Pending] at own
      rw [Pending, perform, own]
      simp only [written]
    | setServerEnabled name enabled => cases own
    | reloadConfig config => cases own
  | store config => exact serial_store serial found

end Steps

/-! ### Every run -/

/-- The calls are made, and none has gone on. -/
def Engine.start (file : File) (config : Config) (calls : List (Call Mutation)) :
    Engine File Mutation where
  file := file
  config := config
  calls := calls.map fun call => (call, .waiting)
  reloadLock := none

theorem serial_start (storage : Storage File Mutation) (file : File) (config : Config)
    (calls : List (Call Mutation)) :
    Serial storage (file, config) (Engine.start file config calls) := by
  have waiting : ∀ call phase, (call, phase) ∈ (Engine.start file config calls).calls →
      phase = .waiting := by
    intro call phase member
    obtain ⟨former, _, same⟩ := List.mem_map.mp member
    exact (Prod.mk.inj same).2.symm
  refine ⟨?_, ?_, [], (file, config), ?_, rfl, rfl, rfl⟩
  · intro index call phase found
    obtain rfl := waiting call phase (List.mem_of_getElem? found)
    constructor
    · intro holds
      cases holds
    · intro held
      cases held
  · intro call read next member
    cases waiting call _ member
  · have none_done : succeeded (Engine.start file config calls).calls = [] := by
      rw [succeeded, List.filterMap_eq_nil_iff]
      intro item member
      rw [waiting item.1 item.2 member]
      exact if_neg nofun
    rw [none_done]

/-- While no reload is under way, the file and the configuration are what the calls that reported
success make of them one after another, in some order: in every run in which each
`set_server_enabled` takes the lock while the configuration is the one it read, and each change of
the file is confirmed and can be loaded. -/
theorem updates_serial (storage : Storage File Mutation) (file : File) (config : Config)
    (calls : List (Call Mutation)) (trace : List Action) (final : Engine File Mutation)
    (admitted : Runs.Admitted (step storage) (Undisturbed storage)
      (Engine.start file config calls) trace)
    (ran : Runs.exec (step storage) (Engine.start file config calls) trace = some final)
    (settled : final.reloadLock = none) :
    ∃ order, order.Perm (succeeded final.calls) ∧
      performAll storage order (file, config) = some (final.file, final.config) := by
  have serial : Serial storage (file, config) final := by
    refine Runs.exec_invariant (step storage) (Undisturbed storage)
      (Serial storage (file, config)) ?_ trace (Engine.start file config calls) final
      (serial_start storage file config calls) admitted ran
    intro engine action next undisturbed serial stepped
    obtain ⟨index, call, phase, found, advanced⟩ := advance_cases undisturbed stepped
    exact serial_advanced serial found advanced
  obtain ⟨order, before, perm, performed, running, reached⟩ := serial.ordered
  rw [settled] at reached
  refine ⟨order, perm, ?_⟩
  rw [performed, ← running, ← reached]

/-- A file that holds a configuration, and changes that write another. -/
def configFile : Storage Config Config where
  applyMutation mutation _ := .ok mutation
  loadConfig := .ok

def twoServers (git notes : Bool) : Config :=
  { oneServer gitServer with
    servers :=
      [("git", { gitServer with enabled := git }), ("notes", { gitServer with enabled := notes })]
    serversDistinct := by simp }

/-- Both servers are turned on. -/
def bothOn : List (Call Config) :=
  [.setServerEnabled "git" true, .setServerEnabled "notes" true]

/-- Each call reads, takes the lock and stores before the next one reads. -/
theorem updates_serial_in_turn :
    ∃ order, order.Perm bothOn ∧
      performAll configFile order (twoServers false false, twoServers false false) =
        some (twoServers false false, twoServers true true) := by
  refine updates_serial configFile (twoServers false false) (twoServers false false) bothOn
    [.advance 0, .advance 0, .advance 0, .advance 1, .advance 1, .advance 1]
    { file := twoServers false false
      config := twoServers true true
      calls := bothOn.map fun call => (call, .succeeded)
      reloadLock := none } ?_ ?_ rfl
  · decide +kernel
  · decide +kernel

/-- Both calls read before one of them stores: one server stays off, and both calls report
success. -/
theorem update_lost :
    ¬ ∀ (trace : List Action) (final : Engine Config Config),
      Runs.exec (step configFile)
        (Engine.start (twoServers false false) (twoServers false false) bothOn) trace =
          some final → final.reloadLock = none →
      ∃ order, order.Perm (succeeded final.calls) ∧
        performAll configFile order (twoServers false false, twoServers false false) =
          some (final.file, final.config) := by
  intro serial
  obtain ⟨order, perm, performed⟩ := serial
    [.advance 0, .advance 1, .advance 0, .advance 0, .advance 1, .advance 1]
    { file := twoServers false false
      config := twoServers false true
      calls := bothOn.map fun call => (call, .succeeded)
      reloadLock := none } (by decide +kernel) rfl
  cases List.perm_pair.mp perm with
  | inl first =>
    rw [first] at performed
    revert performed
    decide +kernel
  | inr second =>
    rw [second] at performed
    revert performed
    decide +kernel

end Plug.Reload
