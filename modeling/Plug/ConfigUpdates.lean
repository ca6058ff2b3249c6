import Plug.Runs
import Plug.ServerConfigs

/-!
# Changes of the configuration side by side

Three calls change the configuration that runs. One turns a server on or off: it reads the
configuration, changes its copy, and reloads that. One reloads a configuration it is given. One
changes the file and reloads what the file then holds. A reload holds a lock until the new
configuration runs; the change of the file is made under the lock too, and the copy of the first
call is not.
-/

namespace Plug.Reload

/-- What a change does to the file, and what the file holds. -/
structure Storage (File Mutation : Type) where
  applyMutation : Mutation → File → Except String File
  loadConfig : File → Except String Config

inductive Call (Mutation : Type) where
  | setServerEnabled (name : String) (enabled : Bool)
  | reloadConfig (config : Config)
  | applyOperatorMutation (mutation : Mutation)
deriving DecidableEq

/-- How far a call is. -/
inductive Phase where
  | waiting
  | prepared (read next : Config)
  | saving
  | loading
  | applying (next : Config)
  | succeeded
  | failed
deriving DecidableEq

/-- The call holds the lock. -/
def Phase.holds : Phase → Bool
  | .saving | .loading | .applying _ => true
  | .waiting | .prepared _ _ | .succeeded | .failed => false

def Config.withEnabled (config : Config) (name : String) (enabled : Bool) : Config :=
  { config with
    servers := config.servers.map fun item =>
      (item.1, if item.1 = name then { item.2 with enabled := enabled } else item.2)
    serversDistinct := by
      rw [List.map_map]
      exact config.serversDistinct }

/-- What is read before the lock is taken decides what is reloaded. -/
def prepare (config : Config) (name : String) (enabled : Bool) : Phase :=
  match config.servers.lookup name with
  | none => .failed
  | some server =>
    if server.enabled = enabled then .succeeded
    else .prepared config (config.withEnabled name enabled)

structure Engine (File Mutation : Type) where
  file : File
  config : Config
  calls : List (Call Mutation × Phase)
  reloadLock : Option Nat
deriving DecidableEq

variable {File Mutation : Type} (storage : Storage File Mutation)

def Engine.put (engine : Engine File Mutation) (index : Nat) (call : Call Mutation)
    (phase : Phase) : Engine File Mutation :=
  { engine with calls := engine.calls.set index (call, phase) }

/-- The call takes the lock, if it is free, to go on in `phase`. -/
def Engine.lock (engine : Engine File Mutation) (index : Nat) (call : Call Mutation)
    (phase : Phase) : Option (Engine File Mutation) :=
  if engine.reloadLock = none then some { engine.put index call phase with reloadLock := some index }
  else none

def Engine.unlock (engine : Engine File Mutation) (index : Nat) (call : Call Mutation)
    (phase : Phase) : Engine File Mutation :=
  { engine.put index call phase with reloadLock := none }

/-- The call at a place takes its next step. -/
def advance (engine : Engine File Mutation) (index : Nat) : Option (Engine File Mutation) :=
  match engine.calls[index]? with
  | none => none
  | some (call, phase) =>
    match phase with
    | .waiting =>
      match call with
      | .setServerEnabled name enabled =>
        some (engine.put index call (prepare engine.config name enabled))
      | .reloadConfig config => engine.lock index call (.applying config)
      | .applyOperatorMutation _ => engine.lock index call .saving
    | .prepared _ next => engine.lock index call (.applying next)
    | .saving =>
      match call with
      | .applyOperatorMutation mutation =>
        match storage.applyMutation mutation engine.file with
        | .ok file => some { engine.put index call .loading with file := file }
        | .error _ => some (engine.unlock index call .failed)
      | _ => none
    | .loading =>
      match storage.loadConfig engine.file with
      | .ok next => some (engine.put index call (.applying next))
      | .error _ => some (engine.unlock index call .failed)
    | .applying next => some { engine.unlock index call .succeeded with config := next }
    | .succeeded | .failed => none

/-- The change of the file is saved, and the call fails because the disk does not confirm it. -/
def unconfirmed (engine : Engine File Mutation) (index : Nat) : Option (Engine File Mutation) :=
  match engine.calls[index]? with
  | some (.applyOperatorMutation mutation, .saving) =>
    match storage.applyMutation mutation engine.file with
    | .ok file =>
      some { engine.unlock index (.applyOperatorMutation mutation) .failed with file := file }
    | .error _ => none
  | _ => none

inductive Action where
  | advance (index : Nat)
  | unconfirmed (index : Nat)
deriving DecidableEq

def step (engine : Engine File Mutation) : Action → Option (Engine File Mutation)
  | .advance index => advance storage engine index
  | .unconfirmed index => unconfirmed storage engine index

/-- The calls that reported success. -/
def succeeded (calls : List (Call Mutation × Phase)) : List (Call Mutation) :=
  calls.filterMap fun item => if item.2 = .succeeded then some item.1 else none

/-! ### One call after another -/

/-- What a call that succeeds makes of the file and the configuration. -/
def perform (current : File × Config) (call : Call Mutation) : Option (File × Config) :=
  match call with
  | .setServerEnabled name enabled =>
    match prepare current.2 name enabled with
    | .succeeded => some current
    | .prepared _ next => some (current.1, next)
    | _ => none
  | .reloadConfig config => some (current.1, config)
  | .applyOperatorMutation mutation =>
    match storage.applyMutation mutation current.1 with
    | .error _ => none
    | .ok file =>
      match storage.loadConfig file with
      | .error _ => none
      | .ok next => some (file, next)

def performAll (order : List (Call Mutation)) (start : File × Config) : Option (File × Config) :=
  order.foldlM (perform storage) start

/-- The step does not put an older configuration over a newer one, and what is saved is confirmed
and can be loaded. -/
def Undisturbed (engine : Engine File Mutation) : Action → Prop
  | .unconfirmed _ => False
  | .advance index =>
    match engine.calls[index]? with
    | some (_, .prepared read _) => read = engine.config
    | some (_, .loading) => (storage.loadConfig engine.file).isOk = true
    | _ => True

instance Undisturbed.decidable (engine : Engine File Mutation) :
    ∀ action, Decidable (Undisturbed storage engine action)
  | .unconfirmed _ => isFalse id
  | .advance index =>
    match found : engine.calls[index]? with
    | some (_, .prepared read _) =>
      decidable_of_iff (read = engine.config) (by rw [Undisturbed, found])
    | some (_, .loading) =>
      decidable_of_iff ((storage.loadConfig engine.file).isOk = true) (by rw [Undisturbed, found])
    | none | some (_, .waiting) | some (_, .saving) | some (_, .applying _) | some (_, .succeeded)
    | some (_, .failed) => isTrue (by rw [Undisturbed, found]; trivial)

/-! ### What one step does -/

section Steps

variable {storage : Storage File Mutation} {engine next : Engine File Mutation} {index : Nat}
  {call : Call Mutation} {phase : Phase}

theorem lock_some (locked : engine.lock index call phase = some next) :
    engine.reloadLock = none ∧
      next = { engine.put index call phase with reloadLock := some index } := by
  rw [Engine.lock] at locked
  split at locked
  · rename_i free
    exact ⟨free, (Option.some.inj locked).symm⟩
  · cases locked

/-- A step that is not disturbed: the call reads, takes the lock, goes on under the lock, or gives
it back. -/
inductive Advanced (storage : Storage File Mutation) (engine : Engine File Mutation) (index : Nat)
    (call : Call Mutation) : Phase → Engine File Mutation → Prop
  | read (name : String) (enabled : Bool) (same : call = .setServerEnabled name enabled) :
      Advanced storage engine index call .waiting
        (engine.put index call (prepare engine.config name enabled))
  | reload (config : Config) (same : call = .reloadConfig config) (free : engine.reloadLock = none) :
      Advanced storage engine index call .waiting
        { engine.put index call (.applying config) with reloadLock := some index }
  | save (mutation : Mutation) (same : call = .applyOperatorMutation mutation)
      (free : engine.reloadLock = none) :
      Advanced storage engine index call .waiting
        { engine.put index call .saving with reloadLock := some index }
  | commit (config : Config) (free : engine.reloadLock = none) :
      Advanced storage engine index call (.prepared engine.config config)
        { engine.put index call (.applying config) with reloadLock := some index }
  | saved (mutation : Mutation) (file : File) (same : call = .applyOperatorMutation mutation)
      (changed : storage.applyMutation mutation engine.file = .ok file) :
      Advanced storage engine index call .saving
        { engine.put index call .loading with file := file }
  | refused : Advanced storage engine index call .saving (engine.unlock index call .failed)
  | loaded (config : Config) (written : storage.loadConfig engine.file = .ok config) :
      Advanced storage engine index call .loading (engine.put index call (.applying config))
  | store (config : Config) :
      Advanced storage engine index call (.applying config)
        { engine.unlock index call .succeeded with config := config }

theorem advance_cases {action : Action} (admitted : Undisturbed storage engine action)
    (stepped : step storage engine action = some next) :
    ∃ index call phase, engine.calls[index]? = some (call, phase) ∧
      Advanced storage engine index call phase next := by
  cases action with
  | unconfirmed index => cases admitted
  | advance index =>
    rw [step, advance] at stepped
    cases found : engine.calls[index]? with
    | none =>
      rw [found] at stepped
      cases stepped
    | some item =>
      obtain ⟨call, phase⟩ := item
      refine ⟨index, call, phase, found, ?_⟩
      rw [Undisturbed, found] at admitted
      rw [found] at stepped
      cases phase with
      | waiting =>
        cases call with
        | setServerEnabled name enabled =>
          cases stepped
          exact .read name enabled rfl
        | reloadConfig config =>
          obtain ⟨free, rfl⟩ := lock_some stepped
          exact .reload config rfl free
        | applyOperatorMutation mutation =>
          obtain ⟨free, rfl⟩ := lock_some stepped
          exact .save mutation rfl free
      | prepared read config =>
        obtain ⟨free, rfl⟩ := lock_some stepped
        obtain rfl : read = engine.config := admitted
        exact .commit config free
      | saving =>
        cases call with
        | setServerEnabled name enabled => cases stepped
        | reloadConfig config => cases stepped
        | applyOperatorMutation mutation =>
          cases changed : storage.applyMutation mutation engine.file with
          | error text =>
            simp only [changed] at stepped
            cases stepped
            exact .refused
          | ok file =>
            simp only [changed] at stepped
            cases stepped
            exact .saved mutation file rfl changed
      | loading =>
        cases written : storage.loadConfig engine.file with
        | error text =>
          simp only [written] at admitted
          cases admitted
        | ok config =>
          simp only [written] at stepped
          cases stepped
          exact .loaded config written
      | applying config =>
        cases stepped
        exact .store config
      | succeeded => cases stepped
      | failed => cases stepped

end Steps

end Plug.Reload
