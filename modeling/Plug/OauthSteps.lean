import Plug.OauthOutcomes

/-!
# Steps of the OAuth manager

What any step does to the system, and the rule by which properties of the states
in memory and on disk are carried along a run.
-/

namespace Plug.DownstreamOauth

variable {lib : Passkeys} {env : Environment}

/-- The operations in flight that store a client do so under an address. -/
def InFlightAddressed (env : Environment) (system : System lib) : Prop :=
  ∀ task ∈ system.inFlight, Addressed env (.later task.2)

/-- What one step does. -/
inductive Effect (env : Environment) (system next : System lib) : Action lib → Prop where
  | idle {action : Action lib} (memory : next.memory = system.memory)
      (file : next.file = system.file) (renamed : next.renamed = system.renamed)
      (durable : next.durableFile = system.durableFile ∨ next.durableFile = system.file)
      (log : next.log = system.log) (used : next.used = system.used)
      (granted : next.granted = system.granted)
      (lifecycles : next.lifecycles = system.lifecycles)
      (principalLifecycles : next.principalLifecycles = system.principalLifecycles) :
      Effect env system next action
  | sectioned {index : Nat} {circumstances : Circumstances lib} {answer : Answer}
      (used : next.used = [circumstances.value 0, circumstances.value 1, circumstances.value 2] ++
        system.used)
      (leases : LeasesMove circumstances.value system next)
      (commit : Commit env circumstances.value system next answer) :
      Effect env system next (.advance index circumstances)
  | validated {token : String} {requiredScopes : List String} {resource : String} {now : Nat}
      {record : IssuedAccessToken} (found : (token, record) ∈ system.memory.accessTokens)
      {client : RegisteredClient} (present : (record.clientId, client) ∈ system.memory.clients)
      {claims : AccessTokenClaims} (clientId : claims.clientId = record.clientId)
      (lifecycle : Tables.get system.principalLifecycles claims.clientId =
        some claims.principalLifecycle.state)
      (familyEnded : List (String × SignIn))
      (same : next = { system with
        familyEnded := familyEnded, granted := claims :: system.granted }) :
      Effect env system next (.validateAccessTokenFor token requiredScopes resource now)
  | restarted {powerLost entryKept : Bool} {now : Nat}
      (file : next.file = system.file ∨ next.file = system.durableFile)
      (same : next = restart system powerLost entryKept now) :
      Effect env system next (.restart powerLost entryKept now)

variable {system next : System lib} {action : Action lib}
  {property : DownstreamOauthState lib → List (Event lib) → List String → Prop}

theorem call_effect {operation : Operation lib} {synced rateAllowed : Bool} :
    Effect env system (call env system operation synced rateAllowed).2
      (.call operation synced rateAllowed) := by
  have checked : ∃ degraded durableFile,
      (durableFile = system.durableFile ∨ durableFile = system.file) ∧
        ensureDurable system synced =
          { system with durabilityDegraded := degraded, durableFile := durableFile } := by
    cases ensureDurable_cases system synced with
    | inl unchanged => exact ⟨_, _, Or.inl rfl, unchanged⟩
    | inr settled => exact ⟨_, _, Or.inr rfl, settled⟩
  obtain ⟨degraded, durableFile, which, checked⟩ := checked
  simp only [call, checked]
  split
  · exact .idle rfl rfl rfl which rfl rfl rfl rfl rfl
  · split <;> exact .idle rfl rfl rfl which rfl rfl rfl rfl rfl

/-- Going on or not changes nothing but what is in flight. -/
theorem proceed_eq (system : System lib) (operation : Operation lib) (answer : Answer) :
    ∃ inFlight, system.proceed operation answer = { system with inFlight := inFlight } := by
  cases answer with
  | later stage => exact ⟨(operation, stage) :: system.inFlight, rfl⟩
  | failed error => exact ⟨system.inFlight, rfl⟩
  | done response => exact ⟨system.inFlight, rfl⟩

theorem proceed_addressed {operation : Operation lib} {answer : Answer}
    (others : InFlightAddressed env system) (addressed : Addressed env answer) :
    InFlightAddressed env (system.proceed operation answer) := by
  cases answer with
  | later stage =>
    intro task member
    rcases List.mem_cons.mp member with rfl | member
    · exact addressed
    · exact others task member
  | failed error => exact others
  | done response => exact others

/-- The section of an operation in flight. -/
theorem advance_effect {index : Nat} {circumstances : Circumstances lib} {answer : Answer}
    (addressed : InFlightAddressed env system)
    (advanced : advance env circumstances system index = some (answer, next)) :
    Effect env system next (.advance index circumstances) ∧ InFlightAddressed env next ∧
      Commit env circumstances.value system next answer := by
  unfold advance at advanced
  split at advanced
  · cases advanced
  rename_i task found
  have outcome := performSection_outcome env circumstances (system.start index circumstances)
    task (addressed task (List.mem_of_getElem? found))
  cases advanced
  generalize performSection env circumstances (system.start index circumstances) task = result
    at outcome ⊢
  obtain ⟨answer, after⟩ := result
  have others : InFlightAddressed env after := by
    intro other member
    rw [outcome.inFlight] at member
    exact addressed other (List.mem_of_mem_eraseIdx member)
  obtain ⟨inFlight, same⟩ := proceed_eq after task.1 answer
  have commit : Commit env circumstances.value system (after.proceed task.1 answer) answer := by
    rw [same]
    have committed : Commit env circumstances.value (system.start index circumstances) after
      answer := outcome.commit
    cases committed with
    | unattempted memory file renamed durable log =>
      exact .unattempted memory file renamed durable log
    | failed memory file renamed durable log => exact .failed memory file renamed durable log
    | uncertain change memory file renamed durable log =>
      exact .uncertain change memory file renamed durable log
    | durable change memory file renamed durable log expelled =>
      exact .durable change memory file renamed durable log expelled
  refine ⟨.sectioned ?_ ?_ commit, proceed_addressed others outcome.addressed, commit⟩
  · rw [same]
    exact outcome.used
  · rw [same]
    have leases := outcome.leases
    exact ⟨leases.granted, leases.quiet, leases.held, leases.introduced, leases.linked⟩

/-- A token is refused, or a lease is handed out for the client of its record. -/
theorem validate_cases (system : System lib) (token : String) (requiredScopes : List String)
    (resource : String) (now : Nat) :
    (∃ familyEnded, (validateAccessTokenFor system token requiredScopes resource now).2 =
      { system with familyEnded := familyEnded }) ∨
    ∃ record client claims familyEnded, (token, record) ∈ system.memory.accessTokens ∧
      (record.clientId, client) ∈ system.memory.clients ∧
      claims.clientId = record.clientId ∧
      Tables.get system.principalLifecycles claims.clientId =
        some claims.principalLifecycle.state ∧
      (validateAccessTokenFor system token requiredScopes resource now).2 = { system with
        familyEnded := familyEnded, granted := claims :: system.granted } := by
  have unchanged : ∃ familyEnded, system = { system with familyEnded := familyEnded } :=
    ⟨system.familyEnded, rfl⟩
  unfold validateAccessTokenFor
  split
  · exact Or.inl unchanged
  split
  · exact Or.inl unchanged
  rename_i record found
  split
  · exact Or.inl unchanged
  rename_i usable
  simp only [not_or] at usable
  obtain ⟨client, present⟩ := Tables.containsKey_iff.mp (by simpa using usable.2.2)
  split
  · exact Or.inl unchanged
  split
  · exact Or.inl unchanged
  rename_i state lifecycle
  have tracked : ∃ familyEnded, (if record.familyId = "" then system
      else system.trackFamily record) = { system with familyEnded := familyEnded } := by
    split
    · exact unchanged
    · exact ⟨_, rfl⟩
  obtain ⟨familyEnded, tracked⟩ := tracked
  dsimp only
  rw [tracked]
  generalize (if record.familyId = "" then none else some record.familyId) = family
  split
  · exact Or.inl ⟨familyEnded, rfl⟩
  · exact Or.inr ⟨record, client, _, familyEnded, Tables.mem_of_get found, present, rfl,
      lifecycle, rfl⟩

theorem step_effect (addressed : InFlightAddressed env system)
    (stepped : step env system action = some next) : Effect env system next action := by
  cases action with
  | call operation synced rateAllowed =>
    rw [← Option.some.inj stepped]
    exact call_effect
  | advance index circumstances =>
    obtain ⟨⟨answer, after⟩, advanced, rfl⟩ := Option.map_eq_some_iff.mp stepped
    exact (advance_effect addressed advanced).1
  | abandon index =>
    rw [← Option.some.inj stepped]
    exact .idle rfl rfl rfl (Or.inl rfl) rfl rfl rfl rfl rfl
  | validateAccessTokenFor token requiredScopes resource now =>
    rw [← Option.some.inj stepped]
    rcases validate_cases system token requiredScopes resource now with
      ⟨familyEnded, same⟩ | ⟨record, client, claims, familyEnded, found, present, clientId,
        lifecycle, same⟩
    · rw [same]
      exact .idle rfl rfl rfl (Or.inl rfl) rfl rfl rfl rfl rfl
    · exact .validated found present clientId lifecycle familyEnded same
  | restart powerLost entryKept now =>
    rw [← Option.some.inj stepped]
    refine .restarted ?_ rfl
    simp only [restart]
    split
    · exact Or.inr rfl
    · exact Or.inl rfl

/-- No operation starts by storing a client. -/
theorem firstStage_addressed {rateAllowed : Bool} {operation : Operation lib} {stage : Stage}
    (first : firstStage env rateAllowed operation = .ok stage) :
    Addressed env (.later stage) := by
  unfold firstStage at first
  split at first
  · split at first
    · cases first
    split at first
    · rw [← Except.ok.inj first]
      trivial
    · cases first
  · split at first
    · cases first
    · rw [← Except.ok.inj first]
      trivial
  all_goals
    rw [← Except.ok.inj first]
    trivial

theorem step_addressed (addressed : InFlightAddressed env system)
    (stepped : step env system action = some next) : InFlightAddressed env next := by
  cases action with
  | call operation synced rateAllowed =>
    have checked : (ensureDurable system synced).inFlight = system.inFlight := by
      cases ensureDurable_cases system synced with
      | inl unchanged =>
        rw [unchanged]
      | inr settled =>
        rw [settled]
    rw [← Option.some.inj stepped]
    simp only [call]
    split
    · intro task member
      exact addressed task (checked ▸ member)
    split
    · intro task member
      exact addressed task (checked ▸ member)
    · rename_i stage first
      intro task member
      rcases List.mem_cons.mp member with rfl | member
      · exact firstStage_addressed first
      · exact addressed task (checked ▸ member)
  | advance index circumstances =>
    obtain ⟨⟨answer, after⟩, advanced, rfl⟩ := Option.map_eq_some_iff.mp stepped
    exact (advance_effect addressed advanced).2.1
  | abandon index =>
    rw [← Option.some.inj stepped]
    intro task member
    exact addressed task (List.mem_of_mem_eraseIdx member)
  | validateAccessTokenFor token requiredScopes resource now =>
    rw [← Option.some.inj stepped]
    rcases validate_cases system token requiredScopes resource now with
      ⟨familyEnded, same⟩ | ⟨record, client, claims, familyEnded, found, present, clientId,
        lifecycle, same⟩
    · rw [same]
      exact addressed
    · rw [same]
      exact addressed
  | restart powerLost entryKept now =>
    rw [← Option.some.inj stepped]
    intro task member
    cases member

/-- The states a run may go on from: in memory, in the file, and in the file that
a power loss leaves. -/
def Stored (system : System lib) (state : DownstreamOauthState lib) : Prop :=
  state = system.memory ∨ system.file = some state ∨ system.durableFile = some state

/-- Nothing was renamed: what is stored was stored. -/
theorem stored_of_kept (memory : next.memory = system.memory) (file : next.file = system.file)
    (durable : next.durableFile = system.durableFile ∨ next.durableFile = system.file)
    {state : DownstreamOauthState lib} (stored : Stored next state) : Stored system state := by
  rcases stored with rfl | inFile | inDurable
  · exact Or.inl memory
  · exact Or.inr (Or.inl (file ▸ inFile))
  · rcases durable with equal | equal
    · exact Or.inr (Or.inr (equal ▸ inDurable))
    · exact Or.inr (Or.inl (equal ▸ inDurable))

/-- Three new and distinct values. -/
structure FreshIn (value : Nat → String) (used : List String) : Prop where
  first : value 0 ∉ used
  second : value 1 ∉ used
  third : value 2 ∉ used
  firstSecond : value 0 ≠ value 1
  firstThird : value 0 ≠ value 2
  secondThird : value 1 ≠ value 2

theorem freshIn_of_freshValues {index : Nat} {circumstances : Circumstances lib}
    (fresh : freshValues system (.advance index circumstances) = true) :
    FreshIn circumstances.value system.used := by
  simp only [freshValues, Bool.and_eq_true, Bool.not_eq_true', bne_iff_ne] at fresh
  obtain ⟨⟨⟨⟨⟨first, second⟩, third⟩, firstSecond⟩, firstThird⟩, secondThird⟩ := fresh
  exact ⟨by simpa using first, by simpa using second, by simpa using third, firstSecond,
    firstThird, secondThird⟩

/-- The values a section used up, before those used earlier. -/
def usedWith (value : Nat → String) (used : List String) : List String :=
  [value 0, value 1, value 2] ++ used

/-- A property of a stored state, the log and the used values that the manager's
steps carry from the states they start from to those they leave. -/
structure Carried (env : Environment)
    (property : DownstreamOauthState lib → List (Event lib) → List String → Prop) : Prop where
  empty : ∀ state log used, .persisted .durable ∉ log → property state log used →
    property {} log used
  within : ∀ next memory log used, Within next memory → property memory log used →
    property next log used
  spent : ∀ state log used value, property state log used →
    property state log (usedWith value used)
  persisted : ∀ state log used outcome, property state log used →
    property state (.persisted outcome :: log) used
  announced : ∀ value memory next events later log used, FreshIn value used →
    property memory log used → Change env value memory next events later →
      ∀ state, property state log used → property state (events ++ log) (usedWith value used)
  changed : ∀ value memory next events later log used, FreshIn value used →
    property memory log used → Change env value memory next events later →
      property next (events ++ log) (usedWith value used) ∧
        (.persisted .durable ∈ log →
          property next (later ++ (events ++ log)) (usedWith value used))

/-- A section keeps a carried property. -/
theorem commit_carried (carried : Carried env property) {value : Nat → String} {answer : Answer}
    (fresh : FreshIn value system.used)
    (held : ∀ state, Stored system state → property state system.log system.used)
    (commit : Commit env value system next answer) :
    ∀ state, Stored next state → property state next.log (usedWith value system.used) := by
  intro state stored
  have memory := held system.memory (Or.inl rfl)
  cases commit with
  | unattempted same file renamed durable log =>
    rw [log]
    exact carried.spent _ _ _ _ (held state (stored_of_kept same file durable stored))
  | failed same file renamed durable log =>
    rw [log]
    refine carried.persisted _ _ _ _ (carried.spent _ _ _ _ (held state ?_))
    exact stored_of_kept same file durable stored
  | uncertain change same file renamed durable log =>
    have memory := carried.persisted _ _ _ .uncertain memory
    have new := (carried.changed _ _ _ _ _ _ _ fresh memory change).1
    have old : ∀ other, Stored system other →
        property other next.log (usedWith value system.used) := by
      intro other present
      rw [log]
      exact carried.announced _ _ _ _ _ _ _ fresh memory change other
        (carried.persisted _ _ _ .uncertain (held other present))
    rcases stored with rfl | inFile | inDurable
    · rw [same, log]
      exact new
    · rw [log, ← Option.some.inj (file.symm.trans inFile)]
      exact new
    · refine old state ?_
      cases durable with
      | inl equal => exact Or.inr (Or.inr (equal ▸ inDurable))
      | inr equal => exact Or.inr (Or.inl (equal ▸ inDurable))
  | durable change same file renamed durable log expelled =>
    have memory := carried.persisted _ _ _ .durable memory
    have new := (carried.changed _ _ _ _ _ _ _ fresh memory change).2 (List.mem_cons_self ..)
    rw [log]
    rcases stored with rfl | inFile | inDurable
    · rw [same]
      exact new
    · rw [← Option.some.inj (file.symm.trans inFile)]
      exact new
    · rw [← Option.some.inj (durable.symm.trans inDurable)]
      exact new

/-- Once a commit was durable there is a file, also after a power loss. -/
def FileKept (system : System lib) : Prop :=
  .persisted .durable ∈ system.log → system.file.isSome ∧ system.durableFile.isSome

theorem fileKept_of_kept (kept : FileKept system) (file : next.file = system.file)
    (durable : next.durableFile = system.durableFile ∨ next.durableFile = system.file)
    (logged : .persisted .durable ∈ system.log) : next.file.isSome ∧ next.durableFile.isSome := by
  obtain ⟨inFile, inDurable⟩ := kept logged
  refine ⟨file ▸ inFile, ?_⟩
  cases durable with
  | inl equal => exact equal ▸ inDurable
  | inr equal => exact equal ▸ inFile

theorem step_fileKept (kept : FileKept system) (effect : Effect env system next action) :
    FileKept next := by
  intro logged
  cases effect with
  | idle memory file renamed durable log used granted lifecycles principalLifecycles =>
    exact fileKept_of_kept kept file durable (log ▸ logged)
  | sectioned used leases commit =>
    cases commit with
    | unattempted memory file renamed durable log =>
      exact fileKept_of_kept kept file durable (log ▸ logged)
    | failed memory file renamed durable log =>
      rw [log] at logged
      exact fileKept_of_kept kept file durable (by simpa using logged)
    | uncertain change memory file renamed durable log =>
      have earlier : .persisted .durable ∈ system.log := by
        rw [log] at logged
        cases List.mem_append.mp logged with
        | inl new =>
          cases change <;> simp at new
        | inr old =>
          simpa using old
      refine ⟨by rw [file]; rfl, ?_⟩
      obtain ⟨inFile, inDurable⟩ := kept earlier
      cases durable with
      | inl equal => exact equal ▸ inDurable
      | inr equal => exact equal ▸ inFile
    | durable change memory file renamed durable log expelled =>
      exact ⟨by rw [file]; rfl, by rw [durable]; rfl⟩
  | validated found present clientId lifecycle familyEnded same =>
    subst same
    exact kept logged
  | restarted file same =>
    have durable : next.durableFile = next.file := by
      rw [same]
      rfl
    have earlier : .persisted .durable ∈ system.log := by
      rw [same] at logged
      exact logged
    obtain ⟨inFile, inDurable⟩ := kept earlier
    rw [durable]
    cases file with
    | inl equal => exact ⟨equal ▸ inFile, equal ▸ inFile⟩
    | inr equal => exact ⟨equal ▸ inDurable, equal ▸ inDurable⟩

/-- A carried property holds of every stored state after every step. -/
theorem step_carried (carried : Carried env property) (fresh : freshValues system action = true)
    (addressed : InFlightAddressed env system) (kept : FileKept system)
    (held : ∀ state, Stored system state → property state system.log system.used)
    (stepped : step env system action = some next) :
    ∀ state, Stored next state → property state next.log next.used := by
  cases step_effect addressed stepped with
  | idle memory file renamed durable log used granted lifecycles principalLifecycles =>
    intro state stored
    rw [log, used]
    exact held state (stored_of_kept memory file durable stored)
  | sectioned used leases commit =>
    rw [used]
    exact commit_carried carried (freshIn_of_freshValues fresh) held commit
  | validated found present clientId lifecycle familyEnded same =>
    subst same
    exact held
  | restarted file same =>
    have onDisk : ∀ state, next.file = some state →
        property state system.log system.used := by
      intro state which
      refine held state ?_
      cases file with
      | inl equal => exact Or.inr (Or.inl (equal.symm.trans which))
      | inr equal => exact Or.inr (Or.inr (equal.symm.trans which))
    have loaded : ∀ now, property (startupState now next.file) system.log system.used := by
      intro now
      refine carried.within _ _ _ _ (within_startupState now next.file) ?_
      cases which : next.file with
      | none =>
        refine carried.empty _ _ _ ?_ (held _ (Or.inl rfl))
        intro logged
        obtain ⟨inFile, inDurable⟩ := kept logged
        cases file with
        | inl equal =>
          rw [← equal, which] at inFile
          cases inFile
        | inr equal =>
          rw [← equal, which] at inDurable
          cases inDurable
      | some state => exact onDisk state which
    subst same
    intro state stored
    rcases stored with rfl | inFile | inDurable
    · exact loaded _
    · exact onDisk state inFile
    · exact onDisk state inDurable

/-- What is carried along a run with a property of the stored states. -/
structure Regular (env : Environment)
    (property : DownstreamOauthState lib → List (Event lib) → List String → Prop)
    (system : System lib) : Prop where
  addressed : InFlightAddressed env system
  kept : FileKept system
  held : ∀ state, Stored system state → property state system.log system.used

theorem step_regular (carried : Carried env property) (fresh : freshValues system action = true)
    (regular : Regular env property system) (stepped : step env system action = some next) :
    Regular env property next where
  addressed := step_addressed regular.addressed stepped
  kept := step_fileKept regular.kept (step_effect regular.addressed stepped)
  held := step_carried carried fresh regular.addressed regular.kept regular.held stepped

theorem initial_regular (base : property {} [] []) : Regular env property initial where
  addressed _ member := by cases member
  kept logged := by cases logged
  held state stored := by
    rcases stored with rfl | inFile | inDurable
    · exact base
    · cases inFile
    · cases inDurable

/-- A carried property holds of every stored state after every run. -/
theorem run_regular (carried : Carried env property) (base : property {} [] [])
    {trace : List (Action lib)} {final : System lib}
    (fresh : Runs.Admitted (step env) (fun system action => freshValues system action = true)
      initial trace) (ran : Runs.exec (step env) initial trace = some final) :
    Regular env property final :=
  Runs.exec_invariant (step env) (fun system action => freshValues system action = true)
    (Regular env property)
    (fun _ _ _ fresh regular stepped => step_regular carried fresh regular stepped)
    trace initial final (initial_regular base) fresh ran

end Plug.DownstreamOauth
