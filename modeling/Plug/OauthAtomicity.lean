import Plug.OauthSteps

/-!
# Commits of the OAuth manager

A commit writes a copy of the state and takes it over only after the rename, so
memory is what the file holds. From a start to the first rename it is what the
loader makes of the file: records that expired while no process ran are not read
back in, and nothing is written for that.

A code leaves the state in the commit that issues its tokens, and the tokens are
returned only when that commit is durable. No file that a later start can read
has the code again.
-/

namespace Plug.DownstreamOauth

variable {lib : Passkeys} {env : Environment}

/-- Memory is what this process renamed into place last, or what it read. -/
structure Matches (system : System lib) : Prop where
  written : system.renamed = true → system.file = some system.memory
  loaded : system.renamed = false → ∃ now, system.memory = startupState now system.file

variable {system next : System lib} {state memory : DownstreamOauthState lib} {value : Nat → String}
  {events later log : List (Event lib)} {used : List String}

theorem Matches.of_eq (matched : Matches system) (memory : next.memory = system.memory)
    (file : next.file = system.file) (renamed : next.renamed = system.renamed) : Matches next := by
  constructor
  · rw [memory, file, renamed]
    exact matched.written
  · rw [memory, file, renamed]
    exact matched.loaded

theorem Matches.of_renamed (memory : next.memory = state) (file : next.file = some state)
    (renamed : next.renamed = true) : Matches next := by
  constructor
  · intro _
    rw [memory, file]
  · intro unwritten
    rw [renamed] at unwritten
    cases unwritten

theorem initial_matches : Matches (initial : System lib) := by
  constructor
  · intro written
    cases written
  · intro _
    exact ⟨0, rfl⟩

theorem effect_matches {action : Action lib} (matched : Matches system)
    (effect : Effect env system next action) : Matches next := by
  cases effect with
  | idle memory file renamed durable log used granted lifecycles principalLifecycles =>
    exact matched.of_eq memory file renamed
  | sectioned used leases commit =>
    cases commit with
    | unattempted memory file renamed durable log => exact matched.of_eq memory file renamed
    | failed memory file renamed durable log => exact matched.of_eq memory file renamed
    | uncertain change memory file renamed durable log =>
      exact Matches.of_renamed memory file renamed
    | durable change memory file renamed durable log expelled =>
      exact Matches.of_renamed memory file renamed
  | validated found present clientId lifecycle familyEnded same =>
    subst same
    exact matched.of_eq rfl rfl rfl
  | restarted file same =>
    subst same
    constructor
    · intro written
      cases written
    · intro _
      exact ⟨_, rfl⟩

/-- What a section leaves, by what its commit came to. -/
structure Atomic (system next : System lib) (answer : Answer) (events : List (Event lib)) :
    Prop where
  logged : next.log = events ++ system.log
  unattempted : (∀ outcome, .persisted outcome ∉ events) →
    next.memory = system.memory ∧ next.file = system.file
  failed : .persisted .failed ∈ events →
    next.memory = system.memory ∧ next.file = system.file ∧ answer = .failed .persistence
  uncertain : .persisted .uncertain ∈ events →
    next.file = some next.memory ∧ answer = .failed .persistence
  durable : .persisted .durable ∈ events →
    next.file = some next.memory ∧ next.durableFile = some next.memory

/-- Only the commit itself logs what it came to. -/
theorem change_unpersisted {next : DownstreamOauthState lib}
    (change : Change env value memory next events later) (outcome : PersistOutcome) :
    .persisted outcome ∉ events ∧ .persisted outcome ∉ later := by
  cases change <;> simp

theorem commit_atomic {answer : Answer} (commit : Commit env value system next answer) :
    ∃ events, Atomic system next answer events := by
  cases commit with
  | unattempted memory file renamed durable log =>
    refine ⟨[], log, fun _ => ⟨memory, file⟩, ?_, ?_, ?_⟩ <;>
      · intro member
        cases member
  | failed memory file renamed durable log =>
    refine ⟨[.persisted .failed], log, fun _ => ⟨memory, file⟩, fun _ => ⟨memory, file, rfl⟩,
      ?_, ?_⟩ <;>
      · intro member
        simp at member
  | @uncertain state events later change memory file renamed durable log =>
    have only : ∀ outcome, .persisted outcome ∈ events ++ [.persisted .uncertain] →
        outcome = .uncertain := by
      intro outcome member
      have last := (List.mem_append.mp member).resolve_left (change_unpersisted change outcome).1
      simpa using last
    refine ⟨events ++ [.persisted .uncertain], ?_, ?_, ?_, ?_, ?_⟩
    · rw [log]
      simp
    · intro none
      exact (none .uncertain (by simp)).elim
    · intro member
      cases only _ member
    · intro _
      exact ⟨by rw [memory, file], rfl⟩
    · intro member
      cases only _ member
  | @durable _ state events later change memory file renamed durable log expelled =>
    have only : ∀ outcome, .persisted outcome ∈ later ++ (events ++ [.persisted .durable]) →
        outcome = .durable := by
      intro outcome member
      have member := (List.mem_append.mp member).resolve_left
        (change_unpersisted change outcome).2
      have last := (List.mem_append.mp member).resolve_left (change_unpersisted change outcome).1
      simpa using last
    refine ⟨later ++ (events ++ [.persisted .durable]), ?_, ?_, ?_, ?_, ?_⟩
    · rw [log]
      simp
    · intro none
      exact (none .durable (by simp)).elim
    · intro member
      cases only _ member
    · intro member
      cases only _ member
    · intro _
      exact ⟨by rw [memory, file], by rw [memory, durable]⟩

/-! ### Codes -/

/-- The code whose tokens were returned. -/
def Event.yieldedCode : Event lib → Option String
  | .yielded code => some code
  | _ => none

/-- The codes whose tokens were returned, one entry each time. -/
def yieldedCodes (log : List (Event lib)) : List String := log.filterMap Event.yieldedCode

/-- A code whose tokens were returned is in no state that is read again. -/
structure CodesSpent (state : DownstreamOauthState lib) (log : List (Event lib))
    (used : List String) : Prop where
  known : ∀ code pending, (code, pending) ∈ state.pendingCodes → code ∈ used
  spent : ∀ code ∈ yieldedCodes log,
    code ∈ used ∧ ∀ pending, (code, pending) ∉ state.pendingCodes
  once : (yieldedCodes log).Nodup

theorem CodesSpent.within {next : DownstreamOauthState lib} (codes : CodesSpent memory log used)
    (kept : next.pendingCodes ⊆ memory.pendingCodes) : CodesSpent next log used where
  known code pending member := codes.known code pending (kept member)
  spent code yielded := by
    obtain ⟨known, gone⟩ := codes.spent code yielded
    exact ⟨known, fun pending member => gone pending (kept member)⟩
  once := codes.once

theorem CodesSpent.usedWith (codes : CodesSpent state log used) (value : Nat → String) :
    CodesSpent state log (usedWith value used) where
  known code pending member := List.mem_append_right _ (codes.known code pending member)
  spent code yielded := by
    obtain ⟨known, gone⟩ := codes.spent code yielded
    exact ⟨List.mem_append_right _ known, gone⟩
  once := codes.once

theorem CodesSpent.of_yieldedCodes {longer : List (Event lib)} (codes : CodesSpent state log used)
    (same : yieldedCodes longer = yieldedCodes log) : CodesSpent state longer used :=
  ⟨codes.known, same ▸ codes.spent, same ▸ codes.once⟩

/-- Nothing is returned before the commit is durable. -/
theorem change_yields_nothing {next : DownstreamOauthState lib}
    (change : Change env value memory next events later) (log : List (Event lib)) :
    yieldedCodes (events ++ log) = yieldedCodes log := by
  cases change <;> rfl

/-- The only code a change may add is new. -/
theorem change_pendingCodes {next : DownstreamOauthState lib}
    (change : Change env value memory next events later) {code : String}
    {pending : PendingAuthorizationCode} (member : (code, pending) ∈ next.pendingCodes) :
    (code, pending) ∈ memory.pendingCodes ∨ code = value 0 := by
  cases change with
  | shrunk within => exact Or.inl (within.pendingCodes member)
  | enrolled within credentialId credential => exact Or.inl (within.pendingCodes member)
  | registered within client => exact Or.inl (within.pendingCodes member)
  | stored within clientId client address allowed => exact Or.inl (within.pendingCodes member)
  | requested within consent present configured => exact Or.inl (within.pendingCodes member)
  | coded within pending owned verified expiresAt =>
    rcases Tables.mem_insert.mp member with new | ⟨kept, _⟩
    · exact Or.inr (Prod.mk.inj new).1
    · exact Or.inl (within.pendingCodes kept)
  | exchanged within found gone order now => exact Or.inl (within.pendingCodes member)
  | renewed within found order now => exact Or.inl (within.pendingCodes member)
  | revoked clientId present =>
    exact Or.inl ((within_removeClientMaterial memory clientId).pendingCodes member)

/-- Tokens are returned for a code that was pending and no longer is. -/
theorem change_yields {next : DownstreamOauthState lib}
    (change : Change env value memory next events later) :
    (∀ log, yieldedCodes (later ++ log) = yieldedCodes log) ∨
      ∃ code pending, (code, pending) ∈ memory.pendingCodes ∧
        (∀ other, (code, other) ∉ next.pendingCodes) ∧
        ∀ log, yieldedCodes (later ++ log) = code :: yieldedCodes log := by
  cases change with
  | exchanged within found gone order now =>
    exact Or.inr ⟨_, _, found, gone, fun _ => rfl⟩
  | _ => exact Or.inl fun _ => rfl

theorem CodesSpent.changed {next : DownstreamOauthState lib} (fresh : FreshIn value used)
    (codes : CodesSpent memory log used) (change : Change env value memory next events later) :
    CodesSpent next (events ++ log) (DownstreamOauth.usedWith value used) where
  known code pending member := by
    rcases change_pendingCodes change member with earlier | rfl
    · exact List.mem_append_right _ (codes.known code pending earlier)
    · exact List.mem_cons_self ..
  spent code yielded := by
    rw [change_yields_nothing change] at yielded
    obtain ⟨known, gone⟩ := codes.spent code yielded
    refine ⟨List.mem_append_right _ known, ?_⟩
    intro pending member
    rcases change_pendingCodes change member with earlier | rfl
    · exact gone pending earlier
    · exact fresh.first known
  once := by
    rw [change_yields_nothing change]
    exact codes.once

/-- The rule for states holds of spent codes. -/
theorem codesSpent_carried (env : Environment) : Carried env (@CodesSpent lib) where
  empty state log used _ codes := codes.within (List.nil_subset _)
  within next memory log used within codes := codes.within within.pendingCodes
  spent state log used value codes := codes.usedWith value
  persisted state log used outcome codes := codes.of_yieldedCodes rfl
  announced value memory next events later log used _ _ change state codes :=
    (codes.usedWith value).of_yieldedCodes (change_yields_nothing change log)
  changed value memory next events later log used fresh codes change := by
    have new := codes.changed fresh change
    refine ⟨new, fun _ => ?_⟩
    rcases change_yields change with nothing | ⟨code, pending, found, gone, yields⟩
    · exact new.of_yieldedCodes (nothing _)
    · have unspent : code ∉ yieldedCodes (events ++ log) := by
        rw [change_yields_nothing change]
        exact fun yielded => (codes.spent code yielded).2 pending found
      refine ⟨new.known, ?_, ?_⟩
      · intro other yielded
        rw [yields] at yielded
        rcases List.mem_cons.mp yielded with rfl | earlier
        · exact ⟨List.mem_append_right _ (codes.known _ _ found), gone⟩
        · exact new.spent other earlier
      · rw [yields]
        exact List.nodup_cons.mpr ⟨unspent, new.once⟩

/-- A commit that lets its operation answer was durable. -/
theorem commitState_done {circumstances : Circumstances lib}
    {finish : System lib → Answer × System lib} {response : Response}
    (answered : commitState circumstances system state events finish = (.done response, next)) :
    ∃ committed, finish committed = (.done response, next) := by
  unfold commitState at answered
  dsimp only at answered
  split at answered
  · cases answered
  split at answered
  · cases answered
  · cases answered
  · exact ⟨_, answered⟩

/-- An exchange that answers with tokens logs its code. -/
theorem exchange_yields {circumstances : Circumstances lib}
    {clientId code redirectUri codeVerifier resource : String} {response : Response}
    (answered : exchangeAuthorizationCode env circumstances system clientId code redirectUri
      codeVerifier resource = (.done response, next)) : next.log.head? = some (.yielded code) := by
  unfold exchangeAuthorizationCode at answered
  dsimp only at answered
  split at answered
  · cases answered
  split at answered
  · cases answered
  split at answered
  · cases answered
  split at answered
  · cases answered
  obtain ⟨committed, finished⟩ := commitState_done answered
  rw [← (Prod.mk.inj finished).2]
  rfl

theorem advance_exchange_yields {circumstances : Circumstances lib} {index : Nat}
    {clientId code redirectUri codeVerifier resource : String} {response : Response}
    (found : system.inFlight[index]? = some (.exchangeAuthorizationCode clientId code redirectUri
      codeVerifier resource, .main))
    (advanced : advance env circumstances system index = some (.done response, next)) :
    next.log.head? = some (.yielded code) := by
  unfold advance at advanced
  rw [found] at advanced
  obtain ⟨answered, same⟩ := Prod.mk.inj (Option.some.inj advanced)
  rw [answered] at same
  exact exchange_yields (Prod.ext answered same)

/-- In every run, with any operations in flight, any answers of the disk and any
restarts: memory is what this process renamed into place last or what it read at
its start; a commit that fails before the rename changes nothing and is reported; a
commit that renames leaves the file and memory equal, and is reported unless it is
durable; and tokens are returned for a code at most once. -/
theorem commits_atomic (env : Environment) (trace : List (Action lib)) (final : System lib)
    (fresh : Runs.Admitted (step env) (fun system action => freshValues system action = true)
      initial trace)
    (ran : Runs.exec (step env) initial trace = some final) :
    Matches final ∧
    (∀ index circumstances answer next,
      advance env circumstances final index = some (answer, next) →
        ∃ events, Atomic final next answer events) ∧
    (∀ index circumstances clientId code redirectUri codeVerifier resource response next,
      final.inFlight[index]? = some
        (.exchangeAuthorizationCode clientId code redirectUri codeVerifier resource, .main) →
      advance env circumstances final index = some (.done response, next) →
        next.log.head? = some (.yielded code)) ∧
    (yieldedCodes final.log).Nodup := by
  have base : CodesSpent ({} : DownstreamOauthState lib) [] [] := by
    constructor <;> simp [yieldedCodes]
  obtain ⟨regular, matched⟩ := Runs.exec_invariant (step env)
    (fun system action => freshValues system action = true)
    (fun system => Regular env (@CodesSpent lib) system ∧ Matches system)
    (fun _ _ _ fresh held stepped =>
      ⟨step_regular (codesSpent_carried env) fresh held.1 stepped,
        effect_matches held.2 (step_effect held.1.addressed stepped)⟩)
    trace initial final ⟨initial_regular base, initial_matches⟩ fresh ran
  refine ⟨matched, ?_, ?_, (regular.held final.memory (Or.inl rfl)).once⟩
  · intro index circumstances answer next advanced
    exact commit_atomic (advance_effect regular.addressed advanced).2.2
  · intro index circumstances clientId code redirectUri codeVerifier resource response next
      found advanced
    exact advance_exchange_yields found advanced

/-- A code is exchanged and presented again after the process lost power. -/
def presentedAgain : List (Action namedPasskeys) := List.flatten
  [signingIn, [.restart true false 0], whole sampleExchange 0 "again"]

theorem commits_atomic_presented_again :
    ∃ final, Runs.exec (step sampleEnvironment) initial presentedAgain = some final ∧
      Matches final ∧ "code" ∈ yieldedCodes final.log ∧ (yieldedCodes final.log).Nodup := by
  have ends : ((Runs.exec (step sampleEnvironment) initial presentedAgain).map fun final =>
      yieldedCodes final.log) = some ["code"] := by decide +kernel
  obtain ⟨final, ran, yielded⟩ := Option.map_eq_some_iff.mp ends
  obtain ⟨matched, _, _, once⟩ :=
    commits_atomic sampleEnvironment presentedAgain final (by decide +kernel) ran
  exact ⟨final, ran, matched, yielded ▸ List.mem_singleton_self "code", once⟩

/-! ### Where memory and the file differ -/

/-- A client registers, and the process starts again when the registration has
expired. -/
def expiredMeanwhile : List (Action namedPasskeys) := List.flatten
  [whole sampleRegistration 0 "app",
    [.restart false false 4000, .call .createOwnerBootstrap true true]]

/-- A client that is known by its metadata document asks for a grant, and is
stored. -/
def storedMeanwhile : List (Action namedPasskeys) :=
  [.call (.beginAuthorization ⟨"code", "https://app.example", "https://app.example/back",
      "state", "verifier", "S256", none, "https://plug.example/mcp"⟩) true true,
    .advance 0 { during 0 "lookup" .durable with
      fetched := .ok ⟨"https://app.example", none, ["https://app.example/back"], none, none, none,
        none⟩ },
    .advance 0 (during 0 "store" .durable)]

/-- The commit of the section in flight fails, and these many clients are in memory
and in the file. -/
def clientsAfterFailure (trace : List (Action namedPasskeys)) (now : Nat) :
    Option (Option DownstreamOauthError × Nat × Option Nat) :=
  (Runs.exec (step sampleEnvironment) initial trace).bind fun system =>
    (advance sampleEnvironment (during now "failing" .failed) system 0).map fun result =>
      (match result.1 with
        | .failed error => some error
        | _ => none, result.2.memory.clients.length,
        result.2.file.map fun state => state.clients.length)

theorem clientsAfterFailure_some {trace : List (Action namedPasskeys)} {now inMemory : Nat}
    {inFile : Option Nat}
    (counted : clientsAfterFailure trace now = some (some .persistence, inMemory, inFile)) :
    ∃ system next, Runs.exec (step sampleEnvironment) initial trace = some system ∧
      advance sampleEnvironment (during now "failing" .failed) system 0 =
        some (.failed .persistence, next) ∧
      next.memory.clients.length = inMemory ∧
      next.file.map (fun state => state.clients.length) = inFile := by
  obtain ⟨system, ran, counted⟩ := Option.bind_eq_some_iff.mp counted
  obtain ⟨⟨answer, next⟩, advanced, counted⟩ := Option.map_eq_some_iff.mp counted
  simp only [Prod.mk.injEq] at counted
  obtain ⟨error, inMemory, inFile⟩ := counted
  refine ⟨system, next, ran, ?_, inMemory, inFile⟩
  cases answer with
  | failed reported =>
    rw [advanced, Option.some.inj error]
  | done response => cases error
  | later stage => cases error

/-- A failed commit may leave memory without a client that the file has, and with a
client that it lacked before the operation. -/
theorem failed_commit_leaves_difference :
    (∃ system next, Runs.exec (step sampleEnvironment) initial expiredMeanwhile = some system ∧
      advance sampleEnvironment (during 4000 "failing" .failed) system 0 =
        some (.failed .persistence, next) ∧ next.file ≠ some next.memory) ∧
    ∃ system next, Runs.exec (step sampleEnvironment) initial storedMeanwhile = some system ∧
      advance sampleEnvironment (during 0 "failing" .failed) system 0 =
        some (.failed .persistence, next) ∧
      next.memory ≠ (initial : System namedPasskeys).memory := by
  constructor
  · have counted : clientsAfterFailure expiredMeanwhile 4000 =
        some (some .persistence, 0, some 1) := by
      decide +kernel
    obtain ⟨system, next, ran, advanced, inMemory, inFile⟩ := clientsAfterFailure_some counted
    refine ⟨system, next, ran, advanced, ?_⟩
    intro same
    rw [same] at inFile
    exact Nat.zero_ne_one (inMemory.symm.trans (Option.some.inj inFile))
  · have counted : clientsAfterFailure storedMeanwhile 0 =
        some (some .persistence, 1, some 1) := by
      decide +kernel
    obtain ⟨system, next, ran, advanced, inMemory, inFile⟩ := clientsAfterFailure_some counted
    refine ⟨system, next, ran, advanced, ?_⟩
    intro same
    rw [same] at inMemory
    cases inMemory

end Plug.DownstreamOauth
