import Plug.OauthRuns

/-!
# Effects of the sections of the OAuth manager

Each section either leaves the state alone or commits a `Change` of it. The
changes say what later proofs read: which records may be new, and what they were
made from. `Outcome` is what a section does to the whole system, for every answer
of the disk, and `performSection_outcome` gives it for every section.
-/

namespace Plug.DownstreamOauth

variable {lib : Passkeys}

/-- Records were only taken out, or changed in place where no grant depends on
them. -/
structure Within (next memory : DownstreamOauthState lib) : Prop where
  clients : ∀ id client, (id, client) ∈ next.clients → ∃ former, (id, former) ∈ memory.clients
  pendingConsents : next.pendingConsents ⊆ memory.pendingConsents
  pendingCodes : next.pendingCodes ⊆ memory.pendingCodes
  accessTokens : next.accessTokens ⊆ memory.accessTokens
  refreshTokens : next.refreshTokens ⊆ memory.refreshTokens
  revokedClientIds : next.revokedClientIds = memory.revokedClientIds
  ownerCredentials : ∀ id credential, (id, credential) ∈ next.ownerCredentials →
    ∃ former, (id, former) ∈ memory.ownerCredentials

theorem Within.refl (memory : DownstreamOauthState lib) : Within memory memory where
  clients _ client member := ⟨client, member⟩
  pendingConsents := List.Subset.refl _
  pendingCodes := List.Subset.refl _
  accessTokens := List.Subset.refl _
  refreshTokens := List.Subset.refl _
  revokedClientIds := rfl
  ownerCredentials _ credential member := ⟨credential, member⟩

theorem Within.trans {next between memory : DownstreamOauthState lib}
    (later : Within next between) (earlier : Within between memory) : Within next memory where
  clients id client member := by
    obtain ⟨former, present⟩ := later.clients id client member
    exact earlier.clients id former present
  pendingConsents := List.Subset.trans later.pendingConsents earlier.pendingConsents
  pendingCodes := List.Subset.trans later.pendingCodes earlier.pendingCodes
  accessTokens := List.Subset.trans later.accessTokens earlier.accessTokens
  refreshTokens := List.Subset.trans later.refreshTokens earlier.refreshTokens
  revokedClientIds := later.revokedClientIds.trans earlier.revokedClientIds
  ownerCredentials id credential member := by
    obtain ⟨former, present⟩ := later.ownerCredentials id credential member
    exact earlier.ownerCredentials id former present

/-- Tables whose records play no part in a grant may change freely. -/
theorem Within.of_eq {next memory : DownstreamOauthState lib}
    (clients : next.clients = memory.clients)
    (pendingConsents : next.pendingConsents = memory.pendingConsents)
    (pendingCodes : next.pendingCodes = memory.pendingCodes)
    (accessTokens : next.accessTokens = memory.accessTokens)
    (refreshTokens : next.refreshTokens = memory.refreshTokens)
    (revokedClientIds : next.revokedClientIds = memory.revokedClientIds)
    (ownerCredentials : next.ownerCredentials = memory.ownerCredentials) :
    Within next memory where
  clients _ client member := ⟨client, clients ▸ member⟩
  pendingConsents := pendingConsents ▸ List.Subset.refl _
  pendingCodes := pendingCodes ▸ List.Subset.refl _
  accessTokens := accessTokens ▸ List.Subset.refl _
  refreshTokens := refreshTokens ▸ List.Subset.refl _
  revokedClientIds := revokedClientIds
  ownerCredentials _ credential member := ⟨credential, ownerCredentials ▸ member⟩

section Within

variable (state : DownstreamOauthState lib) (now : Nat) (clientId consentId familyId : String)

theorem within_evictExpiredOwnerRecords :
    Within (state.evictExpiredOwnerRecords now) state :=
  Within.of_eq rfl rfl rfl rfl rfl rfl rfl

theorem within_evictExpired : Within (state.evictExpired now) state where
  clients _ client member := ⟨client, List.mem_of_mem_filter member⟩
  pendingConsents := List.filter_subset_self _
  pendingCodes := List.filter_subset_self _
  accessTokens := List.filter_subset_self _
  refreshTokens := List.filter_subset_self _
  revokedClientIds := rfl
  ownerCredentials _ credential member := ⟨credential, member⟩

theorem within_removeClientMaterial : Within (state.removeClientMaterial clientId) state where
  clients _ client member := ⟨client, (Tables.mem_remove.mp member).1⟩
  pendingConsents := List.filter_subset_self _
  pendingCodes := List.filter_subset_self _
  accessTokens := List.filter_subset_self _
  refreshTokens := List.filter_subset_self _
  revokedClientIds := rfl
  ownerCredentials _ credential member := ⟨credential, member⟩

theorem within_expireConsent : Within (state.expireConsent consentId) state where
  clients _ client member := ⟨client, member⟩
  pendingConsents := List.filter_subset_self _
  pendingCodes := List.Subset.refl _
  accessTokens := List.Subset.refl _
  refreshTokens := List.Subset.refl _
  revokedClientIds := rfl
  ownerCredentials _ credential member := ⟨credential, member⟩

theorem within_evictCompletedConsents : Within (state.evictCompletedConsents now) state :=
  Within.of_eq rfl rfl rfl rfl rfl rfl rfl

theorem within_extendClient : Within (state.extendClient clientId now) state where
  clients _ _ member := by
    simp only [DownstreamOauthState.extendClient] at member
    obtain ⟨former, present, _⟩ := Tables.mem_modify member
    exact ⟨former, present⟩
  pendingConsents := List.Subset.refl _
  pendingCodes := List.Subset.refl _
  accessTokens := List.Subset.refl _
  refreshTokens := List.Subset.refl _
  revokedClientIds := rfl
  ownerCredentials _ credential member := ⟨credential, member⟩

theorem within_revokeTokenFamily : Within (state.revokeTokenFamily familyId) state := by
  unfold DownstreamOauthState.revokeTokenFamily
  split
  · exact Within.refl state
  · exact ⟨fun _ client member => ⟨client, member⟩, List.Subset.refl _, List.Subset.refl _,
      List.filter_subset_self _, List.filter_subset_self _, rfl,
      fun _ credential member => ⟨credential, member⟩⟩

theorem within_pruneConsumedRefreshTokens :
    Within (state.pruneConsumedRefreshTokens now) state :=
  Within.of_eq rfl rfl rfl rfl rfl rfl rfl

end Within

/-- What a manager starts from is within the file it read, or empty. -/
theorem within_startupState (now : Nat) (file : Option (DownstreamOauthState lib)) :
    Within (startupState now file) (file.getD {}) := by
  refine (within_pruneConsumedRefreshTokens _ now).trans ?_
  cases file with
  | none => exact Within.refl _
  | some state => exact within_evictExpired state now

/-- A new pair is the only token that issuing adds. -/
theorem mem_issueTokenPair_access {state : DownstreamOauthState lib} {order : String → Nat}
    {clientId : String} {scopes : List String} {resource familyId : String} {now : Nat}
    {accessToken refreshToken : String} {item : String × IssuedAccessToken}
    (member : item ∈ (state.issueTokenPair order clientId scopes resource familyId now
      accessToken refreshToken).accessTokens) :
    item ∈ state.accessTokens ∨ item = (accessToken,
      { clientId, scopes, resource, familyId, issuedAt := now,
        expiresAt := now + accessTokenLifetimeSecs }) := by
  rcases Tables.mem_insert.mp member with new | ⟨kept, _⟩
  · exact Or.inr new
  · exact Or.inl (List.mem_of_mem_filter kept)

theorem mem_issueTokenPair_refresh {state : DownstreamOauthState lib} {order : String → Nat}
    {clientId : String} {scopes : List String} {resource familyId : String} {now : Nat}
    {accessToken refreshToken : String} {item : String × IssuedRefreshToken}
    (member : item ∈ (state.issueTokenPair order clientId scopes resource familyId now
      accessToken refreshToken).refreshTokens) :
    item ∈ state.refreshTokens ∨ item = (refreshToken,
      { clientId, scopes, resource, familyId,
        expiresAt := now + refreshTokenLifetimeSecs }) := by
  rcases Tables.mem_insert.mp member with new | ⟨kept, _⟩
  · exact Or.inr new
  · exact Or.inl kept

/-- The code that an approved consent becomes. -/
def PendingConsent.code (consent : PendingConsent) (expiresAt : Nat) :
    PendingAuthorizationCode where
  clientId := consent.clientId
  redirectUri := consent.redirectUri
  codeChallenge := consent.codeChallenge
  scopes := consent.scopes
  resource := consent.resource
  expiresAt := expiresAt

/-- A committed change of the state, with the events it logs and those that
follow when it is durable. -/
inductive Change (env : Environment) (value : Nat → String) (memory : DownstreamOauthState lib) :
    DownstreamOauthState lib → List (Event lib) → List (Event lib) → Prop where
  | shrunk {next : DownstreamOauthState lib} (within : Within next memory) :
      Change env value memory next [] []
  | enrolled {base : DownstreamOauthState lib} (within : Within base memory)
      (credentialId : String) (credential : OwnerCredential lib) :
      Change env value memory
        { base with ownerCredentials :=
            Tables.insert base.ownerCredentials credentialId credential }
        [.enrolled credentialId] []
  | registered {base : DownstreamOauthState lib} (within : Within base memory)
      (client : RegisteredClient) :
      Change env value memory
        { base with clients := Tables.insert base.clients ("plug_" ++ value 0) client } [] []
  | stored {base : DownstreamOauthState lib} (within : Within base memory) (clientId : String)
      (client : RegisteredClient) (address : env.metadataUrl clientId = true)
      (allowed : clientId ∉ memory.revokedClientIds) :
      Change env value memory
        { base with clients := Tables.insert base.clients clientId client } [] []
  | requested {base : DownstreamOauthState lib} (within : Within base memory)
      (consent : PendingConsent) {client : RegisteredClient}
      (present : (consent.clientId, client) ∈ memory.clients)
      (configured : ∀ scope ∈ consent.scopes, scope ∈ env.oauthScopes) :
      Change env value memory
        { base with pendingConsents := Tables.insert base.pendingConsents (value 0) consent }
        [.requested (value 0) consent.grant] []
  | coded {base : DownstreamOauthState lib} (within : Within base memory) {consentId : String}
      {consent : PendingConsent} (pending : (consentId, consent) ∈ memory.pendingConsents)
      {credentialId : String} {credential : OwnerCredential lib}
      (owned : (credentialId, credential) ∈ memory.ownerCredentials)
      {authentication : lib.Authentication} {response : lib.AuthenticationResponse}
      {counter : Nat}
      (verified : lib.finishAuthentication authentication response credential.passkey =
        some (true, counter)) (expiresAt : Nat) :
      Change env value memory
        { base with pendingCodes :=
            Tables.insert base.pendingCodes (value 0) (consent.code expiresAt) }
        [.issuedCode (value 0) consent.clientId,
          .approved consentId credentialId authentication response credential.passkey] []
  | exchanged {base : DownstreamOauthState lib} (within : Within base memory) {code : String}
      {pending : PendingAuthorizationCode} (found : (code, pending) ∈ memory.pendingCodes)
      (gone : ∀ other, (code, other) ∉ base.pendingCodes) (order : String → Nat) (now : Nat) :
      Change env value memory
        (base.issueTokenPair order pending.clientId pending.scopes pending.resource (value 0) now
          (value 1) (value 2))
        [.issuedPair (value 1) (value 2) pending.grant (value 0)] [.yielded code]
  | renewed {base : DownstreamOauthState lib} (within : Within base memory) {key : String}
      {live : IssuedRefreshToken} (found : (key, live) ∈ memory.refreshTokens)
      (order : String → Nat) (now : Nat) :
      Change env value memory
        (base.issueTokenPair order live.clientId live.scopes live.resource live.familyId now
          (value 0) (value 1))
        [.issuedPair (value 0) (value 1) live.grant live.familyId] []
  | revoked (clientId : String) {client : RegisteredClient}
      (present : (clientId, client) ∈ memory.clients) :
      Change env value memory
        { memory.removeClientMaterial clientId with
          revokedClientIds := clientId :: memory.revokedClientIds.filter (· ≠ clientId) }
        [] [.revoked clientId]

/-- The lifecycle at an index is deactivated. -/
def Quiet (system : System lib) (index : Nat) : Prop :=
  ∃ lifecycle, system.lifecycles[index]? = some lifecycle ∧ lifecycle.active = false

/-- What a section does to leases: a lifecycle leaves the map only when it is
deactivated, and enters it only with a client. -/
structure LeasesMove (value : Nat → String) (system next : System lib) : Prop where
  granted : next.granted = system.granted
  quiet : ∀ index, Quiet system index → Quiet next index
  held : ∀ clientId index, Tables.get system.principalLifecycles clientId = some index →
    index < system.lifecycles.length →
      Tables.get next.principalLifecycles clientId = some index ∨ Quiet next index ∨
        clientId = "plug_" ++ value 0
  introduced : ∀ clientId index, Tables.get next.principalLifecycles clientId = some index →
    (∃ former, Tables.get system.principalLifecycles clientId = some former) ∨
      ∃ client, (clientId, client) ∈ next.memory.clients
  linked : (∀ clientId index, Tables.get system.principalLifecycles clientId = some index →
      index < system.lifecycles.length) →
    ∀ clientId index, Tables.get next.principalLifecycles clientId = some index →
      index < next.lifecycles.length

/-- What became of the state, the file and the log. -/
inductive Commit (env : Environment) (value : Nat → String) (system next : System lib) :
    Answer → Prop where
  | unattempted {answer : Answer} (memory : next.memory = system.memory)
      (file : next.file = system.file) (renamed : next.renamed = system.renamed)
      (durable : next.durableFile = system.durableFile ∨ next.durableFile = system.file)
      (log : next.log = system.log) : Commit env value system next answer
  | failed (memory : next.memory = system.memory)
      (file : next.file = system.file) (renamed : next.renamed = system.renamed)
      (durable : next.durableFile = system.durableFile ∨ next.durableFile = system.file)
      (log : next.log = .persisted .failed :: system.log) :
      Commit env value system next (.failed .persistence)
  | uncertain {state : DownstreamOauthState lib} {events later : List (Event lib)}
      (change : Change env value system.memory state events later)
      (memory : next.memory = state) (file : next.file = some state)
      (renamed : next.renamed = true)
      (durable : next.durableFile = system.durableFile ∨ next.durableFile = system.file)
      (log : next.log = events ++ .persisted .uncertain :: system.log) :
      Commit env value system next (.failed .persistence)
  | durable {answer : Answer} {state : DownstreamOauthState lib} {events later : List (Event lib)}
      (change : Change env value system.memory state events later)
      (memory : next.memory = state) (file : next.file = some state)
      (renamed : next.renamed = true) (durable : next.durableFile = some state)
      (log : next.log = later ++ (events ++ .persisted .durable :: system.log))
      (expelled : ∀ clientId, .revoked clientId ∈ later →
        Tables.get next.principalLifecycles clientId = none) :
      Commit env value system next answer

/-- A client goes on to be stored only if its id is an address. -/
def Addressed (env : Environment) : Answer → Prop
  | .later (.storingClient clientId _) => env.metadataUrl clientId = true
  | _ => True

/-- What a section does. -/
structure Outcome (env : Environment) (value : Nat → String) (system : System lib)
    (result : Answer × System lib) : Prop where
  used : result.2.used = system.used
  inFlight : result.2.inFlight = system.inFlight
  leases : LeasesMove value system result.2
  addressed : Addressed env result.1
  commit : Commit env value system result.2 result.1

variable {next system : System lib} {value : Nat → String}

/-- Nothing about leases changes. -/
theorem LeasesMove.of_eq (granted : next.granted = system.granted)
    (lifecycles : next.lifecycles = system.lifecycles)
    (principalLifecycles : next.principalLifecycles = system.principalLifecycles) :
    LeasesMove value system next where
  granted := granted
  quiet index quiet := by
    rw [Quiet, lifecycles]
    exact quiet
  held clientId index found _ := Or.inl (principalLifecycles ▸ found)
  introduced clientId index found := Or.inl ⟨index, principalLifecycles ▸ found⟩
  linked bound clientId index found := by
    rw [lifecycles]
    exact bound clientId index (principalLifecycles ▸ found)

/-- A section that refuses or answers without a commit. -/
theorem Outcome.unchanged {env : Environment} {answer : Answer} (addressed : Addressed env answer) :
    Outcome env value system (answer, system) :=
  ⟨rfl, rfl, LeasesMove.of_eq rfl rfl rfl, addressed,
    .unattempted rfl rfl rfl (Or.inl rfl) rfl⟩

/-- The lifecycle of a client that is deactivated is quiet. -/
theorem quiet_deactivated {clientIds : List String}
    (lifecycles : next.lifecycles = (system.deactivatePrincipalLifecycles clientIds).lifecycles)
    {clientId : String} (named : clientId ∈ clientIds) {index : Nat}
    (found : Tables.get system.principalLifecycles clientId = some index)
    (bound : index < system.lifecycles.length) : Quiet next index := by
  have named : clientIds.any fun clientId =>
      Tables.get system.principalLifecycles clientId = some index :=
    List.any_eq_true.mpr ⟨clientId, named, by simpa using found⟩
  rw [Quiet, lifecycles, System.deactivatePrincipalLifecycles, List.getElem?_mapIdx,
    List.getElem?_eq_getElem bound, Option.map_some, if_pos named]
  exact ⟨_, rfl, rfl⟩

theorem leasesMove_deactivated {clientIds : List String} (granted : next.granted = system.granted)
    (lifecycles : next.lifecycles = (system.deactivatePrincipalLifecycles clientIds).lifecycles)
    (principalLifecycles : next.principalLifecycles = system.principalLifecycles) :
    LeasesMove value system next where
  granted := granted
  quiet index quiet := by
    obtain ⟨lifecycle, present, inactive⟩ := quiet
    rw [Quiet, lifecycles, System.deactivatePrincipalLifecycles, List.getElem?_mapIdx, present,
      Option.map_some]
    split
    · exact ⟨_, rfl, rfl⟩
    · exact ⟨lifecycle, rfl, inactive⟩
  held clientId index found _ := Or.inl (principalLifecycles ▸ found)
  introduced clientId index found := Or.inl ⟨index, principalLifecycles ▸ found⟩
  linked bound clientId index found := by
    rw [lifecycles, System.deactivatePrincipalLifecycles, List.length_mapIdx]
    exact bound clientId index (principalLifecycles ▸ found)

/-- Quiet lifecycles may leave the map. -/
theorem LeasesMove.remove (move : LeasesMove value system next) {clientIds : List String}
    (quieted : ∀ clientId ∈ clientIds, ∀ index, Tables.get system.principalLifecycles clientId =
      some index → index < system.lifecycles.length → Quiet next index) :
    LeasesMove value system (next.removePrincipalLifecycles clientIds) := by
  have kept : ∀ clientId ∉ clientIds,
      Tables.get (next.removePrincipalLifecycles clientIds).principalLifecycles clientId =
        Tables.get next.principalLifecycles clientId := by
    intro clientId apart
    exact Tables.get_filter next.principalLifecycles (fun name => decide (name ∉ clientIds))
      (by simpa using apart)
  have present : ∀ clientId index,
      Tables.get (next.removePrincipalLifecycles clientIds).principalLifecycles clientId =
        some index → Tables.get next.principalLifecycles clientId = some index := by
    intro clientId index found
    have member := (List.mem_filter.mp (Tables.mem_of_get found)).2
    rw [← kept clientId (by simpa using member)]
    exact found
  refine ⟨move.granted, move.quiet, ?_, ?_, ?_⟩
  · intro clientId index found bound
    by_cases named : clientId ∈ clientIds
    · exact Or.inr (Or.inl (quieted clientId named index found bound))
    · rw [kept clientId named]
      exact move.held clientId index found bound
  · intro clientId index found
    exact move.introduced clientId index (present clientId index found)
  · intro bound clientId index found
    exact move.linked bound clientId index (present clientId index found)

/-- A new lifecycle is for a client that has none, or for a generated id. -/
theorem LeasesMove.insert (move : LeasesMove value system next) {clientId : String}
    {client : RegisteredClient} (stored : (clientId, client) ∈ next.memory.clients)
    (absent : Tables.get next.principalLifecycles clientId = none ∨ clientId = "plug_" ++ value 0) :
    LeasesMove value system (next.insertPrincipalLifecycle clientId) where
  granted := move.granted
  quiet index quiet := by
    obtain ⟨lifecycle, present, inactive⟩ := move.quiet index quiet
    refine ⟨lifecycle, ?_, inactive⟩
    obtain ⟨bound, _⟩ := List.getElem?_eq_some_iff.mp present
    rw [System.insertPrincipalLifecycle, List.getElem?_append_left bound]
    exact present
  held other index found bound := by
    rcases move.held other index found bound with kept | quiet | generated
    · by_cases same : other = clientId
      · rcases absent with none | generated
        · rw [← same, kept] at none
          cases none
        · exact Or.inr (Or.inr (same.trans generated))
      · left
        rw [System.insertPrincipalLifecycle, Tables.get_insert_of_ne same]
        exact kept
    · obtain ⟨lifecycle, present, inactive⟩ := quiet
      obtain ⟨within, _⟩ := List.getElem?_eq_some_iff.mp present
      refine Or.inr (Or.inl ⟨lifecycle, ?_, inactive⟩)
      rw [System.insertPrincipalLifecycle, List.getElem?_append_left within]
      exact present
    · exact Or.inr (Or.inr generated)
  introduced other index found := by
    by_cases same : other = clientId
    · exact Or.inr ⟨client, same ▸ stored⟩
    · rw [System.insertPrincipalLifecycle, Tables.get_insert_of_ne same] at found
      exact move.introduced other index found
  linked bound other index found := by
    rw [System.insertPrincipalLifecycle, List.length_append]
    by_cases same : other = clientId
    · rw [System.insertPrincipalLifecycle, same, Tables.get_insert_self] at found
      rw [← Option.some.inj found]
      simp
    · rw [System.insertPrincipalLifecycle, Tables.get_insert_of_ne same] at found
      exact Nat.lt_of_lt_of_le (move.linked bound other index found) (Nat.le_add_right _ _)

/-- A section may deactivate lifecycles and end sign-ins before it commits. -/
structure Prepared (system prepared : System lib) : Prop where
  memory : prepared.memory = system.memory
  principalLifecycles : prepared.principalLifecycles = system.principalLifecycles
  granted : prepared.granted = system.granted
  inFlight : prepared.inFlight = system.inFlight
  file : prepared.file = system.file
  durableFile : prepared.durableFile = system.durableFile
  renamed : prepared.renamed = system.renamed
  used : prepared.used = system.used
  log : prepared.log = system.log

theorem Prepared.refl (system : System lib) : Prepared system system :=
  ⟨rfl, rfl, rfl, rfl, rfl, rfl, rfl, rfl, rfl⟩

/-- What follows a commit without an error touches only leases and the log. -/
structure Finished (env : Environment) (value : Nat → String) (system committed : System lib)
    (result : Answer × System lib) (later : List (Event lib)) : Prop where
  memory : result.2.memory = committed.memory
  inFlight : result.2.inFlight = committed.inFlight
  file : result.2.file = committed.file
  durableFile : result.2.durableFile = committed.durableFile
  renamed : result.2.renamed = committed.renamed
  used : result.2.used = committed.used
  log : result.2.log = later ++ committed.log
  leases : LeasesMove value system result.2
  addressed : Addressed env result.1
  expelled : ∀ clientId, .revoked clientId ∈ later →
    Tables.get result.2.principalLifecycles clientId = none

/-- A durability check moves nothing but the durable file. -/
theorem ensureDurable_cases (system : System lib) (synced : Bool) :
    ensureDurable system synced = system ∨
      ensureDurable system synced =
        { system with durabilityDegraded := false, durableFile := system.file } := by
  unfold ensureDurable
  split
  · exact Or.inr rfl
  · exact Or.inl rfl

theorem commitState_outcome {env : Environment} {circumstances : Circumstances lib}
    {prepared : System lib} {next : DownstreamOauthState lib} {events later : List (Event lib)}
    {finish : System lib → Answer × System lib}
    (change : Change env circumstances.value system.memory next events later)
    (same : Prepared system prepared)
    (leases : ∀ final : System lib, final.granted = system.granted → final.lifecycles =
      prepared.lifecycles → final.principalLifecycles = system.principalLifecycles → LeasesMove
      circumstances.value system final)
    (finished : ∀ committed : System lib, committed.memory = next → committed.granted =
      system.granted → committed.lifecycles = prepared.lifecycles → committed.principalLifecycles =
      system.principalLifecycles → Finished env circumstances.value system committed (finish
      committed) later) :
    Outcome env circumstances.value system
      (commitState circumstances prepared next events finish) := by
  -- The checked system differs from the prepared one in the durable file only.
  have checked : ∃ degraded durableFile,
      (durableFile = system.durableFile ∨ durableFile = system.file) ∧
        ensureDurable prepared circumstances.synced =
          { prepared with durabilityDegraded := degraded, durableFile := durableFile } := by
    cases ensureDurable_cases prepared circumstances.synced with
    | inl unchanged => exact ⟨_, _, Or.inl same.durableFile, unchanged⟩
    | inr settled => exact ⟨_, _, Or.inr same.file, settled⟩
  obtain ⟨degraded, durableFile, which, checked⟩ := checked
  simp only [commitState, checked]
  split
  · exact ⟨same.used, same.inFlight,
      leases _ same.granted rfl same.principalLifecycles, trivial,
      .unattempted same.memory same.file same.renamed which same.log⟩
  · cases circumstances.persist with
    | failed =>
      refine ⟨same.used, same.inFlight, leases _ same.granted rfl same.principalLifecycles,
        trivial, .failed same.memory same.file same.renamed which ?_⟩
      exact congrArg _ same.log
    | uncertain =>
      refine ⟨same.used, same.inFlight, leases _ same.granted rfl same.principalLifecycles,
        trivial, .uncertain change rfl rfl rfl which ?_⟩
      simp only [same.log]
    | durable =>
      have finished := finished
        { prepared with
          durabilityDegraded := degraded
          memory := next
          file := some next
          durableFile := some next
          renamed := true
          log := events ++ .persisted .durable :: prepared.log }
        rfl same.granted rfl same.principalLifecycles
      refine ⟨finished.used.trans same.used, finished.inFlight.trans same.inFlight,
        finished.leases, finished.addressed, .durable change finished.memory finished.file
          finished.renamed finished.durableFile ?_ finished.expelled⟩
      rw [finished.log, same.log]

end Plug.DownstreamOauth
