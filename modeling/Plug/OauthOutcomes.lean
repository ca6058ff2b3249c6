import Plug.OauthEffects

/-!
# Outcomes of the sections of the OAuth manager

One lemma for each section: whatever the circumstances, it does what `Outcome`
says. Each follows the exits of its section; the changes it commits are those of
`Change`.
-/

namespace Plug.DownstreamOauth

variable {lib : Passkeys} {env : Environment} {circumstances : Circumstances lib}
variable {system : System lib}

/-- A commit with nothing before it and nothing but an answer after it. -/
theorem commit_outcome {next : DownstreamOauthState lib} {events : List (Event lib)}
    (change : Change env circumstances.value system.memory next events []) {answer : Answer}
    (addressed : Addressed env answer) :
    Outcome env circumstances.value system
      (commitState circumstances system next events fun committed => (answer, committed)) := by
  refine commitState_outcome change (Prepared.refl system) ?_ ?_
  · intro final granted lifecycles principalLifecycles
    exact LeasesMove.of_eq granted lifecycles principalLifecycles
  · intro committed _ granted lifecycles principalLifecycles
    exact ⟨rfl, rfl, rfl, rfl, rfl, rfl, rfl,
      LeasesMove.of_eq granted lifecycles principalLifecycles, addressed, by simp⟩

theorem commitAndFail_outcome {next : DownstreamOauthState lib}
    (within : Within next system.memory) (error : DownstreamOauthError) :
    Outcome env circumstances.value system
      (commitAndFail circumstances system next error) :=
  commit_outcome (.shrunk within) trivial

theorem createOwnerBootstrap_outcome :
    Outcome env circumstances.value system (createOwnerBootstrap env circumstances system) := by
  refine commit_outcome (.shrunk ?_) trivial
  exact Within.of_eq rfl rfl rfl rfl rfl rfl rfl

theorem startOwnerRegistration_outcome (bootstrap : String) :
    Outcome env circumstances.value system
      (startOwnerRegistration env circumstances system bootstrap) := by
  unfold startOwnerRegistration
  dsimp only
  split
  · exact Outcome.unchanged trivial
  split
  · exact Outcome.unchanged trivial
  split
  · exact Outcome.unchanged trivial
  · refine commit_outcome (.shrunk ?_) trivial
    exact Within.of_eq rfl rfl rfl rfl rfl rfl rfl

theorem finishOwnerRegistration_outcome (ceremonyId : String)
    (response : lib.RegistrationResponse) :
    Outcome env circumstances.value system
      (finishOwnerRegistration env circumstances system ceremonyId response) := by
  unfold finishOwnerRegistration
  split
  · exact Outcome.unchanged trivial
  · have within : ∀ ceremonies, Within
        { system.memory with ownerRegistrationCeremonies := ceremonies } system.memory :=
      fun _ => Within.of_eq rfl rfl rfl rfl rfl rfl rfl
    dsimp only
    split
    · exact commitAndFail_outcome (within _) _
    split
    · exact commitAndFail_outcome (within _) _
    split
    · exact commitAndFail_outcome (within _) _
    split
    · exact commitAndFail_outcome (within _) _
    split
    · exact commitAndFail_outcome (within _) _
    · exact commit_outcome (.enrolled
        (within (Tables.remove system.memory.ownerRegistrationCeremonies ceremonyId)) _ _) trivial

theorem removeOwnerCredential_outcome (credentialId : String) (allowEmpty : Bool) :
    Outcome env circumstances.value system
      (removeOwnerCredential circumstances system credentialId allowEmpty) := by
  unfold removeOwnerCredential
  split
  · exact Outcome.unchanged trivial
  split
  · exact Outcome.unchanged trivial
  · refine commit_outcome (.shrunk ?_) trivial
    exact ⟨fun _ client member => ⟨client, member⟩, List.Subset.refl _, List.Subset.refl _,
      List.Subset.refl _, List.Subset.refl _, rfl,
      fun _ credential member => ⟨credential, (Tables.mem_remove.mp member).1⟩⟩

theorem startOwnerApproval_outcome (consentId : String) :
    Outcome env circumstances.value system
      (startOwnerApproval env circumstances system consentId) := by
  have within := within_evictExpiredOwnerRecords system.memory circumstances.now
  unfold startOwnerApproval
  dsimp only
  split
  · exact Outcome.unchanged trivial
  split
  · exact Outcome.unchanged trivial
  split
  · exact commitAndFail_outcome ((within_expireConsent _ consentId).trans within) _
  · refine commit_outcome (.shrunk ?_) trivial
    exact Within.of_eq rfl rfl rfl rfl rfl rfl rfl

/-- The code of an approved consent carries what the consent asked for. -/
theorem issueCodeForConsent_change {memory state : DownstreamOauthState lib}
    (within : Within state memory) {value : Nat → String} {consentId : String}
    {consent : PendingConsent} (pending : (consentId, consent) ∈ memory.pendingConsents)
    {credentialId : String} {credential : OwnerCredential lib}
    (owned : (credentialId, credential) ∈ memory.ownerCredentials)
    {authentication : lib.Authentication} {response : lib.AuthenticationResponse}
    {counter : Nat}
    (verified : lib.finishAuthentication authentication response credential.passkey =
      some (true, counter)) (approvalCeremonyIds : List String) (now : Nat) :
    Change env value memory
      (state.issueCodeForConsent env consentId consent approvalCeremonyIds now (value 0)).2
      [.issuedCode (value 0) consent.clientId,
        .approved consentId credentialId authentication response credential.passkey] [] := by
  have kept := (within_extendClient _ now consent.clientId).trans
    ((within_expireConsent state consentId).trans within)
  have base : ∀ completed, Within
      { (state.expireConsent consentId).extendClient consent.clientId now with
        completedConsents := completed } memory :=
    fun _ => ⟨kept.clients, kept.pendingConsents, kept.pendingCodes, kept.accessTokens,
      kept.refreshTokens, kept.revokedClientIds, kept.ownerCredentials⟩
  exact Change.coded (base (state.issueCodeForConsent env consentId consent approvalCeremonyIds
    now (value 0)).2.completedConsents) pending owned verified (now + authCodeLifetimeSecs)

theorem finishOwnerApproval_outcome (ceremonyId : String)
    (response : lib.AuthenticationResponse) :
    Outcome env circumstances.value system
      (finishOwnerApproval env circumstances system ceremonyId response) := by
  unfold finishOwnerApproval
  dsimp only
  split
  · split
    · exact Outcome.unchanged trivial
    · exact Outcome.unchanged trivial
  · rename_i ceremony _
    have within : ∀ completed ceremonies, Within
        { system.memory with
          completedConsents := completed, ownerAuthenticationCeremonies := ceremonies }
        system.memory :=
      fun _ _ => Within.of_eq rfl rfl rfl rfl rfl rfl rfl
    split
    · exact commitAndFail_outcome (within _ _) _
    split
    · exact commitAndFail_outcome (within _ _) _
    rename_i consent pending
    split
    · exact commitAndFail_outcome ((within_expireConsent _ _).trans (within _ _)) _
    split
    · exact commitAndFail_outcome (within _ _) _
    split
    · exact commitAndFail_outcome (within _ _) _
    rename_i assertedId _
    split
    · exact commitAndFail_outcome (within _ _) _
    split
    · exact commitAndFail_outcome (within _ _) _
    rename_i stored found
    split
    · rename_i counter verified
      have asked : (ceremony.consentId, consent) ∈ system.memory.pendingConsents :=
        Tables.mem_of_get pending
      have owned : (assertedId, stored) ∈ system.memory.ownerCredentials :=
        Tables.mem_of_get found
      refine commit_outcome (issueCodeForConsent_change ?_ asked owned verified _ _) trivial
      refine ⟨fun _ client member => ⟨client, member⟩, List.Subset.refl _, List.Subset.refl _,
        List.Subset.refl _, List.Subset.refl _, rfl, ?_⟩
      intro id credential member
      dsimp only at member
      obtain ⟨former, present, _⟩ := Tables.mem_modify member
      exact ⟨former, present⟩
    · exact commitAndFail_outcome (within _ _) _

theorem denyConsent_outcome (consentId csrfToken : String) :
    Outcome env circumstances.value system
      (denyConsent env circumstances system consentId csrfToken) := by
  unfold denyConsent
  dsimp only
  split
  · exact Outcome.unchanged trivial
  split
  · exact Outcome.unchanged trivial
  split
  · exact commitAndFail_outcome (within_expireConsent _ consentId) _
  split
  · exact Outcome.unchanged trivial
  · refine commit_outcome (.shrunk ?_) trivial
    have within := (within_expireConsent _ consentId).trans
      (within_evictCompletedConsents system.memory circumstances.now)
    exact ⟨within.clients, within.pendingConsents, within.pendingCodes, within.accessTokens,
      within.refreshTokens, within.revokedClientIds, within.ownerCredentials⟩

/-- Clients that expired are deactivated before the commit and leave the map
after it. -/
theorem prepared_deactivated (system : System lib) (clientIds : List String) :
    Prepared system (system.deactivatePrincipalLifecycles clientIds) :=
  ⟨rfl, rfl, rfl, rfl, rfl, rfl, rfl, rfl, rfl⟩

theorem registerClient_outcome (request : ClientRegistrationRequest) :
    Outcome env circumstances.value system
      (registerClient env circumstances system request) := by
  unfold registerClient
  dsimp only
  split
  · exact Outcome.unchanged trivial
  refine commitState_outcome
    (.registered (within_evictExpired system.memory circumstances.now) _)
    (prepared_deactivated system _) ?_ ?_
  · intro final granted lifecycles principalLifecycles
    exact leasesMove_deactivated granted lifecycles principalLifecycles
  · intro committed memory granted lifecycles principalLifecycles
    have move : LeasesMove circumstances.value system committed :=
      leasesMove_deactivated granted lifecycles principalLifecycles
    have stored : ∃ client,
        ("plug_" ++ circumstances.value 0, client) ∈ committed.memory.clients := by
      rw [memory]
      exact ⟨_, Tables.mem_insert.mpr (Or.inl rfl)⟩
    obtain ⟨client, stored⟩ := stored
    refine ⟨rfl, rfl, rfl, rfl, rfl, rfl, rfl, ?_, trivial, by simp⟩
    refine (move.insert stored (Or.inr rfl)).remove ?_
    intro clientId named index found bound
    obtain ⟨lifecycle, present, inactive⟩ := quiet_deactivated lifecycles named found bound
    obtain ⟨within, _⟩ := List.getElem?_eq_some_iff.mp present
    refine ⟨lifecycle, ?_, inactive⟩
    rw [System.insertPrincipalLifecycle, List.getElem?_append_left within]
    exact present

theorem revokeClient_outcome (clientId : String) :
    Outcome env circumstances.value system (revokeClient circumstances system clientId) := by
  unfold revokeClient
  split
  · exact Outcome.unchanged trivial
  rename_i registered
  obtain ⟨client, present⟩ := Tables.containsKey_iff.mp (by simpa using registered)
  refine commitState_outcome (.revoked clientId present) (prepared_deactivated system _) ?_ ?_
  · intro final granted lifecycles principalLifecycles
    exact leasesMove_deactivated granted lifecycles principalLifecycles
  · intro committed memory granted lifecycles principalLifecycles
    have move : LeasesMove circumstances.value system committed :=
      leasesMove_deactivated granted lifecycles principalLifecycles
    have removed : LeasesMove circumstances.value system
        (committed.removePrincipalLifecycles [clientId]) :=
      move.remove fun other named index found bound =>
        quiet_deactivated lifecycles named found bound
    refine ⟨rfl, rfl, rfl, rfl, rfl, rfl, rfl, ?_, trivial, ?_⟩
    · exact ⟨removed.granted, removed.quiet, removed.held, removed.introduced, removed.linked⟩
    · intro other named
      have same : other = clientId := by simpa using named
      subst same
      rw [Tables.get_eq_none]
      intro index member
      simpa using (List.mem_filter.mp member).2

theorem validatePublicClient_outcome (clientId : String) :
    Outcome env circumstances.value system
      (validatePublicClient circumstances system clientId) := by
  unfold validatePublicClient
  split
  · split <;> exact Outcome.unchanged trivial
  · exact Outcome.unchanged trivial

theorem ensureClientLookup_outcome (clientId : String) :
    Outcome env circumstances.value system
      (ensureClientLookup env circumstances system clientId) := by
  unfold ensureClientLookup
  dsimp only
  split
  · exact Outcome.unchanged trivial
  split
  · exact Outcome.unchanged trivial
  by_cases address : env.metadataUrl clientId = true
  · rw [if_pos address]
    split
    · split
      · exact Outcome.unchanged address
      · exact Outcome.unchanged trivial
    · split <;> exact Outcome.unchanged trivial
  · rw [if_neg address]
    dsimp only
    split <;> exact Outcome.unchanged trivial

theorem ensureClientStore_outcome {clientId : String} (address : env.metadataUrl clientId = true)
    (document : ClientMetadataDocument) :
    Outcome env circumstances.value system
      (ensureClientStore circumstances system clientId document) := by
  unfold ensureClientStore
  dsimp only
  split
  · exact Outcome.unchanged trivial
  rename_i allowed
  split
  · exact Outcome.unchanged trivial
  have allowed : clientId ∉ system.memory.revokedClientIds := by simpa using allowed
  refine commitState_outcome
    (.stored (within_evictExpired system.memory circumstances.now) clientId _ address allowed)
    (prepared_deactivated system _) ?_ ?_
  · intro final granted lifecycles principalLifecycles
    exact leasesMove_deactivated granted lifecycles principalLifecycles
  · intro committed memory granted lifecycles principalLifecycles
    have move : LeasesMove circumstances.value system committed :=
      leasesMove_deactivated granted lifecycles principalLifecycles
    have removed : LeasesMove circumstances.value system
        (committed.removePrincipalLifecycles (system.memory.expiredClients circumstances.now)) :=
      move.remove fun other named index found bound =>
        quiet_deactivated lifecycles named found bound
    have stored : ∃ client, (clientId, client) ∈ committed.memory.clients := by
      rw [memory]
      exact ⟨_, Tables.mem_insert.mpr (Or.inl rfl)⟩
    obtain ⟨client, stored⟩ := stored
    split
    · exact ⟨rfl, rfl, rfl, rfl, rfl, rfl, rfl, removed, trivial, by simp⟩
    · rename_i missing
      refine ⟨rfl, rfl, rfl, rfl, rfl, rfl, rfl, ?_, trivial, by simp⟩
      refine removed.insert stored (Or.inl ?_)
      rw [Tables.get_eq_none]
      intro index member
      exact missing (Tables.containsKey_iff.mpr ⟨index, member⟩)

/-- Validated scopes are among the configured ones. -/
theorem validateScopes_configured {requested : Option String} {scopes : List String}
    (validated : validateScopes env requested = some scopes) :
    ∀ scope ∈ scopes, scope ∈ env.oauthScopes := by
  unfold validateScopes at validated
  dsimp only at validated
  split at validated
  · cases validated
  · rename_i accepted
    intro scope member
    rw [← Option.some.inj validated, List.mem_dedup, List.mem_insertionSort] at member
    have known := (Bool.or_eq_false_iff.mp (Bool.not_eq_true _ ▸ accepted)).2
    have known := List.any_eq_false.mp known scope member
    simpa using known

theorem beginAuthorization_outcome (request : AuthorizationRequest) :
    Outcome env circumstances.value system
      (beginAuthorization env circumstances system request) := by
  have within := within_evictExpired system.memory circumstances.now
  unfold beginAuthorization
  dsimp only
  split
  · exact Outcome.unchanged trivial
  rename_i client found
  obtain ⟨former, present⟩ := within.clients _ _ (Tables.mem_of_get found)
  split
  · exact Outcome.unchanged trivial
  split
  · exact Outcome.unchanged trivial
  split
  · exact Outcome.unchanged trivial
  rename_i scopes validated
  split
  · exact Outcome.unchanged trivial
  split
  · exact Outcome.unchanged trivial
  refine commitState_outcome
    (.requested within _ present (validateScopes_configured validated))
    (prepared_deactivated system _) ?_ ?_
  · intro final granted lifecycles principalLifecycles
    exact leasesMove_deactivated granted lifecycles principalLifecycles
  · intro committed memory granted lifecycles principalLifecycles
    have move : LeasesMove circumstances.value system committed :=
      leasesMove_deactivated granted lifecycles principalLifecycles
    refine ⟨rfl, rfl, rfl, rfl, rfl, rfl, rfl, move.remove ?_, trivial, by simp⟩
    intro other named index found bound
    exact quiet_deactivated lifecycles named found bound

/-- A code becomes a pair for the client, scopes and resource it carries. -/
theorem exchangeAuthorizationCode_outcome
    (clientId code redirectUri codeVerifier resource : String) :
    Outcome env circumstances.value system
      (exchangeAuthorizationCode env circumstances system clientId code redirectUri codeVerifier
        resource) := by
  unfold exchangeAuthorizationCode
  dsimp only
  split
  · exact Outcome.unchanged trivial
  split
  · exact Outcome.unchanged trivial
  rename_i pending found
  split
  · exact Outcome.unchanged trivial
  rename_i matching
  simp only [not_or, not_not] at matching
  obtain ⟨sameClient, _, sameResource, _⟩ := matching
  split
  · exact Outcome.unchanged trivial
  subst sameClient sameResource
  have within : Within { system.memory with
      pendingCodes := Tables.remove system.memory.pendingCodes code } system.memory :=
    ⟨fun _ client member => ⟨client, member⟩, List.Subset.refl _, List.filter_subset_self _,
      List.Subset.refl _, List.Subset.refl _, rfl,
      fun _ credential member => ⟨credential, member⟩⟩
  have gone : ∀ other, (code, other) ∉ Tables.remove system.memory.pendingCodes code := by simp
  refine commitState_outcome (.exchanged within (Tables.mem_of_get found) gone _ _)
    (Prepared.refl system) ?_ ?_
  · intro final granted lifecycles principalLifecycles
    exact LeasesMove.of_eq granted lifecycles principalLifecycles
  · intro committed _ granted lifecycles principalLifecycles
    exact ⟨rfl, rfl, rfl, rfl, rfl, rfl, rfl,
      LeasesMove.of_eq granted lifecycles principalLifecycles, trivial, by simp⟩

/-- A spent token brings a pair like that of a live sibling, or ends the family. -/
theorem presentSpentToken_outcome (clientId refreshToken resource : String) :
    Outcome env circumstances.value system
      (presentSpentToken circumstances system clientId refreshToken resource) := by
  unfold presentSpentToken
  dsimp only
  split
  · exact Outcome.unchanged trivial
  rename_i consumed _
  have replayed : Outcome env circumstances.value system
      (commitAndFail circumstances (system.endFamily consumed.familyId)
        (system.memory.revokeTokenFamily consumed.familyId) .invalidGrant) := by
    refine commitState_outcome
      (.shrunk (within_revokeTokenFamily system.memory consumed.familyId))
      ⟨rfl, rfl, rfl, rfl, rfl, rfl, rfl, rfl, rfl⟩ ?_ ?_
    · intro final granted lifecycles principalLifecycles
      exact LeasesMove.of_eq granted lifecycles principalLifecycles
    · intro committed _ granted lifecycles principalLifecycles
      exact ⟨rfl, rfl, rfl, rfl, rfl, rfl, rfl,
        LeasesMove.of_eq granted lifecycles principalLifecycles, trivial, by simp⟩
  split
  · exact replayed
  rename_i live sibling
  split
  · have member : live ∈ system.memory.refreshTokens :=
      Tables.mem_iterate.mp (List.mem_of_find?_eq_some sibling)
    have alike := List.find?_some sibling
    simp only [Bool.and_eq_true, beq_iff_eq] at alike
    obtain ⟨⟨⟨_, sameFamily⟩, sameClient⟩, sameResource⟩ := alike
    rw [← sameFamily, ← sameClient, ← sameResource]
    exact commit_outcome (.renewed (Within.refl _) member _ _) trivial
  · exact replayed

theorem exchangeRefreshToken_outcome (clientId refreshToken resource : String) :
    Outcome env circumstances.value system
      (exchangeRefreshToken env circumstances system clientId refreshToken resource) := by
  unfold exchangeRefreshToken
  dsimp only
  split
  · exact Outcome.unchanged trivial
  split
  · exact presentSpentToken_outcome ..
  rename_i refresh found
  split
  · exact Outcome.unchanged trivial
  rename_i matching
  simp only [not_or, not_not] at matching
  obtain ⟨sameClient, sameResource, _⟩ := matching
  subst sameClient sameResource
  have within : ∀ consumed, Within (({ system.memory with
      refreshTokens := Tables.remove system.memory.refreshTokens refreshToken
      consumedRefreshTokens := consumed }).extendClient refresh.clientId circumstances.now)
      system.memory := by
    intro consumed
    refine (within_extendClient _ _ _).trans ?_
    exact ⟨fun _ client member => ⟨client, member⟩, List.Subset.refl _, List.Subset.refl _,
      List.Subset.refl _, List.filter_subset_self _, rfl,
      fun _ credential member => ⟨credential, member⟩⟩
  refine commitState_outcome
    (.renewed (within _) (Tables.mem_of_get found) circumstances.order circumstances.now)
    (Prepared.refl system) ?_ ?_
  · intro final granted lifecycles principalLifecycles
    exact LeasesMove.of_eq granted lifecycles principalLifecycles
  · intro committed _ granted lifecycles principalLifecycles
    exact ⟨rfl, rfl, rfl, rfl, rfl, rfl, rfl,
      LeasesMove.of_eq granted lifecycles principalLifecycles, trivial, by simp⟩

/-- Every section of every operation. -/
theorem performSection_outcome (env : Environment) (circumstances : Circumstances lib)
    (system : System lib) (task : Operation lib × Stage)
    (addressed : Addressed env (.later task.2)) :
    Outcome env circumstances.value system
      (performSection env circumstances system task) := by
  unfold performSection
  split
  · exact validatePublicClient_outcome _
  · exact validatePublicClient_outcome _
  · exact ensureClientLookup_outcome _
  · exact ensureClientStore_outcome addressed _
  · exact createOwnerBootstrap_outcome
  · exact startOwnerRegistration_outcome _
  · exact finishOwnerRegistration_outcome _ _
  · exact startOwnerApproval_outcome _
  · exact finishOwnerApproval_outcome _ _
  · exact denyConsent_outcome _ _
  · exact removeOwnerCredential_outcome _ _
  · exact registerClient_outcome _
  · exact revokeClient_outcome _
  · exact beginAuthorization_outcome _
  · exact exchangeAuthorizationCode_outcome _ _ _ _ _
  · exact exchangeRefreshToken_outcome _ _ _
  · exact Outcome.unchanged trivial

end Plug.DownstreamOauth
