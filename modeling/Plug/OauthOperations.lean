import Plug.OauthManager

/-!
# The operations of the downstream OAuth manager

Each definition is one section of an operation under the lock, from taking the
lock to its answer. Every exit of the source is an exit here, in the same order.
-/

namespace Plug.DownstreamOauth

variable {lib : Passkeys}

/-! ### The owner's credentials -/

def Environment.issuerHash (env : Environment) : String :=
  env.ownerBindingHash [env.baseUrl]

def Environment.bootstrapHash (env : Environment) (secret : String) : String :=
  env.ownerBindingHash ["owner-bootstrap", secret]

def Environment.consentBinding (env : Environment) (consentId : String)
    (consent : PendingConsent) : String :=
  env.ownerBindingHash [env.baseUrl, "approve", consentId, env.encodeConsent consent]

def createOwnerBootstrap (env : Environment) (circumstances : Circumstances lib)
    (system : System lib) : Answer × System lib :=
  let secret := circumstances.value 0
  let next := system.memory.evictExpiredOwnerRecords circumstances.now
  let next := { next with
    ownerBootstraps := Tables.insert [] (env.bootstrapHash secret)
      { secretHash := env.bootstrapHash secret
        expiresAt := circumstances.now + ownerCeremonyLifetimeSecs } }
  commitState circumstances system next [] fun committed =>
    (.done (.bootstrap secret), committed)

def startOwnerRegistration (env : Environment) (circumstances : Circumstances lib)
    (system : System lib) (bootstrap : String) : Answer × System lib :=
  let now := circumstances.now
  let next := system.memory.evictExpiredOwnerRecords now
  if !next.ownerBootstraps.any fun item =>
      decide (now < item.2.expiresAt) && env.bootstrapHash bootstrap == item.2.secretHash then
    (.failed .invalidOwnerBootstrap, system)
  else if maxOwnerCredentials ≤ next.ownerCredentials.length then
    (.failed .ownerCredentialLimit, system)
  else if maxOwnerChallenges ≤ next.ownerRegistrationCeremonies.length then
    (.failed .rateLimited, system)
  else
    let ceremonyId := circumstances.value 0
    let next := { next with
      ownerBootstraps := []
      ownerRegistrationCeremonies := Tables.insert next.ownerRegistrationCeremonies ceremonyId
        { id := ceremonyId
          bootstrapHash := env.bootstrapHash bootstrap
          issuerHash := env.issuerHash
          state := circumstances.registration
          expiresAt := now + ownerCeremonyLifetimeSecs } }
    commitState circumstances system next [] fun committed =>
      (.done (.registrationChallenge ceremonyId), committed)

def finishOwnerRegistration (env : Environment) (circumstances : Circumstances lib)
    (system : System lib) (ceremonyId : String) (response : lib.RegistrationResponse) :
    Answer × System lib :=
  match Tables.get system.memory.ownerRegistrationCeremonies ceremonyId with
  | none => (.failed .invalidOwnerAssertion, system)
  | some ceremony =>
    let next := { system.memory with
      ownerRegistrationCeremonies :=
        Tables.remove system.memory.ownerRegistrationCeremonies ceremonyId }
    if ceremony.expiresAt ≤ circumstances.now then
      commitAndFail circumstances system next .ownerChallengeExpired
    else if env.issuerHash ≠ ceremony.issuerHash then
      commitAndFail circumstances system next .invalidOwnerAssertion
    else match lib.finishRegistration ceremony.state response with
    | none => commitAndFail circumstances system next .invalidOwnerAssertion
    | some passkey =>
      let credentialId := lib.credentialId passkey
      if Tables.containsKey next.ownerCredentials credentialId then
        commitAndFail circumstances system next .invalidOwnerAssertion
      else if maxOwnerCredentials ≤ next.ownerCredentials.length then
        commitAndFail circumstances system next .ownerCredentialLimit
      else
        let next := { next with
          ownerCredentials := Tables.insert next.ownerCredentials credentialId
            { id := credentialId
              label := "Passkey " ++ toString (next.ownerCredentials.length + 1)
              passkey := passkey
              createdAt := circumstances.now
              lastUsedAt := none } }
        commitState circumstances system next [.enrolled credentialId] fun committed =>
          (.done (.enrolled credentialId), committed)

def removeOwnerCredential (circumstances : Circumstances lib) (system : System lib)
    (credentialId : String) (allowEmpty : Bool) : Answer × System lib :=
  if !Tables.containsKey system.memory.ownerCredentials credentialId then
    (.done (.credentialRemoval .notFound), system)
  else if system.memory.ownerCredentials.length == 1 && !allowEmpty then
    (.done (.credentialRemoval .finalCredentialConfirmationRequired), system)
  else
    let next := { system.memory with
      ownerCredentials := Tables.remove system.memory.ownerCredentials credentialId
      ownerAuthenticationCeremonies := system.memory.ownerAuthenticationCeremonies.filter
        fun item => credentialId ∉ item.2.credentialIds }
    commitState circumstances system next [] fun committed =>
      (.done (.credentialRemoval .removed), committed)

/-! ### Consents -/

def startOwnerApproval (env : Environment) (circumstances : Circumstances lib)
    (system : System lib) (consentId : String) : Answer × System lib :=
  let now := circumstances.now
  let next := system.memory.evictExpiredOwnerRecords now
  if next.ownerCredentials.isEmpty then (.failed .ownerNotEnrolled, system)
  else match Tables.get next.pendingConsents consentId with
  | none => (.failed .invalidAuthorizationRequest, system)
  | some consent =>
    if consent.expiresAt ≤ now then
      commitAndFail circumstances system (next.expireConsent consentId)
        (.authorizationExpired consent.redirectUri consent.state)
    else
      let ceremonyId := circumstances.value 0
      let others := next.ownerAuthenticationCeremonies.filter
        fun item => item.2.consentId ≠ consentId
      let next := { next with
        ownerAuthenticationCeremonies := Tables.insert others ceremonyId
          { id := ceremonyId
            consentId := consentId
            issuerHash := env.issuerHash
            consentBinding := env.consentBinding consentId consent
            decision := "approve"
            credentialIds :=
              (Tables.iterate circumstances.order next.ownerCredentials).map Prod.fst
            state := circumstances.authentication
            expiresAt := now + ownerCeremonyLifetimeSecs } }
      commitState circumstances system next [] fun committed =>
        (.done (.approvalChallenge ceremonyId), committed)

/-- A ceremony is used up by every answer to it. -/
def finishOwnerApproval (env : Environment) (circumstances : Circumstances lib)
    (system : System lib) (ceremonyId : String) (response : lib.AuthenticationResponse) :
    Answer × System lib :=
  let now := circumstances.now
  match Tables.get system.memory.ownerAuthenticationCeremonies ceremonyId with
  | none =>
    match (Tables.iterate circumstances.order system.memory.completedConsents).find? fun item =>
        decide (now < item.2.expiresAt) && item.2.approvalCeremonyIds.contains ceremonyId with
    | some completed => (.done (.redirect completed.2.redirect), system)
    | none => (.failed .invalidOwnerAssertion, system)
  | some ceremony =>
    let approvalCeremonyIds := system.memory.ownerCeremonyIdsForConsent ceremony.consentId
    let next := system.memory.evictCompletedConsents now
    let next := { next with
      ownerAuthenticationCeremonies :=
        Tables.remove next.ownerAuthenticationCeremonies ceremonyId }
    if ceremony.expiresAt ≤ now then
      commitAndFail circumstances system next .ownerChallengeExpired
    else match Tables.get next.pendingConsents ceremony.consentId with
    | none => commitAndFail circumstances system next .invalidOwnerAssertion
    | some consent =>
      if consent.expiresAt ≤ now then
        commitAndFail circumstances system (next.expireConsent ceremony.consentId)
          (.authorizationExpired consent.redirectUri consent.state)
      else if ceremony.decision ≠ "approve" ∨ env.issuerHash ≠ ceremony.issuerHash ∨
          env.consentBinding ceremony.consentId consent ≠ ceremony.consentBinding then
        commitAndFail circumstances system next .invalidOwnerAssertion
      else match lib.assertedId response with
      | none => commitAndFail circumstances system next .invalidOwnerAssertion
      | some assertedId =>
        if assertedId ∉ ceremony.credentialIds then
          commitAndFail circumstances system next .invalidOwnerAssertion
        else match Tables.get next.ownerCredentials assertedId with
        | none => commitAndFail circumstances system next .ownerCredentialNotFound
        | some stored =>
          match lib.finishAuthentication ceremony.state response stored.passkey with
          | some (true, counter) =>
            let next := { next with
              ownerCredentials := Tables.modify next.ownerCredentials assertedId
                fun credential => { credential with
                  passkey := lib.setCounter credential.passkey counter
                  lastUsedAt := some now } }
            let code := circumstances.value 0
            let (redirect, next) := next.issueCodeForConsent env ceremony.consentId consent
              approvalCeremonyIds now code
            commitState circumstances system next
              [.issuedCode code consent.clientId,
                .approved ceremony.consentId assertedId ceremony.state response stored.passkey]
              fun committed => (.done (.redirect redirect), committed)
          | _ => commitAndFail circumstances system next .invalidOwnerAssertion

def denyConsent (env : Environment) (circumstances : Circumstances lib) (system : System lib)
    (consentId csrfToken : String) : Answer × System lib :=
  let now := circumstances.now
  match (Tables.get system.memory.completedConsents consentId).filter
      fun completed => now < completed.expiresAt with
  | some completed => (.done (.redirect completed.redirect), system)
  | none =>
    match Tables.get system.memory.pendingConsents consentId with
    | none => (.failed .invalidAuthorizationRequest, system)
    | some consent =>
      if consent.expiresAt ≤ now then
        commitAndFail circumstances system (system.memory.expireConsent consentId)
          (.authorizationExpired consent.redirectUri consent.state)
      else if csrfToken ≠ consent.csrfToken then
        (.failed .invalidAuthorizationRequest, system)
      else
        let redirect := env.redirectWithParams consent.redirectUri
          [("error", "access_denied"), ("state", consent.state)]
        let approvalCeremonyIds := system.memory.ownerCeremonyIdsForConsent consentId
        let next := (system.memory.evictCompletedConsents now).expireConsent consentId
        let next := { next with
          completedConsents := Tables.insert next.completedConsents consentId
            { clientId := consent.clientId
              redirect := redirect
              expiresAt := now + authCodeLifetimeSecs
              approvalCeremonyIds := approvalCeremonyIds } }
        commitState circumstances system next [] fun committed =>
          (.done (.redirect redirect), committed)

/-! ### Clients -/

def safeClientName (name : Option String) : String :=
  let sanitized := ((Text.trim (name.getD "").toList).filter
    fun character => !Text.isControl character).take 120
  if sanitized.isEmpty then "MCP client" else String.ofList sanitized

/-- The redirect URIs of a registration: valid ones, sorted, each once. -/
def sanitizedRedirectUris (env : Environment) (request : ClientRegistrationRequest) :
    List String :=
  ((request.redirectUris.filter env.validRedirectUri).insertionSort (· ≤ ·)).dedup

def validateRegistrationRequest (env : Environment) (request : ClientRegistrationRequest) :
    Bool :=
  let redirectUris := sanitizedRedirectUris env request
  !redirectUris.isEmpty && decide (redirectUris.length ≤ 10) &&
    redirectUris.all env.validRedirectUri &&
    request.tokenEndpointAuthMethod.getD "none" == "none" &&
    (request.grantTypes.getD []).all
      (fun item => item == "authorization_code" || item == "refresh_token") &&
    (request.responseTypes.getD []).all fun item => item == "code"

def validateMetadataDocument (env : Environment) (expectedClientId : String)
    (document : ClientMetadataDocument) : Bool :=
  let publicClientSupported := match document.tokenEndpointAuthMethodsSupported with
    | some methods => methods.contains "none"
    | none => document.tokenEndpointAuthMethod.getD "none" == "none"
  let declaresSharedSecret :=
    (document.tokenEndpointAuthMethod.toList ++
      document.tokenEndpointAuthMethodsSupported.getD []).any
        fun method => "client_secret_".toList.isPrefixOf method.toList
  document.clientId == expectedClientId && !document.redirectUris.isEmpty &&
    decide (document.redirectUris.length ≤ 10) && document.redirectUris.all env.validRedirectUri &&
    publicClientSupported && !declaresSharedSecret &&
    document.grantTypes.all (fun items => items.contains "authorization_code") &&
    document.responseTypes.all fun items => items.contains "code"

def registerClient (env : Environment) (circumstances : Circumstances lib)
    (system : System lib) (request : ClientRegistrationRequest) : Answer × System lib :=
  let now := circumstances.now
  let expired := system.memory.expiredClients now
  let next := system.memory.evictExpired now
  if maxRegistrations ≤ next.clients.length then (.failed .registrationQuotaExceeded, system)
  else
    let clientId := "plug_" ++ circumstances.value 0
    let next := { next with
      clients := Tables.insert next.clients clientId
        { clientId := clientId
          clientName := safeClientName request.clientName
          redirectUris := sanitizedRedirectUris env request
          source := .dynamicRegistration
          createdAt := now
          lastUsedAt := none
          expiresAt := now + unactivatedRegistrationLifetimeSecs } }
    let quieted := system.deactivatePrincipalLifecycles expired
    commitState circumstances quieted next [] fun committed =>
      (.done (.registered clientId),
        (committed.insertPrincipalLifecycle clientId).removePrincipalLifecycles expired)

/-- Leases are invalidated before the credentials go, so that a failed save leaves
this process closed. -/
def revokeClient (circumstances : Circumstances lib) (system : System lib)
    (clientId : String) : Answer × System lib :=
  if !Tables.containsKey system.memory.clients clientId then
    (.done (.revoked false), system)
  else
    let quieted := system.deactivatePrincipalLifecycles [clientId]
    let next := system.memory.removeClientMaterial clientId
    let next := { next with
      revokedClientIds := clientId :: next.revokedClientIds.filter (· ≠ clientId) }
    commitState circumstances quieted next [] fun committed =>
      let removed := committed.removePrincipalLifecycles [clientId]
      (.done (.revoked true), { removed with log := .revoked clientId :: removed.log })

/-- `validate_public_client`, after which the operation goes on to its main
section. -/
def validatePublicClient (circumstances : Circumstances lib) (system : System lib)
    (clientId : String) : Answer × System lib :=
  match Tables.get system.memory.clients clientId with
  | some client =>
    if circumstances.now < client.expiresAt then (.later .main, system)
    else (.failed .invalidClient, system)
  | none => (.failed .invalidClient, system)

/-- The first section of `ensure_client`, with the fetch that follows it. -/
def ensureClientLookup (env : Environment) (circumstances : Circumstances lib)
    (system : System lib) (clientId : String) : Answer × System lib :=
  if system.memory.revokedClientIds.contains clientId then (.failed .invalidClient, system)
  else
    let existingSource := ((Tables.get system.memory.clients clientId).filter
      fun client => circumstances.now < client.expiresAt).map RegisteredClient.source
    if existingSource = some .dynamicRegistration then (.later .main, system)
    else
      let fetched := if env.metadataUrl clientId then circumstances.fetched
        else .error .invalidClient
      match fetched with
      | .ok document =>
        if validateMetadataDocument env clientId document then
          (.later (.storingClient clientId document), system)
        else (.failed .invalidClientMetadata, system)
      | .error error =>
        if existingSource = some .metadataDocument then (.later .main, system)
        else (.failed error, system)

/-- The second section of `ensure_client`. -/
def ensureClientStore (circumstances : Circumstances lib) (system : System lib)
    (clientId : String) (document : ClientMetadataDocument) : Answer × System lib :=
  let now := circumstances.now
  if system.memory.revokedClientIds.contains clientId then (.failed .invalidClient, system)
  else
    let expired := system.memory.expiredClients now
    let next := system.memory.evictExpired now
    if !Tables.containsKey next.clients clientId && decide (maxRegistrations ≤ next.clients.length)
    then (.failed .registrationQuotaExceeded, system)
    else
      let next := { next with
        clients := Tables.insert next.clients clientId
          { clientId := clientId
            clientName := safeClientName document.clientName
            redirectUris := document.redirectUris
            source := .metadataDocument
            createdAt := now
            lastUsedAt := none
            expiresAt := now + registrationLifetimeSecs } }
      let quieted := system.deactivatePrincipalLifecycles expired
      commitState circumstances quieted next [] fun committed =>
        let removed := committed.removePrincipalLifecycles expired
        (.later .main,
          if Tables.containsKey removed.principalLifecycles clientId then removed
          else removed.insertPrincipalLifecycle clientId)

/-- The scopes asked for: all configured ones when none are named. -/
def requestedScopes (env : Environment) : Option String → List String
  | some value => (Text.splitWhitespace value.toList).map String.ofList
  | none => env.oauthScopes

def validateScopes (env : Environment) (requested : Option String) : Option (List String) :=
  let scopes := requestedScopes env requested
  if scopes.isEmpty || scopes.any fun scope => !env.oauthScopes.contains scope then none
  else some (scopes.insertionSort (· ≤ ·)).dedup

/-- The main section of `begin_authorization`. -/
def beginAuthorization (env : Environment) (circumstances : Circumstances lib)
    (system : System lib) (request : AuthorizationRequest) : Answer × System lib :=
  let now := circumstances.now
  let expired := system.memory.expiredClients now
  let next := system.memory.evictExpired now
  match Tables.get next.clients request.clientId with
  | none => (.failed .invalidClient, system)
  | some client =>
    if !client.redirectUris.any fun uri => env.registeredRedirectMatches uri request.redirectUri
    then (.failed .invalidRedirectUri, system)
    else if request.resource ≠ env.resource then (.failed .invalidResource, system)
    else match validateScopes env request.scope with
    | none => (.failed .invalidScope, system)
    | some scopes =>
      let clientIds := next.pendingConsents.map (fun item => item.2.clientId) ++
        next.completedConsents.map fun item => item.2.clientId
      if maxPendingConsents ≤ next.pendingConsents.length + next.completedConsents.length ∨
          maxPendingConsentsPerClient ≤ clientIds.count request.clientId then
        (.failed .rateLimited, system)
      else if (env.redirectHost request.redirectUri).isNone then
        (.failed .invalidRedirectUri, system)
      else
        let consentId := circumstances.value 0
        let csrfToken := circumstances.value 1
        let next := { next with
          pendingConsents := Tables.insert next.pendingConsents consentId
            { clientId := request.clientId
              redirectUri := request.redirectUri
              state := request.state
              codeChallenge := request.codeChallenge
              scopes := scopes
              resource := request.resource
              csrfToken := csrfToken
              expiresAt := now + authRequestLifetimeSecs } }
        let quieted := system.deactivatePrincipalLifecycles expired
        commitState circumstances quieted next
          [.requested consentId ⟨request.clientId, scopes, request.resource⟩] fun committed =>
            (.done (.consent consentId csrfToken scopes),
              committed.removePrincipalLifecycles expired)

/-! ### Tokens -/

/-- The main section of `exchange_authorization_code`. -/
def exchangeAuthorizationCode (env : Environment) (circumstances : Circumstances lib)
    (system : System lib) (clientId code redirectUri codeVerifier resource : String) :
    Answer × System lib :=
  let now := circumstances.now
  if resource ≠ env.resource then (.failed .invalidResource, system)
  else match Tables.get system.memory.pendingCodes code with
  | none => (.failed .invalidGrant, system)
  | some pending =>
    if pending.clientId ≠ clientId ∨ pending.redirectUri ≠ redirectUri ∨
        pending.resource ≠ resource ∨ pending.expiresAt ≤ now then
      (.failed .invalidGrant, system)
    else if env.pkceChallenge codeVerifier ≠ pending.codeChallenge then
      (.failed .pkceVerificationFailed, system)
    else
      let familyId := circumstances.value 0
      let accessToken := circumstances.value 1
      let refreshToken := circumstances.value 2
      let next := { system.memory with
        pendingCodes := Tables.remove system.memory.pendingCodes code }
      let next := next.issueTokenPair circumstances.order clientId pending.scopes resource
        familyId now accessToken refreshToken
      commitState circumstances system next
        [.issuedPair accessToken refreshToken ⟨clientId, pending.scopes, resource⟩ familyId]
        fun committed =>
          (.done (.tokens accessToken refreshToken pending.scopes),
            { committed with log := .yielded code :: committed.log })

def System.endFamily (system : System lib) (familyId : String) : System lib :=
  { system with
    familyEnded := Tables.modify system.familyEnded familyId
      fun signIn => { signIn with ended := true } }

def System.familyLastsUntil (system : System lib) (familyId : String) (time : Nat) :
    System lib :=
  { system with
    familyEnded := Tables.modify system.familyEnded familyId
      fun signIn => { signIn with lastsUntil := max signIn.lastsUntil time } }

/-- What a refresh token that is not live comes to: nothing if it was never
spent, a pair of its own for another process of the same client, and the end of
the family otherwise. -/
def presentSpentToken (circumstances : Circumstances lib) (system : System lib)
    (clientId refreshToken resource : String) : Answer × System lib :=
  let now := circumstances.now
  match Tables.get system.memory.consumedRefreshTokens refreshToken with
  | none => (.failed .invalidGrant, system)
  | some consumed =>
    let sibling := (Tables.iterate circumstances.order system.memory.refreshTokens).find?
      fun live => decide (consumed.familyId ≠ "") && live.2.familyId == consumed.familyId &&
        live.2.clientId == clientId && live.2.resource == resource
    let replayed :=
      let ended := system.endFamily consumed.familyId
      commitAndFail circumstances ended
        (system.memory.revokeTokenFamily consumed.familyId) .invalidGrant
    match sibling with
    | none => replayed
    | some live =>
      if consumed.clientId = clientId ∧ now - consumed.consumedAt ≤ refreshReuseLeewaySecs then
        let accessToken := circumstances.value 0
        let newRefreshToken := circumstances.value 1
        let next := system.memory.issueTokenPair circumstances.order clientId live.2.scopes
          resource consumed.familyId now accessToken newRefreshToken
        commitState circumstances system next
          [.issuedPair accessToken newRefreshToken ⟨clientId, live.2.scopes, resource⟩
            consumed.familyId]
          fun committed =>
            (.done (.tokens accessToken newRefreshToken live.2.scopes), committed)
      else replayed

/-- The main section of `exchange_refresh_token`. -/
def exchangeRefreshToken (env : Environment) (circumstances : Circumstances lib)
    (system : System lib) (clientId refreshToken resource : String) : Answer × System lib :=
  let now := circumstances.now
  if resource ≠ env.resource then (.failed .invalidResource, system)
  else match Tables.get system.memory.refreshTokens refreshToken with
  | none => presentSpentToken circumstances system clientId refreshToken resource
  | some refresh =>
    if refresh.clientId ≠ clientId ∨ refresh.resource ≠ resource ∨ refresh.expiresAt ≤ now then
      (.failed .invalidGrant, system)
    else
      let accessToken := circumstances.value 0
      let newRefreshToken := circumstances.value 1
      let next := { system.memory with
        refreshTokens := Tables.remove system.memory.refreshTokens refreshToken
        consumedRefreshTokens := Tables.insert system.memory.consumedRefreshTokens refreshToken
          { familyId := refresh.familyId
            clientId := refresh.clientId
            consumedAt := now } }
      let next := next.pruneConsumedRefreshTokens now
      let next := next.issueTokenPair circumstances.order clientId refresh.scopes resource
        refresh.familyId now accessToken newRefreshToken
      let next := next.extendClient clientId now
      commitState circumstances system next
        [.issuedPair accessToken newRefreshToken ⟨clientId, refresh.scopes, resource⟩
          refresh.familyId]
        fun committed =>
          (.done (.tokens accessToken newRefreshToken refresh.scopes),
            committed.familyLastsUntil refresh.familyId (now + refreshTokenLifetimeSecs))

/-- The sign-in of a family, which is tracked from the first token checked under
it. It lasts as long as the last of its refresh tokens, or the access token. -/
def System.trackFamily (system : System lib) (record : IssuedAccessToken) : System lib :=
  let signIn := (Tables.get system.familyEnded record.familyId).getD ⟨false, 0⟩
  let time := ((system.memory.refreshTokens.filter
    fun item => item.2.familyId = record.familyId).map
      fun item => item.2.expiresAt).foldl max record.expiresAt
  { system with
    familyEnded := Tables.insert system.familyEnded record.familyId
      { signIn with lastsUntil := max signIn.lastsUntil time } }

def validateAccessTokenFor (system : System lib) (token : String) (requiredScopes : List String)
    (resource : String) (now : Nat) : AccessTokenValidation × System lib :=
  if system.durabilityDegraded then (.invalid, system)
  else match Tables.get system.memory.accessTokens token with
  | none => (.invalid, system)
  | some record =>
    if record.expiresAt ≤ now ∨ record.resource ≠ resource ∨
        !Tables.containsKey system.memory.clients record.clientId then
      (.invalid, system)
    else if requiredScopes.any fun scope => !record.scopes.contains scope then
      (.insufficientScope, system)
    else match Tables.get system.principalLifecycles record.clientId with
    | none => (.invalid, system)
    | some state =>
      let generation := ((system.lifecycles[state]?).map Lifecycle.generation).getD 0
      let tracked := if record.familyId = "" then system else system.trackFamily record
      let lease : Lease :=
        { state := state
          generation := generation
          familyEnded := if record.familyId = "" then none else some record.familyId }
      if !lease.isActive tracked now then (.invalid, tracked)
      else
        let claims : AccessTokenClaims :=
          { clientId := record.clientId
            scopes := record.scopes
            resource := record.resource
            principalLifecycle := lease }
        (.valid claims, { tracked with granted := claims :: tracked.granted })

end Plug.DownstreamOauth
