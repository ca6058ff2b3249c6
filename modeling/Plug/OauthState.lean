import Plug.Tables
import Plug.Text
import Mathlib.Data.List.Dedup

/-!
# The downstream OAuth state

The records of the issuer's state file and the functions that change them. The
passkey library, URL parsing, hashing and PKCE are not part of the repository and
enter through `Passkeys` and `Environment`. Values of `opaque_value` and the
times read from the clock are arguments.
-/

namespace Plug.DownstreamOauth

/-- The passkey library: its types and what its checks answer. -/
structure Passkeys where
  Passkey : Type
  Registration : Type
  Authentication : Type
  RegistrationResponse : Type
  AuthenticationResponse : Type
  finishRegistration : Registration → RegistrationResponse → Option Passkey
  /-- A verified assertion: whether the user was verified, and the new counter. -/
  finishAuthentication : Authentication → AuthenticationResponse → Passkey → Option (Bool × Nat)
  credentialId : Passkey → String
  assertedId : AuthenticationResponse → Option String
  setCounter : Passkey → Nat → Passkey

inductive ClientSource where
  | dynamicRegistration
  | metadataDocument
deriving DecidableEq

structure RegisteredClient where
  clientId : String
  clientName : String
  redirectUris : List String
  source : ClientSource
  createdAt : Nat
  lastUsedAt : Option Nat
  expiresAt : Nat
deriving DecidableEq

structure PendingConsent where
  clientId : String
  redirectUri : String
  state : String
  codeChallenge : String
  scopes : List String
  resource : String
  csrfToken : String
  expiresAt : Nat
deriving DecidableEq

/-- A redirect is kept as its location. -/
structure CompletedConsent where
  clientId : String
  redirect : String
  expiresAt : Nat
  approvalCeremonyIds : List String
deriving DecidableEq

structure PendingAuthorizationCode where
  clientId : String
  redirectUri : String
  codeChallenge : String
  scopes : List String
  resource : String
  expiresAt : Nat
deriving DecidableEq

structure IssuedAccessToken where
  clientId : String
  scopes : List String
  resource : String
  issuedAt : Nat
  expiresAt : Nat
  familyId : String
deriving DecidableEq

structure IssuedRefreshToken where
  clientId : String
  scopes : List String
  resource : String
  expiresAt : Nat
  familyId : String
deriving DecidableEq

structure ConsumedRefreshToken where
  familyId : String
  clientId : String
  consumedAt : Nat
deriving DecidableEq

structure OwnerCredential (lib : Passkeys) where
  id : String
  label : String
  passkey : lib.Passkey
  createdAt : Nat
  lastUsedAt : Option Nat

structure OwnerBootstrap where
  secretHash : String
  expiresAt : Nat
deriving DecidableEq

structure OwnerRegistrationCeremony (lib : Passkeys) where
  id : String
  bootstrapHash : String
  issuerHash : String
  state : lib.Registration
  expiresAt : Nat

structure OwnerAuthenticationCeremony (lib : Passkeys) where
  id : String
  consentId : String
  issuerHash : String
  consentBinding : String
  decision : String
  credentialIds : List String
  state : lib.Authentication
  expiresAt : Nat

/-- The content of the state file. -/
structure DownstreamOauthState (lib : Passkeys) where
  clients : List (String × RegisteredClient) := []
  pendingConsents : List (String × PendingConsent) := []
  completedConsents : List (String × CompletedConsent) := []
  pendingCodes : List (String × PendingAuthorizationCode) := []
  accessTokens : List (String × IssuedAccessToken) := []
  refreshTokens : List (String × IssuedRefreshToken) := []
  consumedRefreshTokens : List (String × ConsumedRefreshToken) := []
  revokedClientIds : List String := []
  ownerCredentials : List (String × OwnerCredential lib) := []
  ownerBootstraps : List (String × OwnerBootstrap) := []
  ownerRegistrationCeremonies : List (String × OwnerRegistrationCeremony lib) := []
  ownerAuthenticationCeremonies : List (String × OwnerAuthenticationCeremony lib) := []

/-- The configuration, and what is computed outside the repository. A generated
client id is no address a metadata document could be fetched from. -/
structure Environment where
  publicBaseUrl : String
  oauthScopes : List String
  ownerBindingHash : List String → String
  encodeConsent : PendingConsent → String
  validRedirectUri : String → Bool
  registeredRedirectMatches : String → String → Bool
  redirectHost : String → Option String
  redirectWithParams : String → List (String × String) → String
  pkceChallenge : String → String
  metadataUrl : String → Bool
  generated_no_url : ∀ value, metadataUrl ("plug_" ++ value) = false

def Environment.baseUrl (env : Environment) : String :=
  String.ofList (Text.trimEndMatches (· = '/') env.publicBaseUrl.toList)

def Environment.resource (env : Environment) : String :=
  env.baseUrl ++ "/mcp"

def authRequestLifetimeSecs : Nat := 300
def authCodeLifetimeSecs : Nat := 300
def accessTokenLifetimeSecs : Nat := 3600
def refreshTokenLifetimeSecs : Nat := 30 * 24 * 3600
def refreshReuseLeewaySecs : Nat := refreshTokenLifetimeSecs
def registrationLifetimeSecs : Nat := 90 * 24 * 3600
def unactivatedRegistrationLifetimeSecs : Nat := 3600
def maxRegistrations : Nat := 100
def maxPendingConsents : Nat := 200
def maxPendingConsentsPerClient : Nat := 5
def maxAccessTokensPerClient : Nat := 10
def maxOwnerCredentials : Nat := 5
def maxOwnerChallenges : Nat := 10
def ownerCeremonyLifetimeSecs : Nat := 300

variable {lib : Passkeys}

namespace DownstreamOauthState

def ownerCeremonyIdsForConsent (state : DownstreamOauthState lib) (consentId : String) :
    List String :=
  let ids := (state.ownerAuthenticationCeremonies.filter
    fun item => item.2.consentId = consentId).map fun item => item.2.id
  (ids.insertionSort (· ≤ ·)).dedup

/-- Ceremonies whose consent is gone go, and of several for one consent the one
that expires last stays. -/
def evictExpiredOwnerRecords (state : DownstreamOauthState lib) (now : Nat) :
    DownstreamOauthState lib :=
  let live := state.ownerAuthenticationCeremonies.filter fun item =>
    decide (now < item.2.expiresAt) &&
      Tables.containsKey state.pendingConsents item.2.consentId
  { state with
    ownerBootstraps := state.ownerBootstraps.filter fun item => now < item.2.expiresAt
    ownerRegistrationCeremonies :=
      state.ownerRegistrationCeremonies.filter fun item => now < item.2.expiresAt
    ownerAuthenticationCeremonies := live.filter fun item => live.all fun other =>
      other.2.consentId ≠ item.2.consentId || decide (other.2.expiresAt < item.2.expiresAt) ||
        (decide (other.2.expiresAt = item.2.expiresAt) && decide (other.1 ≤ item.1)) }

/-- The clients that `evict_expired` drops. -/
def expiredClients (state : DownstreamOauthState lib) (now : Nat) : List String :=
  (state.clients.filter fun item => item.2.expiresAt ≤ now).map Prod.fst

def evictExpired (state : DownstreamOauthState lib) (now : Nat) : DownstreamOauthState lib :=
  let expired := state.expiredClients now
  let evicted := { state with
    clients := state.clients.filter fun item => item.1 ∉ expired
    pendingConsents := state.pendingConsents.filter fun item => now < item.2.expiresAt
    completedConsents := state.completedConsents.filter fun item => now < item.2.expiresAt
    pendingCodes := state.pendingCodes.filter fun item => now < item.2.expiresAt
    accessTokens := state.accessTokens.filter fun item =>
      now < item.2.expiresAt && item.2.clientId ∉ expired
    refreshTokens := state.refreshTokens.filter fun item =>
      now < item.2.expiresAt && item.2.clientId ∉ expired }
  evicted.evictExpiredOwnerRecords now

/-- Spent refresh tokens and approval ceremonies of the client stay. -/
def removeClientMaterial (state : DownstreamOauthState lib) (clientId : String) :
    DownstreamOauthState lib :=
  { state with
    clients := Tables.remove state.clients clientId
    pendingConsents := state.pendingConsents.filter fun item => item.2.clientId ≠ clientId
    completedConsents := state.completedConsents.filter fun item => item.2.clientId ≠ clientId
    pendingCodes := state.pendingCodes.filter fun item => item.2.clientId ≠ clientId
    accessTokens := state.accessTokens.filter fun item => item.2.clientId ≠ clientId
    refreshTokens := state.refreshTokens.filter fun item => item.2.clientId ≠ clientId }

/-- The part of `expire_consent` that changes the state. -/
def expireConsent (state : DownstreamOauthState lib) (consentId : String) :
    DownstreamOauthState lib :=
  { state with
    pendingConsents := Tables.remove state.pendingConsents consentId
    ownerAuthenticationCeremonies :=
      state.ownerAuthenticationCeremonies.filter fun item => item.2.consentId ≠ consentId }

def evictCompletedConsents (state : DownstreamOauthState lib) (now : Nat) :
    DownstreamOauthState lib :=
  { state with
    completedConsents := state.completedConsents.filter fun item => now < item.2.expiresAt }

/-- A client in use keeps its registration. -/
def extendClient (state : DownstreamOauthState lib) (clientId : String) (now : Nat) :
    DownstreamOauthState lib :=
  { state with
    clients := Tables.modify state.clients clientId fun client =>
      { client with lastUsedAt := some now, expiresAt := now + registrationLifetimeSecs } }

/-- `issue_code_for_consent`: the redirect, and the state with the code. -/
def issueCodeForConsent (env : Environment) (state : DownstreamOauthState lib)
    (consentId : String) (consent : PendingConsent) (approvalCeremonyIds : List String)
    (now : Nat) (code : String) : String × DownstreamOauthState lib :=
  let expired := state.expireConsent consentId
  let coded := { expired with
    pendingCodes := Tables.insert expired.pendingCodes code
      { clientId := consent.clientId
        redirectUri := consent.redirectUri
        codeChallenge := consent.codeChallenge
        scopes := consent.scopes
        resource := consent.resource
        expiresAt := now + authCodeLifetimeSecs } }
  let extended := coded.extendClient consent.clientId now
  let redirect := env.redirectWithParams consent.redirectUri
    [("code", code), ("state", consent.state)]
  (redirect, { extended with
    completedConsents := Tables.insert extended.completedConsents consentId
      { clientId := consent.clientId
        redirect := redirect
        expiresAt := now + authCodeLifetimeSecs
        approvalCeremonyIds := approvalCeremonyIds } })

/-- The access tokens that make room for a new one: the client's oldest. -/
def surplusAccessTokens (state : DownstreamOauthState lib) (order : String → Nat)
    (clientId : String) : List String :=
  let existing := (Tables.iterate order state.accessTokens).filter
    fun item => item.2.clientId = clientId
  let sorted := existing.insertionSort fun item other => item.2.issuedAt ≤ other.2.issuedAt
  (sorted.take (existing.length - (maxAccessTokensPerClient - 1))).map Prod.fst

def issueTokenPair (state : DownstreamOauthState lib) (order : String → Nat)
    (clientId : String) (scopes : List String) (resource familyId : String) (now : Nat)
    (accessToken refreshToken : String) : DownstreamOauthState lib :=
  let surplus := state.surplusAccessTokens order clientId
  { state with
    accessTokens := Tables.insert
      (state.accessTokens.filter fun item => item.1 ∉ surplus) accessToken
      { clientId, scopes, resource, familyId
        issuedAt := now
        expiresAt := now + accessTokenLifetimeSecs }
    refreshTokens := Tables.insert state.refreshTokens refreshToken
      { clientId, scopes, resource, familyId
        expiresAt := now + refreshTokenLifetimeSecs } }

/-- An empty family id is that of a record written before families existed. -/
def revokeTokenFamily (state : DownstreamOauthState lib) (familyId : String) :
    DownstreamOauthState lib :=
  if familyId = "" then state
  else { state with
    accessTokens := state.accessTokens.filter fun item => item.2.familyId ≠ familyId
    refreshTokens := state.refreshTokens.filter fun item => item.2.familyId ≠ familyId
    consumedRefreshTokens :=
      state.consumedRefreshTokens.filter fun item => item.2.familyId ≠ familyId }

def pruneConsumedRefreshTokens (state : DownstreamOauthState lib) (now : Nat) :
    DownstreamOauthState lib :=
  { state with
    consumedRefreshTokens := state.consumedRefreshTokens.filter
      fun item => now - item.2.consumedAt < refreshTokenLifetimeSecs }

end DownstreamOauthState

/-- A missing file is the empty state. -/
def loadPersistedState (now : Nat) : Option (DownstreamOauthState lib) → DownstreamOauthState lib
  | none => {}
  | some state => state.evictExpired now

/-- What a manager starts from. -/
def startupState (now : Nat) (file : Option (DownstreamOauthState lib)) :
    DownstreamOauthState lib :=
  (loadPersistedState now file).pruneConsumedRefreshTokens now

end Plug.DownstreamOauth
