import Plug.OauthState

/-!
# The downstream OAuth manager

The manager keeps the state of its file in memory behind a lock. An operation
checks durability, then runs one or more sections under the lock. A section that
changes the state works on a copy, writes it to the file and only then publishes
it.

What the surroundings decide for a section is in its `Circumstances`: the clock,
the values of `opaque_value`, the order of hash tables, what the disk does and
what a metadata fetch returned. The log, `used` and `renamed` are not part of the
source.
-/

namespace Plug.DownstreamOauth

inductive DownstreamOauthError where
  | invalidClient
  | invalidClientMetadata
  | invalidRedirectUri
  | invalidAuthorizationRequest
  | authorizationExpired (redirectUri state : String)
  | invalidGrant
  | pkceVerificationFailed
  | rateLimited
  | registrationQuotaExceeded
  | invalidScope
  | invalidResource
  | persistence
  | metadataFetch
  | ownerNotEnrolled
  | invalidOwnerBootstrap
  | ownerChallengeExpired
  | invalidOwnerAssertion
  | ownerCredentialLimit
  | ownerCredentialNotFound
deriving DecidableEq

inductive RemoveOwnerCredentialOutcome where
  | removed
  | notFound
  | finalCredentialConfirmationRequired
deriving DecidableEq

inductive Response where
  | bootstrap (secret : String)
  | registrationChallenge (ceremonyId : String)
  | enrolled (credentialId : String)
  | approvalChallenge (ceremonyId : String)
  | redirect (location : String)
  | credentialRemoval (outcome : RemoveOwnerCredentialOutcome)
  | registered (clientId : String)
  | revoked (existed : Bool)
  | consent (consentId csrfToken : String) (scopes : List String)
  | tokens (accessToken refreshToken : String) (scopes : List String)
deriving DecidableEq

structure ClientRegistrationRequest where
  redirectUris : List String
  clientName : Option String
  tokenEndpointAuthMethod : Option String
  grantTypes : Option (List String)
  responseTypes : Option (List String)

structure ClientMetadataDocument where
  clientId : String
  clientName : Option String
  redirectUris : List String
  tokenEndpointAuthMethod : Option String
  tokenEndpointAuthMethodsSupported : Option (List String)
  grantTypes : Option (List String)
  responseTypes : Option (List String)

structure AuthorizationRequest where
  responseType : String
  clientId : String
  redirectUri : String
  state : String
  codeChallenge : String
  codeChallengeMethod : String
  scope : Option String
  resource : String

inductive Operation (lib : Passkeys) where
  | createOwnerBootstrap
  | startOwnerRegistration (bootstrap : String)
  | finishOwnerRegistration (ceremonyId : String) (response : lib.RegistrationResponse)
  | startOwnerApproval (consentId : String)
  | finishOwnerApproval (ceremonyId : String) (response : lib.AuthenticationResponse)
  | denyConsent (consentId csrfToken : String)
  | removeOwnerCredential (credentialId : String) (allowEmpty : Bool)
  | registerClient (request : ClientRegistrationRequest)
  | revokeClient (clientId : String)
  | beginAuthorization (request : AuthorizationRequest)
  | exchangeAuthorizationCode (clientId code redirectUri codeVerifier resource : String)
  | exchangeRefreshToken (clientId refreshToken resource : String)

/-- The section an operation in flight runs next. -/
inductive Stage where
  | validatingClient
  | lookingUpClient
  | storingClient (clientId : String) (document : ClientMetadataDocument)
  | main

inductive PersistOutcome where
  | failed
  | uncertain
  | durable
deriving DecidableEq

structure Circumstances (lib : Passkeys) where
  now : Nat
  order : String → Nat
  value : Nat → String
  synced : Bool
  persist : PersistOutcome
  registration : lib.Registration
  authentication : lib.Authentication
  fetched : Except DownstreamOauthError ClientMetadataDocument

/-- `PrincipalLifecycleState`. -/
structure Lifecycle where
  generation : Nat
  active : Bool

structure SignIn where
  ended : Bool
  lastsUntil : Nat

/-- `PrincipalLifecycleLease`: the state it shares is named by its index, and the
sign-in by its family. -/
structure Lease where
  state : Nat
  generation : Nat
  familyEnded : Option String

structure AccessTokenClaims where
  clientId : String
  scopes : List String
  resource : String
  principalLifecycle : Lease

inductive AccessTokenValidation where
  | valid (claims : AccessTokenClaims)
  | invalid
  | insufficientScope

/-- What a consent asks for, and what the records made from it carry. -/
structure Grant where
  clientId : String
  scopes : List String
  resource : String
deriving DecidableEq

def PendingConsent.grant (consent : PendingConsent) : Grant :=
  ⟨consent.clientId, consent.scopes, consent.resource⟩

def PendingAuthorizationCode.grant (pending : PendingAuthorizationCode) : Grant :=
  ⟨pending.clientId, pending.scopes, pending.resource⟩

def IssuedAccessToken.grant (record : IssuedAccessToken) : Grant :=
  ⟨record.clientId, record.scopes, record.resource⟩

def IssuedRefreshToken.grant (record : IssuedRefreshToken) : Grant :=
  ⟨record.clientId, record.scopes, record.resource⟩

/-- What the results are about. -/
inductive Event (lib : Passkeys) where
  | enrolled (credentialId : String)
  | requested (consentId : String) (grant : Grant)
  | approved (consentId credentialId : String) (authentication : lib.Authentication)
      (response : lib.AuthenticationResponse) (passkey : lib.Passkey)
  | issuedCode (code clientId : String)
  | issuedPair (accessToken refreshToken : String) (grant : Grant) (familyId : String)
  | yielded (code : String)
  | revoked (clientId : String)
  | persisted (outcome : PersistOutcome)

structure System (lib : Passkeys) where
  memory : DownstreamOauthState lib
  lifecycles : List Lifecycle
  principalLifecycles : List (String × Nat)
  familyEnded : List (String × SignIn)
  granted : List AccessTokenClaims
  durabilityDegraded : Bool
  inFlight : List (Operation lib × Stage)
  file : Option (DownstreamOauthState lib)
  durableFile : Option (DownstreamOauthState lib)
  renamed : Bool
  used : List String
  log : List (Event lib)

/-- What a section comes to: an error, a response, or a further section. -/
inductive Answer where
  | failed (error : DownstreamOauthError)
  | done (response : Response)
  | later (stage : Stage)

variable {lib : Passkeys}

/-! ### Leases -/

def System.deactivatePrincipalLifecycles (system : System lib) (clientIds : List String) :
    System lib :=
  { system with
    lifecycles := system.lifecycles.mapIdx fun index lifecycle =>
      if clientIds.any fun clientId =>
          Tables.get system.principalLifecycles clientId = some index then
        { generation := lifecycle.generation + 1, active := false }
      else lifecycle }

def System.removePrincipalLifecycles (system : System lib) (clientIds : List String) :
    System lib :=
  { system with
    principalLifecycles := system.principalLifecycles.filter fun item => item.1 ∉ clientIds }

def System.insertPrincipalLifecycle (system : System lib) (clientId : String) : System lib :=
  { system with
    lifecycles := system.lifecycles ++ [⟨1, true⟩]
    principalLifecycles :=
      Tables.insert system.principalLifecycles clientId system.lifecycles.length }

def SignIn.isOver (signIn : SignIn) (now : Nat) : Bool :=
  signIn.ended || decide (signIn.lastsUntil ≤ now)

def Lease.isActive (lease : Lease) (system : System lib) (now : Nat) : Bool :=
  (system.lifecycles[lease.state]?).any
    (fun lifecycle => lifecycle.active && lifecycle.generation == lease.generation) &&
  !(lease.familyEnded.bind (Tables.get system.familyEnded)).any fun signIn => signIn.isOver now

/-! ### The state file -/

/-- A sync that succeeds settles which file survives. -/
def ensureDurable (system : System lib) (synced : Bool) : System lib :=
  if system.durabilityDegraded && synced then
    { system with durabilityDegraded := false, durableFile := system.file }
  else system

/-- `commit_state`: `finish` is what follows a commit that returned no error. -/
def commitState (circumstances : Circumstances lib) (system : System lib)
    (next : DownstreamOauthState lib) (events : List (Event lib))
    (finish : System lib → Answer × System lib) : Answer × System lib :=
  let checked := ensureDurable system circumstances.synced
  if checked.durabilityDegraded then (.failed .persistence, checked)
  else match circumstances.persist with
    | .failed =>
      (.failed .persistence, { checked with log := .persisted .failed :: checked.log })
    | .uncertain =>
      (.failed .persistence, { checked with
        memory := next
        file := some next
        renamed := true
        durabilityDegraded := true
        log := events ++ .persisted .uncertain :: checked.log })
    | .durable =>
      finish { checked with
        memory := next
        file := some next
        durableFile := some next
        renamed := true
        log := events ++ .persisted .durable :: checked.log }

/-- `commit_state` followed by an error. -/
def commitAndFail (circumstances : Circumstances lib) (system : System lib)
    (next : DownstreamOauthState lib) (error : DownstreamOauthError) : Answer × System lib :=
  commitState circumstances system next [] fun committed => (.failed error, committed)

end Plug.DownstreamOauth
