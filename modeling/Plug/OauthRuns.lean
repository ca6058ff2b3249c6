import Plug.Runs
import Plug.OauthOperations

/-!
# Runs of the downstream OAuth manager

Operations are in flight between their sections and may be abandoned there. Any
number are in flight at once and their sections come in any order. The process
may stop at any moment and start again from its file; a directory entry that was
renamed but not synced survives a power loss or does not.
-/

namespace Plug.DownstreamOauth

variable {lib : Passkeys}

/-- The next section of an operation in flight. -/
def performSection (env : Environment) (circumstances : Circumstances lib) (system : System lib) :
    Operation lib × Stage → Answer × System lib
  | (.exchangeAuthorizationCode clientId .., .validatingClient) =>
    validatePublicClient circumstances system clientId
  | (.exchangeRefreshToken clientId .., .validatingClient) =>
    validatePublicClient circumstances system clientId
  | (.beginAuthorization request, .lookingUpClient) =>
    ensureClientLookup env circumstances system request.clientId
  | (.beginAuthorization _, .storingClient clientId document) =>
    ensureClientStore circumstances system clientId document
  | (.createOwnerBootstrap, .main) => createOwnerBootstrap env circumstances system
  | (.startOwnerRegistration bootstrap, .main) =>
    startOwnerRegistration env circumstances system bootstrap
  | (.finishOwnerRegistration ceremonyId response, .main) =>
    finishOwnerRegistration env circumstances system ceremonyId response
  | (.startOwnerApproval consentId, .main) =>
    startOwnerApproval env circumstances system consentId
  | (.finishOwnerApproval ceremonyId response, .main) =>
    finishOwnerApproval env circumstances system ceremonyId response
  | (.denyConsent consentId csrfToken, .main) =>
    denyConsent env circumstances system consentId csrfToken
  | (.removeOwnerCredential credentialId allowEmpty, .main) =>
    removeOwnerCredential circumstances system credentialId allowEmpty
  | (.registerClient request, .main) => registerClient env circumstances system request
  | (.revokeClient clientId, .main) => revokeClient circumstances system clientId
  | (.beginAuthorization request, .main) => beginAuthorization env circumstances system request
  | (.exchangeAuthorizationCode clientId code redirectUri codeVerifier resource, .main) =>
    exchangeAuthorizationCode env circumstances system clientId code redirectUri codeVerifier
      resource
  | (.exchangeRefreshToken clientId refreshToken resource, .main) =>
    exchangeRefreshToken env circumstances system clientId refreshToken resource
  -- An operation is never at a stage of another one.
  | _ => (.failed .invalidAuthorizationRequest, system)

/-- The stage an operation starts at, unless its arguments are refused. The rate
limit on registrations may also refuse one. -/
def firstStage (env : Environment) (rateAllowed : Bool) :
    Operation lib → Except DownstreamOauthError Stage
  | .registerClient request =>
    if !validateRegistrationRequest env request then .error .invalidClientMetadata
    else if rateAllowed then .ok .main
    else .error .rateLimited
  | .beginAuthorization request =>
    if request.responseType ≠ "code" ∨ request.state = "" ∨ request.codeChallenge = "" ∨
        request.codeChallengeMethod ≠ "S256" then
      .error .invalidAuthorizationRequest
    else .ok .lookingUpClient
  | .exchangeAuthorizationCode .. | .exchangeRefreshToken .. => .ok .validatingClient
  | _ => .ok .main

/-- What happens before the first section of an operation. -/
def call (env : Environment) (system : System lib) (operation : Operation lib)
    (synced rateAllowed : Bool) : Answer × System lib :=
  let checked := ensureDurable system synced
  if checked.durabilityDegraded then (.failed .persistence, checked)
  else match firstStage env rateAllowed operation with
    | .error error => (.failed error, checked)
    | .ok stage =>
      (.later stage, { checked with inFlight := (operation, stage) :: checked.inFlight })

/-- A manager starts from the file. After a power loss the file may be the one
that was durable before. -/
def restart (system : System lib) (powerLost entryKept : Bool) (now : Nat) : System lib :=
  let file := if powerLost && !entryKept then system.durableFile else system.file
  let memory := startupState now file
  { system with
    memory := memory
    lifecycles := memory.clients.map fun _ => ⟨1, true⟩
    principalLifecycles := memory.clients.zipIdx.map fun item => (item.1.1, item.2)
    familyEnded := []
    granted := []
    durabilityDegraded := false
    inFlight := []
    file := file
    durableFile := file
    renamed := false }

inductive Action (lib : Passkeys) where
  | call (operation : Operation lib) (synced rateAllowed : Bool)
  | advance (index : Nat) (circumstances : Circumstances lib)
  | abandon (index : Nat)
  | validateAccessTokenFor (token : String) (requiredScopes : List String) (resource : String)
      (now : Nat)
  | restart (powerLost entryKept : Bool) (now : Nat)

/-- The operation at `index` starts a section. -/
def System.start (system : System lib) (index : Nat) (circumstances : Circumstances lib) :
    System lib :=
  { system with
    inFlight := system.inFlight.eraseIdx index
    used := [circumstances.value 0, circumstances.value 1, circumstances.value 2] ++
      system.used }

/-- An operation that has a further section stays in flight. -/
def System.proceed (system : System lib) (operation : Operation lib) : Answer → System lib
  | .later stage => { system with inFlight := (operation, stage) :: system.inFlight }
  | _ => system

/-- A section of the operation at `index`. -/
def advance (env : Environment) (circumstances : Circumstances lib) (system : System lib)
    (index : Nat) : Option (Answer × System lib) :=
  match system.inFlight[index]? with
  | none => none
  | some task =>
    let result := performSection env circumstances (system.start index circumstances) task
    some (result.1, result.2.proceed task.1 result.1)

def step (env : Environment) (system : System lib) : Action lib → Option (System lib)
  | .call operation synced rateAllowed => some (call env system operation synced rateAllowed).2
  | .advance index circumstances => (advance env circumstances system index).map Prod.snd
  | .abandon index => some { system with inFlight := system.inFlight.eraseIdx index }
  | .validateAccessTokenFor token requiredScopes resource now =>
    some (validateAccessTokenFor system token requiredScopes resource now).2
  | .restart powerLost entryKept now => some (restart system powerLost entryKept now)

/-- A manager without a state file. -/
def initial : System lib where
  memory := {}
  lifecycles := []
  principalLifecycles := []
  familyEnded := []
  granted := []
  durabilityDegraded := false
  inFlight := []
  file := none
  durableFile := none
  renamed := false
  used := []
  log := []

/-- Values of `opaque_value` are new and distinct. -/
def freshValues (system : System lib) : Action lib → Bool
  | .advance _ circumstances =>
    !system.used.contains (circumstances.value 0) &&
    !system.used.contains (circumstances.value 1) &&
    !system.used.contains (circumstances.value 2) &&
    circumstances.value 0 != circumstances.value 1 &&
    circumstances.value 0 != circumstances.value 2 &&
    circumstances.value 1 != circumstances.value 2
  | _ => true

/-! ### A small manager -/

/-- A passkey is its name, and an assertion names the passkey. -/
abbrev namedPasskeys : Passkeys where
  Passkey := String
  Registration := Unit
  Authentication := Unit
  RegistrationResponse := String
  AuthenticationResponse := String
  finishRegistration _ response := some response
  finishAuthentication _ response passkey :=
    if response = passkey then some (true, 1) else none
  credentialId passkey := passkey
  assertedId response := some response
  setCounter passkey _ := passkey

/-- The access token, the grant and the family of a pair that was issued. -/
def Event.pair : Event lib → Option (String × Grant × String)
  | .issuedPair accessToken _ grant familyId => some (accessToken, grant, familyId)
  | _ => none

theorem Event.pair_some {event : Event lib} {accessToken familyId : String} {grant : Grant}
    (issued : event.pair = some (accessToken, grant, familyId)) :
    ∃ refreshToken, event = .issuedPair accessToken refreshToken grant familyId := by
  unfold Event.pair at issued
  split at issued
  · cases issued
    exact ⟨_, rfl⟩
  · cases issued

def sampleEnvironment : Environment where
  publicBaseUrl := "https://plug.example/"
  oauthScopes := ["mcp"]
  ownerBindingHash parts := String.intercalate "/" parts
  encodeConsent consent := consent.csrfToken
  validRedirectUri _ := true
  registeredRedirectMatches uri requested := uri == requested
  redirectHost uri := some uri
  redirectWithParams base pairs := base ++ String.join (pairs.map Prod.snd)
  pkceChallenge verifier := verifier
  metadataUrl clientId := clientId.toList.head? == some 'h'
  generated_no_url value := by simp

/-- A section at a time, with values named after the section. -/
def during (now : Nat) (name : String) (persist : PersistOutcome) :
    Circumstances namedPasskeys where
  now := now
  order _ := 0
  value
    | 0 => name
    | 1 => name ++ "1"
    | _ => name ++ "2"
  synced := true
  persist := persist
  registration := ()
  authentication := ()
  fetched := .error .metadataFetch

/-- An operation and its only section. -/
def whole (operation : Operation namedPasskeys) (now : Nat) (name : String) :
    List (Action namedPasskeys) :=
  [.call operation true true, .advance 0 (during now name .durable)]

def sampleRegistration : Operation namedPasskeys :=
  .registerClient ⟨["https://app.example"], none, none, none, none⟩

def sampleAuthorization : Operation namedPasskeys :=
  .beginAuthorization ⟨"code", "plug_app", "https://app.example", "state", "verifier", "S256",
    none, "https://plug.example/mcp"⟩

def sampleExchange : Operation namedPasskeys :=
  .exchangeAuthorizationCode "plug_app" "code" "https://app.example" "verifier"
    "https://plug.example/mcp"

/-- The owner enrolls a passkey, a client registers and asks for a grant, and the
owner approves it. -/
def approving : List (Action namedPasskeys) := List.flatten
  [whole .createOwnerBootstrap 0 "secret",
    whole (.startOwnerRegistration "secret") 0 "enrolling",
    whole (.finishOwnerRegistration "enrolling" "key") 0 "enrolled",
    whole sampleRegistration 0 "app",
    whole sampleAuthorization 0 "lookup",
    [.advance 0 (during 0 "consent" .durable)],
    whole (.startOwnerApproval "consent") 0 "ceremony",
    whole (.finishOwnerApproval "ceremony" "key") 0 "code"]

/-- The client exchanges its code. -/
def signingIn : List (Action namedPasskeys) := List.flatten
  [approving, whole sampleExchange 0 "validated",
    [.advance 0 (during 0 "family" .durable)]]

end Plug.DownstreamOauth
