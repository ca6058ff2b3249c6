import Plug.CredentialMirrors
import Plug.CredentialPaths

/-!
# Calls on the store of upstream credentials

A store of one server's credentials remembers what it last saw of them and the authority that they
are bound to, and reads and writes the token file and the keyring entry. To write a bound record it
needs a generation. Reading a bound record binds the store, so that what a call has read decides
whether it may still write a record without one.
-/

namespace Plug.CredentialCalls

open CredentialMirrors (CredentialBinding BoundCredentialEnvelope PersistedCredentialEnvelope
  BoundPairProbe credentialEnvelopeVersion probeKeyring)
open CredentialPaths (tokenFilePath credentialWriteLockPath)

structure TokenResponse where
  accessToken : List Char
  refreshToken : Option (List Char)
  expiresIn : Option Nat
deriving DecidableEq

structure StoredCredentials where
  clientId : List Char
  tokenResponse : Option TokenResponse
  grantedScopes : List (List Char)
  tokenReceivedAt : Option Nat
deriving DecidableEq

structure CachedCredentials where
  credentials : StoredCredentials
  tokenReceivedAt : Nat
  expiresIn : Option Nat
deriving DecidableEq

/-- What stands in the token file or in the keyring entry. -/
inductive Content where
  | invalid
  | record (envelope : PersistedCredentialEnvelope StoredCredentials)
deriving DecidableEq

def Content.envelope : Content → Option (PersistedCredentialEnvelope StoredCredentials)
  | .invalid => none
  | .record envelope => some envelope

/-- A store, and the two places that it reads and writes. -/
structure Store where
  serverName : List Char
  cache : Option CachedCredentials
  binding : Option CredentialBinding
  unboundLegacyLoaded : Bool
  tokenFile : Option Content
  keyringEntry : Option Content
deriving DecidableEq

def Store.new (serverName : List Char) (tokenFile keyringEntry : Option Content) : Store :=
  { serverName, cache := none, binding := none, unboundLegacyLoaded := false, tokenFile
    keyringEntry }

/-- What the system does during one call: `keyring` says that the keyring can be reached, and a
file that was written may still be reported as an error. -/
structure Platform where
  now : Nat
  generation : Nat
  keyring : Bool
  lockError : Option (List Char)
  unlockError : Option (List Char)
  fileWritten : Bool
  fileError : Option (List Char)
  keyringError : Option (List Char)
  fileCleared : Bool
  keyringCleared : Bool
deriving DecidableEq

inductive CredentialSource where
  | cache
  | file
  | keyring
deriving DecidableEq

/-- The order in which the sources are declared. -/
def CredentialSource.rank : CredentialSource → Nat
  | .cache => 0
  | .file => 1
  | .keyring => 2

def CredentialSource.text : CredentialSource → List Char
  | .cache => "cache".toList
  | .file => "file".toList
  | .keyring => "keyring".toList

structure CredentialSnapshot where
  credentials : Option StoredCredentials
  source : Option (List Char)
  tokenExpiresInSecs : Option Nat
  warnings : List (List Char)
deriving DecidableEq

def defaultTokenLifetimeSecs : Nat := 3600

def reported : Option (List Char) → Except (List Char) Unit
  | some error => .error error
  | none => .ok ()

/-! ### Comparing credentials -/

def receivedAt (credentials : StoredCredentials) : Nat := credentials.tokenReceivedAt.getD 0

def tokenIdentity (credentials : StoredCredentials) : Option (List Char) :=
  credentials.tokenResponse.map TokenResponse.accessToken

def persistedCredentialsMatch (left right : StoredCredentials) : Bool :=
  left.tokenReceivedAt = right.tokenReceivedAt ∧ tokenIdentity left = tokenIdentity right

def chooseFresherCredentials (lhs rhs : Option (StoredCredentials × CredentialSource)) :
    Option (StoredCredentials × CredentialSource) :=
  match lhs, rhs with
  | some left, some right =>
    if receivedAt right.1 > receivedAt left.1 then some right
    else if receivedAt right.1 < receivedAt left.1 then some left
    else if tokenIdentity left.1 ≠ tokenIdentity right.1 ∧ right.2.rank ≥ left.2.rank then
      some right
    else some left
  | some left, none => some left
  | none, some right => some right
  | none, none => none

def computeBackingStoreWarnings : Option StoredCredentials → Option StoredCredentials →
    List (List Char)
  | some _, none => ["token file mirror exists but keyring entry is missing".toList]
  | none, some _ => ["keyring entry exists but token file mirror is missing".toList]
  | some file, some keyring =>
    if receivedAt file ≠ receivedAt keyring ∨ tokenIdentity file ≠ tokenIdentity keyring then
      ["keyring entry and token file mirror disagree; using freshest persisted credentials".toList]
    else []
  | none, none => []

def remainingTokenLifetimeSecs (now : Nat) (credentials : StoredCredentials) : Option Nat :=
  credentials.tokenResponse.map fun tokenResponse =>
    tokenResponse.expiresIn.getD defaultTokenLifetimeSecs -
      (now - credentials.tokenReceivedAt.getD now)

def snapshotOf (platform : Platform) (credentials : StoredCredentials) (source : CredentialSource)
    (warnings : List (List Char)) : CredentialSnapshot :=
  { credentials := some credentials, source := some source.text
    tokenExpiresInSecs := remainingTokenLifetimeSecs platform.now credentials, warnings }

def emptySnapshot (warnings : List (List Char)) : CredentialSnapshot :=
  { credentials := none, source := none, tokenExpiresInSecs := none, warnings }

/-! ### The store

A function that may panic returns nothing where it does. -/

namespace Store

variable (tokensDir : List Char) (platform : Platform) (store : Store)

def bindVerifiedAuthority (issuer resource : List Char) : Store × Except (List Char) Unit :=
  let binding : CredentialBinding := ⟨issuer, resource⟩
  if (store.binding.any fun existing => existing ≠ binding) = true then
    (store, .error
      "stored OAuth credentials are bound to a different issuer or resource".toList)
  else ({ store with binding := some binding }, .ok ())

def decodeCredentials : Content → Store × Option StoredCredentials
  | .record (.legacy credentials) => ({ store with unboundLegacyLoaded := true }, some credentials)
  | .record (.bound envelope) =>
    if envelope.version ≠ credentialEnvelopeVersion then (store, none)
    else if (store.binding.any fun expected => expected ≠ envelope.binding) = true then
      (store, none)
    else ({ store with binding := some envelope.binding }, some envelope.credentials)
  | .invalid => (store, none)

def rawFile : Option Content :=
  match tokenFilePath tokensDir store.serverName with
  | .error _ => none
  | .ok _ => store.tokenFile

def rawKeyring : Option Content := if platform.keyring then store.keyringEntry else none

/-- `file_load` or `keyring_load`, for what was read. -/
def decoded : Option Content → Store × Option StoredCredentials
  | none => (store, none)
  | some content => store.decodeCredentials content

def fileLoad : Store × Option StoredCredentials := store.decoded (store.rawFile tokensDir)

def keyringLoad : Store × Option StoredCredentials := store.decoded (store.rawKeyring platform)

def updateCache (credentials : StoredCredentials) : Store :=
  { store with
    cache := credentials.tokenResponse.map fun tokenResponse =>
      { credentials
        tokenReceivedAt := credentials.tokenReceivedAt.getD platform.now
        expiresIn := tokenResponse.expiresIn } }

def cachedCredentials : Option StoredCredentials := store.cache.map CachedCredentials.credentials

/-- A bound record needs a generation. -/
def credentialEnvelope (credentials : StoredCredentials) (generation : Option Nat) :
    Option (PersistedCredentialEnvelope StoredCredentials) :=
  match store.binding with
  | some binding => generation.map fun generation =>
      .bound ⟨credentialEnvelopeVersion, generation, binding, credentials⟩
  | none => some (.legacy credentials)

def fileSaveGeneration (credentials : StoredCredentials) (generation : Option Nat) :
    Option (Store × Except (List Char) Unit) :=
  match tokenFilePath tokensDir store.serverName with
  | .error error => some (store, .error error)
  | .ok _ => (store.credentialEnvelope credentials generation).map fun envelope =>
      (if platform.fileWritten then { store with tokenFile := some (.record envelope) } else store,
        reported platform.fileError)

def keyringSaveGeneration (credentials : StoredCredentials) (generation : Option Nat) :
    Option (Store × Except (List Char) Unit) :=
  if platform.keyring then
    (store.credentialEnvelope credentials generation).map fun envelope =>
      match platform.keyringError with
      | some error => (store, .error ("keyring credential save failed: ".toList ++ error))
      | none => ({ store with keyringEntry := some (.record envelope) }, .ok ())
  else some (store, .error "keyring entry is unavailable".toList)

def withCredentialWriteLock (operation : Store → Option (Store × Except (List Char) Unit)) :
    Option (Store × Except (List Char) Unit) :=
  match credentialWriteLockPath tokensDir store.serverName with
  | .error error => some (store, .error error)
  | .ok _ =>
    match platform.lockError with
    | some error => some (store, .error error)
    | none => (operation store).map fun (next, result) =>
        match result with
        | .error error => (next, .error error)
        | .ok () => (next, reported platform.unlockError)

def saveCredentialPair (credentials : StoredCredentials) :
    Option (Store × Except (List Char) Unit) :=
  store.withCredentialWriteLock tokensDir platform fun store =>
    (store.fileSaveGeneration tokensDir platform credentials (some platform.generation)).bind
      fun (next, result) =>
        match result with
        | .error error => some (next, .error error)
        | .ok () => next.keyringSaveGeneration platform credentials (some platform.generation)

def migrateLoadedLegacyCredentials (credentials : StoredCredentials) :
    Option (Store × Except (List Char) Unit) :=
  if store.unboundLegacyLoaded then
    let store := { store with unboundLegacyLoaded := false }
    (store.saveCredentialPair tokensDir platform credentials).map fun (next, result) =>
      match result with
      | .error error => (next, .error error)
      | .ok () => (next.updateCache platform credentials, .ok ())
  else some (store, .ok ())

def probeBoundPair : Store × BoundPairProbe StoredCredentials :=
  match (store.rawFile tokensDir).bind Content.envelope with
  | some (.bound file) =>
    match probeKeyring store.binding file
        ((store.rawKeyring platform).bind Content.envelope) with
    | .valid credentials =>
      ({ store with binding := some file.binding }.updateCache platform file.credentials,
        .valid credentials)
    | other => (store, other)
  | _ => (store, .notBound)

def runtimeAuthSnapshot : Option (Store × CredentialSnapshot) :=
  let cached := store.cachedCredentials
  let (store, persistedFile) := store.fileLoad tokensDir
  match chooseFresherCredentials (cached.map fun credentials => (credentials, .cache))
      (persistedFile.map fun credentials => (credentials, .file)) with
  | some (credentials, .cache) => some (store, snapshotOf platform credentials .cache [])
  | some (credentials, .file) =>
    some (store.updateCache platform credentials, snapshotOf platform credentials .file [])
  -- unreachable!("keyring is not considered here")
  | some (_, .keyring) => none
  | none => some (store, emptySnapshot [])

def fallbackAuthSnapshot : Option (Store × CredentialSnapshot) :=
  (store.runtimeAuthSnapshot tokensDir platform).map fun (store, runtime) =>
    if runtime.credentials.isSome then (store, runtime)
    else
      let (store, persistedKeyring) := store.keyringLoad platform
      let warnings := computeBackingStoreWarnings none persistedKeyring
      match persistedKeyring with
      | some credentials =>
        (store.updateCache platform credentials, snapshotOf platform credentials .keyring warnings)
      | none => (store, emptySnapshot warnings)

/-- The keyring's credentials are put into a file that does not hold them. -/
def mendFile (persistedFile : Option StoredCredentials) (credentials : StoredCredentials)
    (source : CredentialSource) : Option Store :=
  if source = .keyring ∧
      (persistedFile.all fun file => !persistedCredentialsMatch file credentials) = true then
    (store.fileSaveGeneration tokensDir platform credentials none).map Prod.fst
  else some store

def credentialSnapshot : Option (Store × CredentialSnapshot) :=
  let cached := store.cachedCredentials
  let (store, persistedFile) := store.fileLoad tokensDir
  let (store, persistedKeyring) := store.keyringLoad platform
  let freshest := chooseFresherCredentials (cached.map fun credentials => (credentials, .cache))
    (chooseFresherCredentials (persistedFile.map fun credentials => (credentials, .file))
      (persistedKeyring.map fun credentials => (credentials, .keyring)))
  let warnings := computeBackingStoreWarnings persistedFile persistedKeyring
  match freshest with
  | some (credentials, .cache) => some (store, snapshotOf platform credentials .cache warnings)
  | some (credentials, source) =>
    (store.mendFile tokensDir platform persistedFile credentials source).map fun store =>
      (store.updateCache platform credentials, snapshotOf platform credentials source warnings)
  | none => some (store, emptySnapshot warnings)

def load : Option (Store × Except (List Char) (Option StoredCredentials)) :=
  match store.probeBoundPair tokensDir platform with
  | (store, .valid credentials) => some (store, .ok (some credentials))
  | (store, .invalid) => some (store, .ok none)
  | (store, .notBound) =>
    (store.fallbackAuthSnapshot tokensDir platform).bind fun (store, snapshot) =>
      match snapshot.credentials with
      | some credentials =>
        if snapshot.source = some "keyring".toList then
          if store.binding.isSome then
            (store.migrateLoadedLegacyCredentials tokensDir platform credentials).map
              fun (store, result) => (store, result.map fun _ => some credentials)
          else
            (store.fileSaveGeneration tokensDir platform credentials none).map
              fun (store, _) => (store, .ok (some credentials))
        else some (store, .ok (some credentials))
      | none => some (store, .ok none)

def save (credentials : StoredCredentials) : Option (Store × Except (List Char) Unit) :=
  let saved :=
    if store.binding.isSome then store.saveCredentialPair tokensDir platform credentials
    else
      (store.fileSaveGeneration tokensDir platform credentials none).bind fun (store, result) =>
        match result with
        | .error error => some (store, .error error)
        | .ok () =>
          (store.keyringSaveGeneration platform credentials none).map fun (store, result) =>
            match result with
            | .error _ => (store, .error "keyring credential save failed".toList)
            | .ok () => (store, .ok ())
  saved.map fun (store, result) =>
    match result with
    | .error error => (store, .error error)
    | .ok () => (store.updateCache platform credentials, .ok ())

def clear : Store :=
  { store with
    keyringEntry := if platform.keyring ∧ platform.keyringCleared then none else store.keyringEntry
    tokenFile := if platform.fileCleared then none else store.tokenFile
    cache := none }

end Store

/-! ### Runs -/

/-- `replaced` is what another process, or a person, leaves in the two places. -/
inductive Act where
  | bindVerifiedAuthority (issuer resource : List Char)
  | load (platform : Platform)
  | save (credentials : StoredCredentials) (platform : Platform)
  | runtimeAuthSnapshot (platform : Platform)
  | fallbackAuthSnapshot (platform : Platform)
  | credentialSnapshot (platform : Platform)
  | clear (platform : Platform)
  | replaced (tokenFile keyringEntry : Option Content)
deriving DecidableEq

/-- A call that panics leaves no store. -/
def Store.step (tokensDir : List Char) (store : Store) : Act → Option Store
  | .bindVerifiedAuthority issuer resource =>
    some (store.bindVerifiedAuthority issuer resource).1
  | .load platform => (store.load tokensDir platform).map Prod.fst
  | .save credentials platform => (store.save tokensDir platform credentials).map Prod.fst
  | .runtimeAuthSnapshot platform => (store.runtimeAuthSnapshot tokensDir platform).map Prod.fst
  | .fallbackAuthSnapshot platform => (store.fallbackAuthSnapshot tokensDir platform).map Prod.fst
  | .credentialSnapshot platform => (store.credentialSnapshot tokensDir platform).map Prod.fst
  | .clear platform => some (store.clear platform)
  | .replaced tokenFile keyringEntry => some { store with tokenFile, keyringEntry }

/-! ### When a call panics -/

/-- Credentials are taken before those of a source that comes earlier. -/
def Newer (credentials earlier : StoredCredentials) : Prop :=
  receivedAt earlier < receivedAt credentials ∨
    receivedAt earlier = receivedAt credentials ∧
      tokenIdentity earlier ≠ tokenIdentity credentials

instance (credentials earlier : StoredCredentials) : Decidable (Newer credentials earlier) :=
  inferInstanceAs (Decidable (_ ∨ _))

/-- The credentials of a record for a store that is bound so. -/
def usable (binding : Option CredentialBinding) : Content → Option StoredCredentials
  | .record (.legacy credentials) => some credentials
  | .record (.bound envelope) =>
    if envelope.version = credentialEnvelopeVersion ∧
        binding.all (fun expected => expected = envelope.binding) = true then
      some envelope.credentials
    else none
  | .invalid => none

/-- What a store that is bound so is bound to when it has read the record. -/
def boundBy (binding : Option CredentialBinding) : Content → Option CredentialBinding
  | .record (.bound envelope) =>
    if envelope.version = credentialEnvelopeVersion then binding.or (some envelope.binding)
    else binding
  | _ => binding

/-- The credentials in the keyring are newer than those in the token file and in the cache, and
one of the records that are read is bound, or the store already is. -/
def MendsBound (tokensDir : List Char) (platform : Platform) (store : Store) : Prop :=
  (tokenFilePath tokensDir store.serverName).toBool = true ∧
    let afterFile := ((store.rawFile tokensDir).map (boundBy store.binding)).getD store.binding
    ∃ content ∈ store.rawKeyring platform, ∃ credentials ∈ usable afterFile content,
      (boundBy afterFile content).isSome = true ∧
        (∀ file ∈ (store.rawFile tokensDir).bind (usable store.binding),
          Newer credentials file) ∧
        ∀ cached ∈ store.cachedCredentials, Newer credentials cached

/-- The call is no snapshot that compares the two places while they are so. -/
def Sound (tokensDir : List Char) (store : Store) : Act → Prop
  | .credentialSnapshot platform => ¬ MendsBound tokensDir platform store
  | _ => True

/-! ### Reading -/

section Calls

variable {tokensDir : List Char} {platform : Platform} {store : Store}
  {credentials : StoredCredentials} {generation : Option Nat}

/-- What reading a record changes is the binding and the note of a legacy record. -/
theorem decoded_eq (store : Store) (raw : Option Content) :
    ∃ noted, store.decoded raw =
      ({ store with
          binding := (raw.map (boundBy store.binding)).getD store.binding
          unboundLegacyLoaded := noted },
        raw.bind (usable store.binding)) := by
  cases raw with
  | none => exact ⟨store.unboundLegacyLoaded, rfl⟩
  | some content =>
    match content with
    | .invalid => exact ⟨store.unboundLegacyLoaded, rfl⟩
    | .record (.legacy credentials) => exact ⟨true, rfl⟩
    | .record (.bound envelope) =>
      refine ⟨store.unboundLegacyLoaded, ?_⟩
      simp only [Store.decoded, Store.decodeCredentials, Option.map_some, Option.getD_some,
        Option.bind_some, boundBy, usable]
      by_cases version : envelope.version = credentialEnvelopeVersion
      · rw [if_neg (not_not.mpr version), if_pos version]
        obtain ⟨name, cache, binding, noted, file, entry⟩ := store
        cases binding with
        | none => simp [version]
        | some binding =>
          by_cases same : binding = envelope.binding
          · simp [version, same]
          · simp [version, same]
      · simp [version]

/-! ### Writing -/

theorem credentialEnvelope_eq_none :
    store.credentialEnvelope credentials generation = none ↔
      store.binding.isSome = true ∧ generation = none := by
  unfold Store.credentialEnvelope
  cases store.binding with
  | none => simp
  | some binding => simp

/-- A file is not written only where the store is bound and there is no generation. -/
theorem fileSaveGeneration_eq_none :
    store.fileSaveGeneration tokensDir platform credentials generation = none ↔
      (tokenFilePath tokensDir store.serverName).toBool = true ∧
        store.binding.isSome = true ∧ generation = none := by
  unfold Store.fileSaveGeneration
  cases tokenFilePath tokensDir store.serverName with
  | error error => simp [Except.toBool]
  | ok path => simp only [Option.map_eq_none_iff, credentialEnvelope_eq_none, Except.toBool, true_and]

theorem fileSaveGeneration_kept {next : Store} {result : Except (List Char) Unit}
    (saved : store.fileSaveGeneration tokensDir platform credentials generation =
      some (next, result)) : next.binding = store.binding := by
  unfold Store.fileSaveGeneration at saved
  split at saved
  · cases saved
    rfl
  · obtain ⟨envelope, -, pair⟩ := Option.map_eq_some_iff.mp saved
    cases pair
    split <;> rfl

theorem keyringSaveGeneration_isSome (ready : generation = none → store.binding = none) :
    (store.keyringSaveGeneration platform credentials generation).isSome = true := by
  unfold Store.keyringSaveGeneration
  split
  · rw [Option.isSome_map, Option.isSome_iff_ne_none]
    intro panics
    obtain ⟨bound, missing⟩ := credentialEnvelope_eq_none.mp panics
    rw [ready missing] at bound
    cases bound
  · rfl

theorem fileSaveGeneration_isSome (ready : generation = none → store.binding = none) :
    (store.fileSaveGeneration tokensDir platform credentials generation).isSome = true := by
  rw [Option.isSome_iff_ne_none]
  intro panics
  obtain ⟨-, bound, missing⟩ := fileSaveGeneration_eq_none.mp panics
  rw [ready missing] at bound
  cases bound

/-- Both writes of a pair have its generation. -/
theorem saveCredentialPair_isSome :
    (store.saveCredentialPair tokensDir platform credentials).isSome = true := by
  unfold Store.saveCredentialPair Store.withCredentialWriteLock
  split
  · rfl
  · split
    · rfl
    · rw [Option.isSome_map]
      have ends : (store.fileSaveGeneration tokensDir platform credentials
          (some platform.generation)).isSome = true := fileSaveGeneration_isSome nofun
      obtain ⟨⟨next, result⟩, saved⟩ := Option.isSome_iff_exists.mp ends
      dsimp only
      rw [saved, Option.bind_some]
      cases result with
      | error error => rfl
      | ok done => exact keyringSaveGeneration_isSome nofun

theorem migrateLoadedLegacyCredentials_isSome :
    (store.migrateLoadedLegacyCredentials tokensDir platform credentials).isSome = true := by
  unfold Store.migrateLoadedLegacyCredentials
  split
  · rw [Option.isSome_map]
    exact saveCredentialPair_isSome
  · rfl

theorem save_isSome : (store.save tokensDir platform credentials).isSome = true := by
  unfold Store.save
  rw [Option.isSome_map]
  split
  · exact saveCredentialPair_isSome
  · next unbound =>
    have free : store.binding = none := Option.not_isSome_iff_eq_none.mp unbound
    have ends : (store.fileSaveGeneration tokensDir platform credentials none).isSome = true :=
      fileSaveGeneration_isSome fun _ => free
    obtain ⟨⟨next, result⟩, saved⟩ := Option.isSome_iff_exists.mp ends
    rw [saved, Option.bind_some]
    cases result with
    | error error => rfl
    | ok done =>
      dsimp only
      rw [Option.isSome_map]
      exact keyringSaveGeneration_isSome fun _ => (fileSaveGeneration_kept saved).trans free

theorem mendFile_eq_none {file : Option StoredCredentials} {source : CredentialSource} :
    store.mendFile tokensDir platform file credentials source = none ↔
      source = .keyring ∧
        (file.all fun file => !persistedCredentialsMatch file credentials) = true ∧
          (tokenFilePath tokensDir store.serverName).toBool = true ∧
            store.binding.isSome = true := by
  unfold Store.mendFile
  split
  · next mends =>
    simp only [Option.map_eq_none_iff, fileSaveGeneration_eq_none, mends, and_true, true_and]
  · next spared =>
    constructor
    · intro panics
      cases panics
    · rintro ⟨keyring, unmatched, -⟩
      exact absurd ⟨keyring, unmatched⟩ spared

/-! ### Choosing -/

/-- Among two sources the later one is chosen exactly if its credentials are newer. -/
theorem chooseFresherCredentials_later {lhs : Option (StoredCredentials × CredentialSource)}
    {right : StoredCredentials × CredentialSource}
    (later : ∀ left ∈ lhs, left.2.rank ≤ right.2.rank) :
    chooseFresherCredentials lhs (some right) =
      if ∀ left ∈ lhs, Newer right.1 left.1 then some right else lhs := by
  cases lhs with
  | none => simp [chooseFresherCredentials]
  | some left =>
    have rank := later left rfl
    simp only [chooseFresherCredentials, Option.mem_some_iff, forall_eq', Newer]
    rcases Nat.lt_trichotomy (receivedAt left.1) (receivedAt right.1) with older | same | newer
    · rw [if_pos older, if_pos (Or.inl older)]
    · by_cases identity : tokenIdentity left.1 = tokenIdentity right.1
      · simp [same, identity]
      · simp [same, identity, rank]
    · have settled : ¬ (receivedAt left.1 < receivedAt right.1 ∨
          receivedAt left.1 = receivedAt right.1 ∧ tokenIdentity left.1 ≠ tokenIdentity right.1) := by
        omega
      rw [if_neg (by omega), if_pos newer, if_neg settled]

theorem chooseFresherCredentials_none (lhs : Option (StoredCredentials × CredentialSource)) :
    chooseFresherCredentials lhs none = lhs := by
  cases lhs <;> rfl

/-- The keyring is not chosen of the other two. -/
theorem chooseFresherCredentials_ne_keyring {cached file : Option StoredCredentials} :
    chooseFresherCredentials (cached.map fun credentials => (credentials, .cache))
        (file.map fun credentials => (credentials, .file)) ≠ some (credentials, .keyring) := by
  intro chosen
  cases file with
  | none =>
    rw [Option.map_none, chooseFresherCredentials_none] at chosen
    obtain ⟨earlier, -, pair⟩ := Option.map_eq_some_iff.mp chosen
    cases pair
  | some mirror =>
    rw [Option.map_some, chooseFresherCredentials_later] at chosen
    · split at chosen
      · cases chosen
      · obtain ⟨earlier, -, pair⟩ := Option.map_eq_some_iff.mp chosen
        cases pair
    · intro left member
      obtain ⟨earlier, -, rfl⟩ := Option.map_eq_some_iff.mp member
      exact Nat.zero_le _

theorem runtimeAuthSnapshot_isSome :
    (store.runtimeAuthSnapshot tokensDir platform).isSome = true := by
  unfold Store.runtimeAuthSnapshot
  dsimp only
  split
  · rfl
  · rfl
  · next credentials chosen => exact absurd chosen chooseFresherCredentials_ne_keyring
  · rfl

theorem fallbackAuthSnapshot_isSome :
    (store.fallbackAuthSnapshot tokensDir platform).isSome = true := by
  unfold Store.fallbackAuthSnapshot
  rw [Option.isSome_map]
  exact runtimeAuthSnapshot_isSome

/-- A load writes without a generation only into a store that is not bound. -/
theorem load_isSome : (store.load tokensDir platform).isSome = true := by
  unfold Store.load
  split
  · rfl
  · rfl
  · next store' probed =>
    have ends : (store'.fallbackAuthSnapshot tokensDir platform).isSome = true :=
      fallbackAuthSnapshot_isSome
    obtain ⟨⟨next, snapshot⟩, fallen⟩ := Option.isSome_iff_exists.mp ends
    rw [fallen, Option.bind_some]
    dsimp only
    split
    · split
      · split
        · rw [Option.isSome_map]
          exact migrateLoadedLegacyCredentials_isSome
        · next unbound =>
          rw [Option.isSome_map]
          exact fileSaveGeneration_isSome fun _ => Option.not_isSome_iff_eq_none.mp unbound
      · rfl
    · rfl

/-- The keyring's credentials are chosen of the three exactly if they are newer than both the
file's and the cached ones. -/
theorem keyring_chosen {cached file keyring : Option StoredCredentials} :
    chooseFresherCredentials (cached.map fun credentials => (credentials, .cache))
        (chooseFresherCredentials (file.map fun credentials => (credentials, .file))
          (keyring.map fun credentials => (credentials, .keyring))) =
        some (credentials, .keyring) ↔
      keyring = some credentials ∧ (∀ other ∈ file, Newer credentials other) ∧
        ∀ other ∈ cached, Newer credentials other := by
  cases keyring with
  | none =>
    rw [Option.map_none, chooseFresherCredentials_none]
    constructor
    · intro chosen
      exact absurd chosen chooseFresherCredentials_ne_keyring
    · rintro ⟨found, -⟩
      cases found
  | some entry =>
    have pairs {earlier : Option StoredCredentials} {source : CredentialSource} :
        (∀ left ∈ earlier.map fun credentials => (credentials, source), Newer entry left.1) ↔
          ∀ other ∈ earlier, Newer entry other := by
      cases earlier <;> simp
    have ranked {earlier : Option StoredCredentials} {source : CredentialSource} :
        ∀ left ∈ earlier.map fun credentials => (credentials, source),
          left.2.rank ≤ CredentialSource.rank .keyring := by
      intro left member
      obtain ⟨other, -, rfl⟩ := Option.map_eq_some_iff.mp member
      cases source <;> simp [CredentialSource.rank]
    rw [Option.map_some, chooseFresherCredentials_later ranked]
    simp only [pairs]
    by_cases newer : ∀ other ∈ file, Newer entry other
    · rw [if_pos newer, chooseFresherCredentials_later ranked]
      simp only [pairs]
      by_cases newest : ∀ other ∈ cached, Newer entry other
      · rw [if_pos newest]
        constructor
        · intro chosen
          cases chosen
          exact ⟨rfl, newer, newest⟩
        · rintro ⟨found, -⟩
          cases found
          rfl
      · rw [if_neg newest]
        constructor
        · intro chosen
          obtain ⟨other, -, pair⟩ := Option.map_eq_some_iff.mp chosen
          cases pair
        · rintro ⟨found, -, newerThanCached⟩
          cases found
          exact absurd newerThanCached newest
    · rw [if_neg newer]
      constructor
      · intro chosen
        exact absurd chosen chooseFresherCredentials_ne_keyring
      · rintro ⟨found, newerThanFile, -⟩
        cases found
        exact absurd newerThanFile newer

/-- Newer credentials are not those of the file. -/
theorem Newer.unmatched {earlier : StoredCredentials} (newer : Newer credentials earlier) :
    persistedCredentialsMatch earlier credentials = false := by
  rw [persistedCredentialsMatch, decide_eq_false_iff_not]
  rintro ⟨received, identity⟩
  rcases newer with older | ⟨-, other⟩
  · rw [receivedAt, receivedAt, received] at older
    exact lt_irrefl _ older
  · exact other identity

/-- A snapshot panics exactly when it writes the keyring's credentials into the file of a store
that is bound by then. -/
theorem credentialSnapshot_eq_none :
    store.credentialSnapshot tokensDir platform = none ↔ MendsBound tokensDir platform store := by
  obtain ⟨notedFile, readFile⟩ := decoded_eq store (store.rawFile tokensDir)
  unfold Store.credentialSnapshot MendsBound Store.fileLoad
  rw [readFile]
  dsimp only
  generalize ((store.rawFile tokensDir).map (boundBy store.binding)).getD store.binding = afterFile
  generalize (store.rawFile tokensDir).bind (usable store.binding) = file
  obtain ⟨notedKeyring, readKeyring⟩ := decoded_eq
    { store with binding := afterFile, unboundLegacyLoaded := notedFile }
    (store.rawKeyring platform)
  have sameEntry : Store.rawKeyring platform
      { store with binding := afterFile, unboundLegacyLoaded := notedFile } =
        store.rawKeyring platform := rfl
  unfold Store.keyringLoad
  rw [sameEntry, readKeyring]
  dsimp only
  constructor
  · intro panics
    split at panics
    · cases panics
    · next credentials source later chosen =>
      obtain ⟨rfl, -, path, bound⟩ := mendFile_eq_none.mp (Option.map_eq_none_iff.mp panics)
      obtain ⟨found, newerThanFile, newerThanCached⟩ := keyring_chosen.mp chosen
      obtain ⟨content, present, offered⟩ := Option.bind_eq_some_iff.mp found
      rw [present, Option.map_some, Option.getD_some] at bound
      exact ⟨path, content, present, credentials, offered, bound, newerThanFile, newerThanCached⟩
    · cases panics
  · rintro ⟨path, content, present, credentials, offered, bound, newerThanFile, newerThanCached⟩
    have chosen := keyring_chosen.mpr
      ⟨Option.bind_eq_some_iff.mpr ⟨content, present, offered⟩, newerThanFile, newerThanCached⟩
    rw [chosen]
    dsimp only
    rw [Option.map_eq_none_iff, mendFile_eq_none]
    refine ⟨rfl, ?_, path, ?_⟩
    · cases file with
      | none => rfl
      | some mirror => rw [Option.all_some, (newerThanFile mirror rfl).unmatched, Bool.not_false]
    · rw [present]
      exact bound

/-- No other call panics. -/
theorem step_isSome_iff (store : Store) (act : Act) :
    (store.step tokensDir act).isSome = true ↔ Sound tokensDir store act := by
  cases act with
  | bindVerifiedAuthority issuer resource => exact iff_of_true rfl trivial
  | load platform => exact iff_of_true (Option.isSome_map.trans load_isSome) trivial
  | save credentials platform => exact iff_of_true (Option.isSome_map.trans save_isSome) trivial
  | runtimeAuthSnapshot platform =>
    exact iff_of_true (Option.isSome_map.trans runtimeAuthSnapshot_isSome) trivial
  | fallbackAuthSnapshot platform =>
    exact iff_of_true (Option.isSome_map.trans fallbackAuthSnapshot_isSome) trivial
  | credentialSnapshot platform =>
    rw [Store.step, Option.isSome_map, Option.isSome_iff_ne_none, Ne, credentialSnapshot_eq_none,
      Sound]
  | clear platform => exact iff_of_true rfl trivial
  | replaced tokenFile keyringEntry => exact iff_of_true rfl trivial

end Calls

/-- From whatever stands in the two places, a sequence of calls comes to its end without a panic
exactly if no snapshot that compares the places mends the file of a store that is bound. -/
theorem completes_iff_sound (tokensDir serverName : List Char)
    (tokenFile keyringEntry : Option Content) (trace : List Act) :
    (Runs.exec (Store.step tokensDir) (.new serverName tokenFile keyringEntry) trace).isSome = true ↔
      Runs.Admitted (Store.step tokensDir) (Sound tokensDir)
        (.new serverName tokenFile keyringEntry) trace :=
  Runs.exec_isSome_iff step_isSome_iff trace _

def quietPlatform : Platform :=
  { now := 1000, generation := 7, keyring := true, lockError := none, unlockError := none
    fileWritten := true, fileError := none, keyringError := none, fileCleared := true
    keyringCleared := true }

/-- The keyring's part of a bound pair is left, and a new store compares the two places. -/
theorem lost_file_panics :
    Runs.exec (Store.step "/tokens".toList)
      (.new "github".toList none (some (.record (.bound
        ⟨2, 7, ⟨"https://issuer/".toList, "https://mcp/".toList⟩,
          ⟨"client".toList, some ⟨"token".toList, none, none⟩, [], some 900⟩⟩))))
      [.credentialSnapshot quietPlatform] = none := by
  decide

end Plug.CredentialCalls
