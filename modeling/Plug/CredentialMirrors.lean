import Mathlib.Data.List.Nodup
import Mathlib.Logic.Function.Basic
import Plug.Runs

/-!
# The two mirrors of upstream credentials

Bound credentials are stored in a file and in the keyring of the system, each time under a new
generation. A save writes the one and then the other under a lock. A reader reads the one and then
the other without it, and takes the credentials only if both agree. The credentials of one server
are saved here by one process and read by another, whose reads run side by side.
-/

namespace Plug.CredentialMirrors

structure CredentialBinding where
  issuer : List Char
  resource : List Char
deriving DecidableEq

variable {Credentials : Type}

structure BoundCredentialEnvelope (Credentials : Type) where
  version : Nat
  generation : Nat
  binding : CredentialBinding
  credentials : Credentials
deriving DecidableEq

inductive PersistedCredentialEnvelope (Credentials : Type) where
  | bound (envelope : BoundCredentialEnvelope Credentials)
  | legacy (credentials : Credentials)
deriving DecidableEq

inductive BoundPairProbe (Credentials : Type) where
  | notBound
  | valid (credentials : Credentials)
  | invalid
deriving DecidableEq

def credentialEnvelopeVersion : Nat := 2

/-- What the reader makes of the keyring when the file holds a bound envelope. -/
def probeKeyring [DecidableEq Credentials] (expected : Option CredentialBinding)
    (file : BoundCredentialEnvelope Credentials) :
    Option (PersistedCredentialEnvelope Credentials) → BoundPairProbe Credentials
  | some (.bound keyring) =>
    if file.version ≠ credentialEnvelopeVersion ∨ keyring.version ≠ credentialEnvelopeVersion ∨
        file.generation ≠ keyring.generation ∨ file.binding ≠ keyring.binding ∨
        (expected.any fun binding => binding ≠ file.binding) = true ∨
        file.credentials ≠ keyring.credentials then
      .invalid
    else .valid file.credentials
  | _ => .invalid

/-! ### Reads and saves -/

/-- `tokenFor` has the configured resource in its canonical form. -/
inductive Request where
  | load
  | verifiedBoundCredentials
  | tokenFor (resource : List Char)
deriving DecidableEq

/-- What a read is to do next. `place` says which save the file was read from. -/
inductive Stage (Credentials : Type) where
  | peek (resource : List Char)
  | file
  | keyring (file : BoundCredentialEnvelope Credentials) (place : Nat)
  /-- The file holds no bound envelope, and `load` looks elsewhere. -/
  | fallback
deriving DecidableEq

def Request.begins : Request → Stage Credentials
  | .tokenFor resource => .peek resource
  | _ => .file

/-- `first` is the save that was in both places when the read began. -/
structure Reading (Credentials : Type) where
  request : Request
  stage : Stage Credentials
  first : Nat
deriving DecidableEq

/-- A read that has ended, with the credentials it found; `last` is the latest save that had
written the file by then. -/
structure Entry (Credentials : Type) where
  request : Request
  first : Nat
  last : Nat
  found : Option Credentials
deriving DecidableEq

/-- A save under the lock, which has written the file or not. -/
structure Saving (Credentials : Type) where
  envelope : BoundCredentialEnvelope Credentials
  fileWritten : Bool
deriving DecidableEq

/-- `binding` is what the reading process is bound to. `saved` are the envelopes that the file has
held, in order, and `mirrored` is the place of the keyring's among them. -/
structure State (Credentials : Type) where
  file : Option (PersistedCredentialEnvelope Credentials)
  keyring : Option (PersistedCredentialEnvelope Credentials)
  saving : Option (Saving Credentials)
  binding : Option CredentialBinding
  readings : Nat → Option (Reading Credentials)
  saved : List (BoundCredentialEnvelope Credentials)
  mirrored : Nat
  generations : List Nat
  log : List (Entry Credentials)

/-- A pair is stored, and the reading process knows its binding or none. -/
def State.new (authority : CredentialBinding) (known : Bool) (credentials : Credentials)
    (generation : Nat) : State Credentials :=
  let envelope := ⟨credentialEnvelopeVersion, generation, authority, credentials⟩
  { file := some (.bound envelope), keyring := some (.bound envelope), saving := none
    binding := if known then some authority else none
    readings := fun _ => none, saved := [envelope], mirrored := 0, generations := [generation]
    log := [] }

inductive Act (Credentials : Type) where
  /-- A save has got the lock; its generation is a new one. -/
  | lock (credentials : Credentials) (generation : Nat)
  | writeFile
  | writeKeyring
  | start (reader : Nat) (request : Request)
  | read (reader : Nat)
  | fallBack (reader : Nat) (found : Option Credentials)
deriving DecidableEq

def State.goesTo (state : State Credentials) (reader : Nat) (reading : Reading Credentials) :
    State Credentials :=
  { state with readings := Function.update state.readings reader (some reading) }

def State.answered (state : State Credentials) (reader : Nat) (reading : Reading Credentials)
    (found : Option Credentials) : State Credentials :=
  { state with
    readings := Function.update state.readings reader none
    log := state.log ++ [⟨reading.request, reading.first, state.saved.length - 1, found⟩] }

variable [DecidableEq Credentials]

/-- The next thing that a read does. -/
def State.goOn (state : State Credentials) (reader : Nat) (reading : Reading Credentials) :
    Option (State Credentials) :=
  match reading.stage with
  | .peek resource =>
    match state.file with
    | some (.bound envelope) =>
      if envelope.binding.resource ≠ resource then
        some { state.answered reader reading none with binding := none }
      else some (state.goesTo reader { reading with stage := .file })
    | _ => some (state.answered reader reading none)
  | .file =>
    match state.file with
    | some (.bound envelope) =>
      some (state.goesTo reader
        { reading with stage := .keyring envelope (state.saved.length - 1) })
    | _ =>
      if reading.request = .load then
        some (state.goesTo reader { reading with stage := .fallback })
      else some (state.answered reader reading none)
  | .keyring file _ =>
    match probeKeyring state.binding file state.keyring with
    | .valid credentials =>
      some { state.answered reader reading (some credentials) with binding := some file.binding }
    | _ => some (state.answered reader reading none)
  | .fallback => none

def step (authority : CredentialBinding) (state : State Credentials) :
    Act Credentials → Option (State Credentials)
  | .lock credentials generation =>
    if state.saving = none ∧ generation ∉ state.generations then
      some { state with
        saving := some
          ⟨⟨credentialEnvelopeVersion, generation, authority, credentials⟩, false⟩
        generations := generation :: state.generations }
    else none
  | .writeFile =>
    match state.saving with
    | some ⟨envelope, false⟩ =>
      some { state with
        file := some (.bound envelope)
        saving := some ⟨envelope, true⟩
        saved := state.saved ++ [envelope] }
    | _ => none
  | .writeKeyring =>
    match state.saving with
    | some ⟨envelope, true⟩ =>
      some { state with
        keyring := some (.bound envelope)
        saving := none
        mirrored := state.mirrored + 1 }
    | _ => none
  | .start reader request =>
    match state.readings reader with
    | none => some (state.goesTo reader ⟨request, request.begins, state.mirrored⟩)
    | some _ => none
  | .read reader => (state.readings reader).bind fun reading => state.goOn reader reading
  | .fallBack reader found =>
    match state.readings reader with
    | some reading =>
      if reading.stage = .fallback then some (state.answered reader reading found) else none
    | none => none

/-! ### What a read should find -/

/-- The read asks for credentials that the authority's are. -/
def Request.asksFor (request : Request) (authority : CredentialBinding) : Prop :=
  ∀ resource, request = .tokenFor resource → authority.resource = resource

/-- The read found a pair that was whole when it began, or has been stored since. -/
def Entry.Whole (entry : Entry Credentials) (authority : CredentialBinding)
    (saved : List (BoundCredentialEnvelope Credentials)) : Prop :=
  entry.request.asksFor authority →
    ∃ place envelope, entry.first ≤ place ∧ place ≤ entry.last ∧
      saved[place]? = some envelope ∧ entry.found = some envelope.credentials

/-- A read that has its envelope of the file finds the keyring's of the same save. -/
def Together (state : State Credentials) : Act Credentials → Prop
  | .read reader => ∀ reading file place, state.readings reader = some reading →
    reading.stage = .keyring file place → place = state.mirrored
  | _ => True

/-! ### What a run keeps -/

variable {place : Nat}

omit [DecidableEq Credentials] in
/-- What was saved stays at its place. -/
theorem place_append {saved : List (BoundCredentialEnvelope Credentials)}
    {envelope : BoundCredentialEnvelope Credentials} (present : saved[place]? = some envelope)
    (next : BoundCredentialEnvelope Credentials) : (saved ++ [next])[place]? = some envelope := by
  have inside := (List.getElem?_eq_some_iff.mp present).1
  rw [List.getElem?_append_left inside]
  exact present

/-- An envelope that a save makes: of this version, for the authority, with a generation drawn. -/
structure Made (authority : CredentialBinding) (generations : List Nat)
    (envelope : BoundCredentialEnvelope Credentials) : Prop where
  version : envelope.version = credentialEnvelopeVersion
  binding : envelope.binding = authority
  drawn : envelope.generation ∈ generations

/-- Where a read stands. Past the peek it asks for the authority's credentials, and with an
envelope in hand it has one that was saved no earlier than the read began. -/
structure ReadingKept (authority : CredentialBinding)
    (saved : List (BoundCredentialEnvelope Credentials)) (mirrored : Nat)
    (reading : Reading Credentials) : Prop where
  first : reading.first ≤ mirrored
  peeks : ∀ resource, reading.stage = .peek resource → reading.request = .tokenFor resource
  asks : (∀ resource, reading.stage ≠ .peek resource) → reading.request.asksFor authority
  held : ∀ file place, reading.stage = .keyring file place →
    saved[place]? = some file ∧ reading.first ≤ place
  found : reading.stage ≠ .fallback

/-- The file holds the latest envelope and the keyring this one or the one before. -/
structure Mirrored (authority : CredentialBinding) (state : State Credentials) : Prop where
  bound : ∀ binding, state.binding = some binding → binding = authority
  made : ∀ envelope ∈ state.saved, Made authority state.generations envelope
  distinct : (state.saved.map BoundCredentialEnvelope.generation).Nodup
  file : ∃ envelope, state.file = some (.bound envelope) ∧
    state.saved[state.saved.length - 1]? = some envelope
  keyring : ∃ envelope, state.keyring = some (.bound envelope) ∧
    state.saved[state.mirrored]? = some envelope
  level : (∀ saving, state.saving = some saving → saving.fileWritten = false) →
    state.mirrored + 1 = state.saved.length
  begun : ∀ envelope, state.saving = some ⟨envelope, false⟩ →
    Made authority state.generations envelope ∧
      ∀ other ∈ state.saved, other.generation ≠ envelope.generation
  written : ∀ envelope, state.saving = some ⟨envelope, true⟩ →
    state.saved[state.mirrored + 1]? = some envelope ∧
      state.mirrored + 2 = state.saved.length
  readings : ∀ reader reading, state.readings reader = some reading →
    ReadingKept authority state.saved state.mirrored reading

/-- All reads that have ended were whole. -/
def ReadWhole (authority : CredentialBinding) (state : State Credentials) : Prop :=
  ∀ entry ∈ state.log, entry.Whole authority state.saved

omit [DecidableEq Credentials] in
theorem mirrored_new (authority : CredentialBinding) (known : Bool) (credentials : Credentials)
    (generation : Nat) : Mirrored authority (.new authority known credentials generation) where
  bound binding knows := by
    cases known with
    | true => exact (Option.some.inj knows).symm
    | false => cases knows
  made envelope member := by
    obtain rfl := List.mem_singleton.mp member
    exact ⟨rfl, rfl, List.mem_singleton_self generation⟩
  distinct := List.nodup_singleton generation
  file := ⟨_, rfl, rfl⟩
  keyring := ⟨_, rfl, rfl⟩
  level _ := rfl
  begun := nofun
  written := nofun
  readings := nofun

section Steps

variable {authority : CredentialBinding} {state next : State Credentials}
  {reading : Reading Credentials} {reader : Nat}

omit [DecidableEq Credentials] in
theorem Entry.Whole.append {entry : Entry Credentials}
    {saved : List (BoundCredentialEnvelope Credentials)} (whole : entry.Whole authority saved)
    (envelope : BoundCredentialEnvelope Credentials) :
    entry.Whole authority (saved ++ [envelope]) := by
  intro asks
  obtain ⟨place, held, first, last, present, found⟩ := whole asks
  exact ⟨place, held, first, last, place_append present envelope, found⟩

omit [DecidableEq Credentials] in
/-- Envelopes of two places differ in their generation. -/
theorem Mirrored.same_place (mirrored : Mirrored authority state) {other : Nat}
    {envelope further : BoundCredentialEnvelope Credentials}
    (first : state.saved[place]? = some envelope) (second : state.saved[other]? = some further)
    (same : envelope.generation = further.generation) : place = other := by
  have inside := (List.getElem?_eq_some_iff.mp first).1
  apply (List.getElem?_inj (by rwa [List.length_map]) mirrored.distinct).mp
  rw [List.getElem?_map, List.getElem?_map, first, second, Option.map_some, Option.map_some, same]

/-- The keyring agrees with an envelope of the file exactly if it is of the same save. -/
theorem Mirrored.probe (mirrored : Mirrored authority state)
    {file : BoundCredentialEnvelope Credentials} (held : state.saved[place]? = some file) :
    probeKeyring state.binding file state.keyring =
      if place = state.mirrored then .valid file.credentials else .invalid := by
  obtain ⟨envelope, keyring, present⟩ := mirrored.keyring
  have fileMade := mirrored.made file (List.mem_of_getElem? held)
  have keyringMade := mirrored.made envelope (List.mem_of_getElem? present)
  rw [keyring]
  by_cases same : place = state.mirrored
  · rw [if_pos same]
    have equal : file = envelope := by
      rw [same] at held
      exact Option.some.inj (held.symm.trans present)
    have known : (state.binding.any fun binding => binding ≠ file.binding) = false := by
      cases knows : state.binding with
      | none => rfl
      | some binding =>
        rw [Option.any_some, mirrored.bound binding knows, fileMade.binding]
        simp
    have agrees : ¬ (file.version ≠ credentialEnvelopeVersion ∨
        envelope.version ≠ credentialEnvelopeVersion ∨ file.generation ≠ envelope.generation ∨
        file.binding ≠ envelope.binding ∨
        (state.binding.any fun binding => binding ≠ file.binding) = true ∨
        file.credentials ≠ envelope.credentials) := by
      rw [known, ← equal]
      simp [fileMade.version]
    exact if_neg agrees
  · rw [if_neg same]
    have apart : file.generation ≠ envelope.generation := fun equal =>
      same (mirrored.same_place held present equal)
    exact if_pos (Or.inr (Or.inr (Or.inl apart)))

/-- What a read does when the mirrors are in order. -/
inductive Goes (authority : CredentialBinding) (state : State Credentials) (reader : Nat)
    (reading : Reading Credentials) : State Credentials → Prop where
  | otherResource (resource : List Char) (stage : reading.stage = .peek resource)
      (other : authority.resource ≠ resource) :
      Goes authority state reader reading { state.answered reader reading none with binding := none }
  | peeked (resource : List Char) (stage : reading.stage = .peek resource)
      (own : authority.resource = resource) :
      Goes authority state reader reading (state.goesTo reader { reading with stage := .file })
  | fileRead (stage : reading.stage = .file) (envelope : BoundCredentialEnvelope Credentials)
      (latest : state.saved[state.saved.length - 1]? = some envelope) :
      Goes authority state reader reading
        (state.goesTo reader { reading with stage := .keyring envelope (state.saved.length - 1) })
  | agreed (file : BoundCredentialEnvelope Credentials) (place : Nat)
      (stage : reading.stage = .keyring file place) (together : place = state.mirrored) :
      Goes authority state reader reading
        { state.answered reader reading (some file.credentials) with
          binding := some file.binding }
  | mismatched (file : BoundCredentialEnvelope Credentials) (place : Nat)
      (stage : reading.stage = .keyring file place) (apart : place ≠ state.mirrored) :
      Goes authority state reader reading (state.answered reader reading none)

theorem goes_of_goOn (mirrored : Mirrored authority state)
    (present : state.readings reader = some reading)
    (went : state.goOn reader reading = some next) :
    Goes authority state reader reading next := by
  have kept := mirrored.readings reader reading present
  obtain ⟨envelope, file, latest⟩ := mirrored.file
  have made := mirrored.made envelope (List.mem_of_getElem? latest)
  cases stage : reading.stage with
  | peek resource =>
    simp only [State.goOn, stage, file, made.binding] at went
    split at went
    · rename_i other
      exact Option.some.inj went ▸ .otherResource resource stage other
    · rename_i own
      exact Option.some.inj went ▸ .peeked resource stage (not_not.mp own)
  | file =>
    simp only [State.goOn, stage, file] at went
    exact Option.some.inj went ▸ .fileRead stage envelope latest
  | keyring file place =>
    have held := (kept.held file place stage).1
    simp only [State.goOn, stage, mirrored.probe held] at went
    by_cases together : place = state.mirrored
    · rw [if_pos together] at went
      exact Option.some.inj went ▸ .agreed file place stage together
    · rw [if_neg together] at went
      exact Option.some.inj went ▸ .mismatched file place stage together
  | fallback => exact absurd stage kept.found

omit [DecidableEq Credentials] in
theorem Mirrored.goesTo (mirrored : Mirrored authority state)
    (kept : ReadingKept authority state.saved state.mirrored reading) :
    Mirrored authority (state.goesTo reader reading) :=
  { mirrored with
    readings := by
      intro other further present
      by_cases same : other = reader
      · rw [same] at present
        change Function.update state.readings reader (some reading) reader = some further at present
        rw [Function.update_self] at present
        exact Option.some.inj present ▸ kept
      · change Function.update state.readings reader (some reading) other = some further at present
        rw [Function.update_of_ne same] at present
        exact mirrored.readings other further present }

omit [DecidableEq Credentials] in
theorem Mirrored.answered (mirrored : Mirrored authority state)
    {binding : Option CredentialBinding}
    (bound : ∀ known, binding = some known → known = authority) (found : Option Credentials) :
    Mirrored authority { state.answered reader reading found with binding := binding } :=
  { mirrored with
    bound := bound
    readings := by
      intro other further present
      by_cases same : other = reader
      · rw [same] at present
        change Function.update state.readings reader none reader = some further at present
        rw [Function.update_self] at present
        cases present
      · change Function.update state.readings reader none other = some further at present
        rw [Function.update_of_ne same] at present
        exact mirrored.readings other further present }

omit [DecidableEq Credentials] in
theorem ReadingKept.saves {saved : List (BoundCredentialEnvelope Credentials)}
    (kept : ReadingKept authority saved place reading)
    (envelope : BoundCredentialEnvelope Credentials) :
    ReadingKept authority (saved ++ [envelope]) place reading :=
  { kept with
    held := fun file other stage =>
      ⟨place_append (kept.held file other stage).1 envelope, (kept.held file other stage).2⟩ }

omit [DecidableEq Credentials] in
theorem Made.draws {generations : List Nat} {envelope : BoundCredentialEnvelope Credentials}
    (made : Made authority generations envelope) (generation : Nat) :
    Made authority (generation :: generations) envelope :=
  { made with drawn := List.mem_cons_of_mem generation made.drawn }

variable {act : Act Credentials}

theorem mirrored_step (mirrored : Mirrored authority state)
    (stepped : step authority state act = some next) : Mirrored authority next := by
  cases act with
  | lock credentials generation =>
    rw [step] at stepped
    split at stepped
    · rename_i free
      cases stepped
      exact
        { mirrored with
          made := fun envelope member => (mirrored.made envelope member).draws generation
          level := fun _ => mirrored.level fun saving held => by
            rw [free.1] at held
            cases held
          begun := by
            intro envelope held
            obtain ⟨rfl, -⟩ := Saving.mk.inj (Option.some.inj held)
            refine ⟨⟨rfl, rfl, List.mem_cons_self⟩, ?_⟩
            rintro other member rfl
            exact free.2 (mirrored.made other member).drawn
          written := fun envelope held =>
            absurd (Saving.mk.inj (Option.some.inj held)).2 Bool.false_ne_true }
    · cases stepped
  | writeFile =>
    simp only [step] at stepped
    split at stepped
    · rename_i envelope held
      cases stepped
      obtain ⟨made, distinct⟩ := mirrored.begun envelope held
      obtain ⟨earlier, keyring, present⟩ := mirrored.keyring
      have level := mirrored.level fun saving other => by
        rw [held] at other
        cases other
        rfl
      exact
        { bound := mirrored.bound
          made := by
            intro other member
            obtain before | new := List.mem_append.mp member
            · exact mirrored.made other before
            · exact List.mem_singleton.mp new ▸ made
          distinct := by
            rw [List.map_append, List.map_singleton]
            refine mirrored.distinct.append (List.nodup_singleton _) ?_
            intro generation before new
            obtain ⟨other, member, rfl⟩ := List.mem_map.mp before
            exact distinct other member (List.mem_singleton.mp new)
          file := ⟨envelope, rfl, by
            rw [List.length_append, List.length_singleton, Nat.add_sub_cancel,
              List.getElem?_concat_length]⟩
          keyring := ⟨earlier, keyring, place_append present envelope⟩
          level := fun unwritten => absurd (unwritten _ rfl) nofun
          begun := fun other same =>
            absurd (Saving.mk.inj (Option.some.inj same)).2.symm Bool.false_ne_true
          written := by
            intro other same
            obtain ⟨rfl, -⟩ := Saving.mk.inj (Option.some.inj same)
            change (state.saved ++ [envelope])[state.mirrored + 1]? = some envelope ∧
              state.mirrored + 2 = (state.saved ++ [envelope]).length
            rw [List.length_append, ← level, List.length_singleton]
            refine ⟨?_, rfl⟩
            rw [level, List.getElem?_concat_length]
          readings := fun reader reading present =>
            (mirrored.readings reader reading present).saves envelope }
    · cases stepped
  | writeKeyring =>
    simp only [step] at stepped
    split at stepped
    · rename_i envelope held
      cases stepped
      obtain ⟨present, length⟩ := mirrored.written envelope held
      exact
        { mirrored with
          keyring := ⟨envelope, rfl, present⟩
          level := fun _ => length
          begun := nofun
          written := nofun
          readings := fun reader reading stands =>
            let kept := mirrored.readings reader reading stands
            { kept with first := Nat.le_succ_of_le kept.first } }
    · cases stepped
  | start reader request =>
    rw [step] at stepped
    split at stepped
    · cases stepped
      refine mirrored.goesTo ?_
      cases request with
      | tokenFor resource =>
        refine ⟨Nat.le_refl _, ?_, fun past => absurd rfl (past resource), nofun, nofun⟩
        intro other stage
        exact congrArg Request.tokenFor (Stage.peek.inj stage)
      | _ => exact ⟨Nat.le_refl _, nofun, fun _ => nofun, nofun, nofun⟩
    · cases stepped
  | read reader =>
    obtain ⟨reading, present, went⟩ := Option.bind_eq_some_iff.mp stepped
    have kept := mirrored.readings reader reading present
    cases goes_of_goOn mirrored present went with
    | otherResource resource stage other =>
      refine mirrored.answered ?_ none
      intro known same
      cases same
    | peeked resource stage own =>
      refine mirrored.goesTo ⟨kept.first, nofun, ?_, nofun, nofun⟩
      intro _ other request
      rw [kept.peeks resource stage] at request
      exact own.trans (Request.tokenFor.inj request)
    | fileRead stage envelope latest =>
      refine mirrored.goesTo ⟨kept.first, nofun, fun _ => kept.asks ?_, ?_, nofun⟩
      · rw [stage]
        exact nofun
      · intro file place same
        obtain ⟨rfl, rfl⟩ := Stage.keyring.inj same
        have behind := (List.getElem?_eq_some_iff.mp mirrored.keyring.choose_spec.2).1
        exact ⟨latest, Nat.le_trans kept.first (Nat.le_sub_one_of_lt behind)⟩
    | agreed file place stage together =>
      refine mirrored.answered ?_ _
      intro known same
      have held := (kept.held file place stage).1
      rw [← Option.some.inj same]
      exact (mirrored.made file (List.mem_of_getElem? held)).binding
    | mismatched file place stage apart => exact mirrored.answered mirrored.bound none
  | fallBack reader found =>
    simp only [step] at stepped
    split at stepped
    · rename_i reading present
      split at stepped
      · rename_i stage
        exact absurd stage (mirrored.readings reader reading present).found
      · cases stepped
    · cases stepped

omit [DecidableEq Credentials] in
theorem ReadWhole.answered (whole : ReadWhole authority state) {found : Option Credentials}
    (ends : Entry.Whole ⟨reading.request, reading.first, state.saved.length - 1, found⟩ authority
      state.saved)
    (binding : Option CredentialBinding) :
    ReadWhole authority { state.answered reader reading found with binding := binding } := by
  intro entry member
  obtain before | new := List.mem_append.mp member
  · exact whole entry before
  · rw [List.mem_singleton.mp new]
    exact ends

theorem whole_step (mirrored : Mirrored authority state) (whole : ReadWhole authority state)
    (together : Together state act) (stepped : step authority state act = some next) :
    ReadWhole authority next := by
  cases act with
  | lock credentials generation =>
    rw [step] at stepped
    split at stepped
    · cases stepped
      exact whole
    · cases stepped
  | writeFile =>
    simp only [step] at stepped
    split at stepped
    · cases stepped
      exact fun entry member => (whole entry member).append _
    · cases stepped
  | writeKeyring =>
    simp only [step] at stepped
    split at stepped
    · cases stepped
      exact whole
    · cases stepped
  | start reader request =>
    rw [step] at stepped
    split at stepped
    · cases stepped
      exact whole
    · cases stepped
  | read reader =>
    obtain ⟨reading, present, went⟩ := Option.bind_eq_some_iff.mp stepped
    have kept := mirrored.readings reader reading present
    cases goes_of_goOn mirrored present went with
    | otherResource resource stage other =>
      refine whole.answered ?_ none
      intro asks
      exact absurd (asks resource (kept.peeks resource stage)) other
    | peeked resource stage own => exact whole
    | fileRead stage envelope latest => exact whole
    | agreed file place stage same =>
      refine whole.answered ?_ _
      intro asks
      obtain ⟨held, first⟩ := kept.held file place stage
      have inside := (List.getElem?_eq_some_iff.mp held).1
      exact ⟨place, file, first, Nat.le_sub_one_of_lt inside, held, rfl⟩
    | mismatched file place stage apart =>
      exact absurd (together reading file place present stage) apart
  | fallBack reader found =>
    simp only [step] at stepped
    split at stepped
    · rename_i reading present
      split at stepped
      · rename_i stage
        exact absurd stage (mirrored.readings reader reading present).found
      · cases stepped
    · cases stepped

/-- A read that meets the keyring of another save finds nothing. -/
theorem together_of_whole (mirrored : Mirrored authority state)
    (stepped : step authority state act = some next) (whole : ReadWhole authority next) :
    Together state act := by
  cases act with
  | read reader =>
    intro reading file place present stage
    obtain ⟨other, again, went⟩ := Option.bind_eq_some_iff.mp stepped
    obtain rfl : reading = other := Option.some.inj (present.symm.trans again)
    have kept := mirrored.readings reader reading present
    cases goes_of_goOn mirrored present went with
    | otherResource resource peek other =>
      rw [peek] at stage
      cases stage
    | peeked resource peek own =>
      rw [peek] at stage
      cases stage
    | fileRead begun envelope latest =>
      rw [begun] at stage
      cases stage
    | agreed envelope number held together =>
      rw [held] at stage
      obtain ⟨-, rfl⟩ := Stage.keyring.inj stage
      exact together
    | mismatched envelope number held apart =>
      have asks : reading.request.asksFor authority := kept.asks fun resource peek => by
        rw [peek] at stage
        cases stage
      obtain ⟨_, _, _, _, _, found⟩ :=
        whole _ (List.mem_append_right state.log (List.mem_singleton_self _)) asks
      cases found
  | _ => trivial

theorem together_of_refused (refused : step authority state act = none) : Together state act := by
  cases act with
  | read reader =>
    intro reading file place present stage
    simp only [step, present, Option.bind_some, State.goOn, stage] at refused
    split at refused <;> cases refused
  | _ => trivial

end Steps

/-- In every state of a run all reads that asked for the authority's credentials have found a pair
that was whole when they began or has been stored since, exactly if every read finds the keyring's
envelope of the save whose envelope it has read from the file. -/
theorem reads_whole_iff (authority : CredentialBinding) (known : Bool) (credentials : Credentials)
    (generation : Nat) (trace : List (Act Credentials)) :
    Runs.Admitted (step authority) Together (.new authority known credentials generation) trace ↔
      ∀ front final, front <+: trace →
        Runs.exec (step authority) (.new authority known credentials generation) front =
          some final →
        ∀ entry ∈ final.log, entry.Whole authority final.saved :=
  @Runs.admitted_iff_seen _ _ (step authority) Together
    (fun state => Mirrored authority state ∧ ReadWhole authority state) (ReadWhole authority)
    (fun _ _ _ together kept stepped =>
      ⟨mirrored_step kept.1 stepped, whole_step kept.1 kept.2 together stepped⟩)
    (fun _ _ _ kept stepped whole => together_of_whole kept.1 stepped whole)
    (fun _ kept => kept.2) (fun _ _ refused => together_of_refused refused) trace
    (.new authority known credentials generation)
    ⟨mirrored_new authority known credentials generation, fun _ member => nomatch member⟩

def mail : CredentialBinding := ⟨"https://issuer".toList, "https://mail".toList⟩

/-- The other process reads while a refreshed pair is in the file and not in the keyring yet. -/
def refreshed : List (Act String) :=
  [.lock "new" 2, .writeFile, .start 0 .verifiedBoundCredentials, .read 0, .read 0, .writeKeyring]

/-- It finds no credentials, though one pair was whole and the next one is now. -/
theorem split_pair : ∃ final,
    Runs.exec (step mail) (.new mail true "old" 1) refreshed = some final ∧
      final.log = [⟨.verifiedBoundCredentials, 0, 1, none⟩] ∧
      ¬ ∀ entry ∈ final.log, entry.Whole mail final.saved := by
  have shown : ((Runs.exec (step mail) (.new mail true "old" 1) refreshed).map State.log) =
      some [⟨.verifiedBoundCredentials, 0, 1, none⟩] := by
    decide +kernel
  obtain ⟨final, ran, log⟩ := Option.map_eq_some_iff.mp shown
  refine ⟨final, ran, log, ?_⟩
  rw [log]
  intro whole
  obtain ⟨_, _, _, _, _, found⟩ := whole _ (List.mem_singleton_self _) nofun
  cases found

end Plug.CredentialMirrors
