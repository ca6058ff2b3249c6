import Plug.RefusedChanges

/-!
# Stored keys

Beside the service a ledger notes which credential was typed last for a field of a server, and
which references in the configuration are Plug's. Over additions, updates and removals of servers
every reference of Plug's stands for the credential typed last for its field: names of different
fields differ, a refused change is undone, and nothing in use is forgotten.
-/

namespace Plug.Secrets

open Text Operator

variable {Content : Type}

def valueOf (server : Server) (field : List Char) : Option (List Char) :=
  (fields server).lookup field

/-- By server and field: what was typed last, and the store of the reference that Plug wrote. -/
structure Ledger where
  typed : List Char → List Char → Option (List Char)
  wrote : List Char → List Char → Option StoreId

def Ledger.empty : Ledger := ⟨fun _ _ => none, fun _ _ => none⟩

section Calls

variable (digest : Digest) (others : OtherStores) {format : ConfigFormat Content}
  (validate : Validate)

def serverIn (format : ConfigFormat Content) (file : Option Content) (name : List Char) :
    Option Server :=
  match format.load file with
  | .ok config => config.servers.lookup name
  | .error _ => none

/-- The credential of a field that is typed in the clear is the last one typed. -/
def noteTyped (ledger : Ledger) (name : List Char) (typed : Server) (field : List Char) :
    Option (List Char) :=
  match valueOf typed field with
  | some value => if isClear others value then some value else ledger.typed name field
  | none => ledger.typed name field

/-- A value other than the typed one is Plug's reference; one that the field had before is Plug's if
it was so then. -/
def noteWrote (ledger : Ledger) (store : StoreId) (name : List Char) (typed saved : Server)
    (former : Option Server) (field : List Char) : Option StoreId :=
  match valueOf saved field with
  | none => none
  | some value =>
    if valueOf typed field ≠ some value then some store
    else if (former.bind fun former => valueOf former field) = some value then
      ledger.wrote name field
    else none

/-- The ledger after a call that was not refused. -/
def noteCall (engine : Engine Content) (request : Request format) (ledger : Ledger) : Ledger :=
  match request.mutation with
  | .removeServer name =>
    ⟨Function.update ledger.typed name fun _ => none,
      Function.update ledger.wrote name fun _ => none⟩
  | mutation =>
    match StoreId.find (request.secretStore.getD StoreId.keychain.text),
        typedServer format engine.file mutation,
        replacing digest others validate engine request with
    | some store, some (name, typed), some config =>
      match config.servers.lookup name with
      | none => ledger
      | some saved =>
        ⟨Function.update ledger.typed name (noteTyped others ledger name typed),
          Function.update ledger.wrote name
            (noteWrote ledger store name typed saved (serverIn format engine.file name))⟩
    | _, _, _ => ledger

variable [DecidableEq Content]

/-- One call, with the ledger. -/
def callNoted (state : Engine Content × Ledger) (request : Request format) :
    Engine Content × Ledger :=
  let (next, outcome) := applyOperatorMutationKeeping digest others format validate state.1 request
  (next, if outcome.isRefused then state.2
    else noteCall digest others validate state.1 request state.2)

def callAll (state : Engine Content × Ledger) (requests : List (Request format)) :
    Engine Content × Ledger :=
  requests.foldl (callNoted digest others validate) state

end Calls

/-- The request adds or updates the server, with the field in it. -/
def Types {format : ConfigFormat Content} (request : Request format) (name field : List Char) :
    Prop :=
  ∃ server value, (request.mutation = .addServer name server ∨
    request.mutation = .updateServer name server) ∧ (field, value) ∈ fields server

/-- The request adds, updates or removes a server, whose name has no null character, and the stores
answer. -/
def Plain {format : ConfigFormat Content} (request : Request format) : Prop :=
  request.answers = .succeed ∧ ∃ name, '\x00' ∉ name ∧
    ((∃ server, request.mutation = .addServer name server) ∨
      (∃ server, request.mutation = .updateServer name server) ∨
      request.mutation = .removeServer name)

/-- Digests of the servers and fields that are typed are told apart by their first digits. -/
def NoCollision (digest : Digest) (known : List Char → List Char → Prop) : Prop :=
  ∀ server field other otherField, known server field → known other otherField →
    digest.ending (digested server field) = digest.ending (digested other otherField) →
    digested server field = digested other otherField

/-- A reference of Plug's in a field stands for what was typed last for it. -/
def Backed (digest : Digest) (engine : Engine Content) (ledger : Ledger) (name field value : List Char)
    (store : StoreId) : Prop :=
  value = reference store (nameFor digest name field) ∧
    ∃ literal, ledger.typed name field = some literal ∧
      engine.vault store (nameFor digest name field) = some literal

/-- The field is one that was typed. -/
def KnownField (known : List Char → List Char → Prop) (name field : List Char) : Prop :=
  '\x00' ∉ name ∧ known name field ∧ ∃ own : Field, own.stored = field

/-- Every reference of Plug's is backed. -/
def KeysHold (digest : Digest) (format : ConfigFormat Content)
    (known : List Char → List Char → Prop) (state : Engine Content × Ledger) : Prop :=
  ∀ config, format.load state.1.file = .ok config → ∀ item ∈ config.servers, ∀ field value,
    (field, value) ∈ fields item.2 → ∀ store, state.2.wrote item.1 field = some store →
    KnownField known item.1 field ∧ Backed digest state.1 state.2 item.1 field value store

section Steps

variable (digest : Digest) (others : OtherStores) {format : ConfigFormat Content}
  {validate : Validate} {known : List Char → List Char → Prop}

variable {field value name : List Char} {engine : Engine Content} {request : Request format}
  {typed : Server} {ledger : Ledger} {store : StoreId} {config : OperatorConfig}

theorem valueOf_of_mem {server : Server} (member : (field, value) ∈ fields server) :
    valueOf server field = some value :=
  Tables.lookup_of_mem (fields_distinct server) member

/-- Names of known fields tell the fields apart. -/
theorem known_names (apart : NoCollision digest known) {other otherField : List Char}
    (first : KnownField known name field) (second : KnownField known other otherField)
    (same : nameFor digest name field = nameFor digest other otherField) :
    name = other ∧ field = otherField := by
  obtain ⟨plain, isKnown, own, rfl⟩ := first
  obtain ⟨otherPlain, otherKnown, otherOwn, rfl⟩ := second
  obtain ⟨names, fields⟩ := nameFor_injective digest plain otherPlain
    (apart _ _ _ _ isKnown otherKnown) same
  exact ⟨names, congrArg Field.stored fields⟩

theorem not_clear_reference (store : StoreId) (valid : validName name = true) :
    isClear others (reference store name) = false := by
  rw [isClear, parse_reference others store valid]
  exact Bool.and_false _

theorem parse_of_reference (store : StoreId) (name field : List Char)
    (written : value = reference store (nameFor digest name field)) :
    parse others value = some (store.text, nameFor digest name field) :=
  written ▸ parse_nameFor digest others store name field

/-- The fields that a request offers were typed. -/
theorem offered_known {own : Field} (plain : Plain request)
    (types : ∀ name field, Types request name field → known name field)
    (isTyped : typedServer format engine.file request.mutation = some (name, typed))
    (offers : (own, value) ∈ offered typed) : KnownField known name own.stored := by
  obtain ⟨_, other, null, kinds⟩ := plain
  have inside := fields_of_offered offers
  rcases kinds with ⟨server, isAdd⟩ | ⟨server, isUpdate⟩ | isRemove
  · rw [isAdd] at isTyped
    cases isTyped
    exact ⟨null, types name own.stored ⟨typed, value, Or.inl isAdd, inside⟩, own, rfl⟩
  · rw [isUpdate, typedServer] at isTyped
    split at isTyped
    · cases isTyped
      have present : ∃ former, (own.stored, former) ∈ fields server := by
        rcases restore_fields inside with ⟨same, _⟩ | ⟨placeholder, _⟩
        · exact ⟨value, same⟩
        · exact ⟨_, placeholder⟩
      obtain ⟨former, member⟩ := present
      exact ⟨null, types name own.stored ⟨server, former, Or.inr isUpdate, member⟩, own, rfl⟩
    · cases isTyped
      exact ⟨null, types name own.stored ⟨typed, value, Or.inr isUpdate, inside⟩, own, rfl⟩
  · rw [isRemove] at isTyped
    cases isTyped

/-- Staging leaves alone what is stored for a field that is not written. -/
theorem staged_untouched (apart : NoCollision digest known) (plain : Plain request)
    (types : ∀ name field, Types request name field → known name field) (store other : StoreId)
    {server : List Char} (isKnown : KnownField known server field)
    (unwritten : ∀ typed own value, typedServer format engine.file request.mutation = some (server,
      typed) → (own, value) ∈ offered typed → own.stored = field → accepted others request.answers
      field value = false) :
    Function.update engine.vault store (stagedFor digest others engine request store).2.2.held other
        (nameFor digest server field) = engine.vault other (nameFor digest server field) := by
  by_cases same : other = store
  · subst same
    rw [Function.update_self]
    rcases stagedFor_cases digest others engine request other with
        ⟨name, _, typed, isTyped, _, staged⟩ | ⟨_, _, staged⟩
    · rw [staged, keepStaged_staged]
      refine fold_other digest others request.answers name (offered typed) ⟨_, []⟩ ?_
      intro entry offers taken named
      obtain ⟨rfl, fields⟩ :=
        known_names digest apart (offered_known plain types isTyped offers) isKnown named
      have untaken := unwritten typed entry.1 entry.2 isTyped offers fields
      rw [← fields, taken] at untaken
      cases untaken
    · rw [staged]
  · rw [Function.update_of_ne same]

theorem noteCall_removed (removes : request.mutation = .removeServer name) :
    noteCall digest others validate engine request ledger =
      ⟨Function.update ledger.typed name fun _ => none,
        Function.update ledger.wrote name fun _ => none⟩ := by
  rw [noteCall, removes]

theorem noteCall_typed {saved : Server}
    (stores : StoreId.find (request.secretStore.getD StoreId.keychain.text) = some store)
    (isTyped : typedServer format engine.file request.mutation = some (name, typed))
    (replaced : replacing digest others validate engine request = some config)
    (found : config.servers.lookup name = some saved) :
    noteCall digest others validate engine request ledger =
      ⟨Function.update ledger.typed name (noteTyped others ledger name typed),
        Function.update ledger.wrote name
          (noteWrote ledger store name typed saved (serverIn format engine.file name))⟩ := by
  cases isMutation : request.mutation with
  | addServer other server =>
    rw [isMutation] at isTyped
    simp only [noteCall, isMutation, stores, isTyped, replaced, found]
  | updateServer other server =>
    rw [isMutation] at isTyped
    simp only [noteCall, isMutation, stores, isTyped, replaced, found]
  | _ =>
    rw [isMutation] at isTyped
    cases isTyped

/-- A refused call has put back everything, when the stores answer. -/
theorem refused_restores {next : Engine Content} {outcome : Outcome}
    (succeeds : request.answers = .succeed)
    (ends : Called digest others validate engine request next outcome)
    (refused : outcome.isRefused = true) :
    next.file = engine.file ∧ ∀ store name, next.vault store name = engine.vault store name := by
  obtain ⟨file, values⟩ := called_refused digest others validate ends refused
  have nothing : outcome.notPutBack = [] := by
    cases ends with
    | unknownStore error unknown => rfl
    | undone store error stores same =>
      rw [succeeds]
      exact putBack_succeeds _ _
    | unconfirmed store error config stores replaced differs => cases refused
    | unloaded store error config stores replaced => cases refused
    | done store config loaded result stores saved replaced read => cases refused
  refine ⟨file, ?_⟩
  intro store name
  rcases values store name with same | reported
  · exact same
  · rw [nothing] at reported
    cases reported

/-- The servers that a removal leaves are those of the file but the removed one. -/
theorem removed_saved
    (stores : StoreId.find (request.secretStore.getD StoreId.keychain.text) = some store)
    (removes : request.mutation = .removeServer name)
    (replaced : replacing digest others validate engine request = some config) :
    ∃ loaded, format.load engine.file = .ok loaded ∧
      config.servers = without loaded.servers name := by
  rw [replacing, stores, Option.bind_some] at replaced
  obtain ⟨loaded, result, read, mutated⟩ := replacement_mutates format replaced
  have same : (stagedFor digest others engine request store).1 = .removeServer name := by
    simp only [stagedFor, keepTypedSecrets, removes]
  rw [same] at mutated
  dsimp only [mutate] at mutated
  split at mutated
  · cases mutated
  · cases mutated
    exact ⟨loaded, read, rfl⟩

theorem mem_without {Value : Type} {table : List (List Char × Value)} {key : List Char}
    {item : List Char × Value} : item ∈ without table key ↔ item ∈ table ∧ item.1 ≠ key := by
  simp [without]

/-- A server that the call does not concern keeps its keys. -/
theorem others_hold (apart : NoCollision digest known) {next : Engine Content} {later : Ledger}
    {loaded : OperatorConfig} {item : List Char × Server} (plain : Plain request)
    (types : ∀ name field, Types request name field → known name field)
    (read : format.load engine.file = .ok loaded)
    (staged : ∀ item ∈ config.servers, ∀ entry ∈ fields item.2, ∀ other secret, parse others entry.2
      = some (other.text, secret) → next.vault other secret = Function.update engine.vault store
      (stagedFor digest others engine request store).2.2.held other secret)
    (concerns : ∀ named typed, typedServer format engine.file request.mutation = some (named, typed)
      → named = name) (typedSame : later.typed item.1 = ledger.typed item.1)
    (wroteSame : later.wrote item.1 = ledger.wrote item.1)
    (holds : KeysHold digest format known (engine, ledger)) (member : item ∈ loaded.servers)
    (apartName : item.1 ≠ name) (inNew : item ∈ config.servers)
    (present : (field, value) ∈ fields item.2) {other : StoreId}
    (wrote : later.wrote item.1 field = some other) :
    KnownField known item.1 field ∧ Backed digest next later item.1 field value other := by
  rw [wroteSame] at wrote
  obtain ⟨isKnown, written, literal, typed, stored⟩ :=
    holds loaded read item member field value present other wrote
  refine ⟨isKnown, written, literal, ?_, ?_⟩
  · rw [typedSame]
    exact typed
  · rw [staged item inNew (field, value) present other _
      (parse_of_reference digest others other item.1 field written)]
    rw [staged_untouched digest others apart plain types store other isKnown]
    · exact stored
    · intro server own text isTyped _ _
      exact absurd (concerns _ _ isTyped) apartName

/-- A reference that the call wrote stands for the credential that was typed. -/
theorem written_holds (apart : NoCollision digest known) (ledger : Ledger) {own : Field}
    {former : List Char} (plain : Plain request)
    (types : ∀ name field, Types request name field → known name field)
    (isTyped : typedServer format engine.file request.mutation = some (name, typed))
    (staged : (stagedFor digest others engine request store).2.2 = (keepStaged digest others
      request.answers store name typed (engine.vault store)).2)
    (offers : (own, former) ∈ offered typed)
    (taken : accepted others request.answers own.stored former = true) :
    noteTyped others ledger name typed own.stored = some former ∧
      Function.update engine.vault store (stagedFor digest others engine request store).2.2.held store
        (nameFor digest name own.stored) = some former := by
  constructor
  · have clear : isClear others former = true := by
      simp only [accepted, Bool.and_eq_true] at taken
      exact taken.1.1
    rw [noteTyped, valueOf_of_mem (fields_of_offered offers)]
    exact if_pos clear
  · rw [Function.update_self, staged, keepStaged_staged]
    obtain ⟨last, inside, _, same, holds⟩ := fold_stored digest others request.answers name
      (offered typed) ⟨engine.vault store, []⟩ ⟨_, offers, taken, rfl⟩
    have fields := (known_names digest apart (offered_known plain types isTyped inside)
      (offered_known plain types isTyped offers) same).2
    have lastTyped := fields_of_offered inside
    rw [fields] at lastTyped
    rw [holds, field_unique lastTyped (fields_of_offered offers)]

/-- The server that the call concerns keeps the keys it had, and has those that were typed. -/
theorem own_hold (apart : NoCollision digest known) {next : Engine Content} {later : Ledger}
    {loaded : OperatorConfig} {server : Server} {stored : Option Server} (plain : Plain request)
    (types : ∀ name field, Types request name field → known name field)
    (read : format.load engine.file = .ok loaded)
    (isTyped : typedServer format engine.file request.mutation = some (name, typed))
    (fromFile : stored = none ∨ typed = server.restoreRedactedSecrets stored)
    (stagedSame : (stagedFor digest others engine request store).2.2 = (keepStaged digest others
      request.answers store name typed (engine.vault store)).2)
    (staged : ∀ item ∈ config.servers, ∀ entry ∈ fields item.2, ∀ other secret, parse others entry.2
      = some (other.text, secret) → next.vault other secret = Function.update engine.vault store
      (stagedFor digest others engine request store).2.2.held other secret)
    (typedNow : later.typed name = noteTyped others ledger name typed)
    (wroteNow : later.wrote name = noteWrote ledger store name typed ((keepStaged digest others
      request.answers store name typed (engine.vault store)).1.restoreRedactedSecrets stored)
      (serverIn format engine.file name)) (holds : KeysHold digest format known (engine, ledger))
    (inNew : (name, (keepStaged digest others request.answers store name typed (engine.vault
      store)).1.restoreRedactedSecrets stored) ∈ config.servers)
    (present : (field, value) ∈ fields ((keepStaged digest others request.answers store name typed
      (engine.vault store)).1.restoreRedactedSecrets stored)) {other : StoreId}
    (wrote : later.wrote name field = some other) :
    KnownField known name field ∧ Backed digest next later name field value other := by
  rw [wroteNow, noteWrote, valueOf_of_mem present] at wrote
  dsimp only at wrote
  by_cases changed : valueOf typed field ≠ some value
  · rw [if_pos changed] at wrote
    cases wrote
    rcases restore_kept digest others fromFile present with same |
        ⟨own, former, offers, rfl, taken, rfl⟩
    · exact absurd (valueOf_of_mem same) changed
    · obtain ⟨typedIs, storedIs⟩ := written_holds digest others apart ledger plain types
        isTyped stagedSame offers taken
      refine ⟨offered_known plain types isTyped offers, rfl, former, ?_, ?_⟩
      · rw [typedNow]
        exact typedIs
      · rw [staged _ inNew _ present store _ (parse_nameFor digest others store name own.stored)]
        exact storedIs
  · rw [if_neg changed] at wrote
    have unchanged : valueOf typed field = some value := not_not.mp changed
    split at wrote
    · rename_i before
      obtain ⟨former, formerIs, formerValue⟩ := Option.bind_eq_some_iff.mp before
      have listed : (name, former) ∈ loaded.servers := by
        rw [serverIn, read] at formerIs
        exact Tables.mem_of_lookup formerIs
      obtain ⟨isKnown, written, literal, typedIs, storedIs⟩ := holds loaded read (name, former) listed
        field value (Tables.mem_of_lookup formerValue) other wrote
      have valid := validName_nameFor digest name field
      have unclear : isClear others value = false := by
        rw [written]
        exact not_clear_reference others other valid
      refine ⟨isKnown, written, literal, ?_, ?_⟩
      · rw [typedNow, noteTyped, unchanged]
        dsimp only
        rw [unclear, if_neg Bool.false_ne_true]
        exact typedIs
      · rw [staged _ inNew _ present other _
          (parse_of_reference digest others other name field written),
          staged_untouched digest others apart plain types store other isKnown]
        · exact storedIs
        · intro again own text isAgain offers same
          rw [isTyped] at isAgain
          cases isAgain
          have inside := fields_of_offered offers
          rw [same] at inside
          have sameValue := field_unique inside (Tables.mem_of_lookup unchanged)
          rw [accepted, sameValue, unclear]
          rfl
    · cases wrote

/-- Every call keeps the keys. -/
theorem keysHold_call [DecidableEq Content] (apart : NoCollision digest known)
    (state : Engine Content × Ledger) (request : Request format) (plain : Plain request)
    (types : ∀ name field, Types request name field → known name field)
    (holds : KeysHold digest format known state) :
    KeysHold digest format known (callNoted digest others validate state request) := by
  obtain ⟨engine, ledger⟩ := state
  unfold callNoted
  dsimp only
  have ends := called digest others validate engine request
  generalize applyOperatorMutationKeeping digest others format validate engine request = ended
    at ends ⊢
  obtain ⟨next, outcome⟩ := ended
  dsimp only at ends ⊢
  cases refused : outcome.isRefused with
  | true =>
    obtain ⟨file, values⟩ := refused_restores digest others plain.1 ends refused
    rw [if_pos rfl]
    intro config read item member field value present store wrote
    rw [show (next, ledger).1.file = engine.file from file] at read
    obtain ⟨isKnown, written, literal, typed, stored⟩ :=
      holds config read item member field value present store wrote
    exact ⟨isKnown, written, literal, typed, (values store _).trans stored⟩
  | false =>
    rw [if_neg Bool.false_ne_true]
    obtain ⟨store, config, stores, replaced, file, staged⟩ :=
      called_in_place digest others validate ends refused
    intro config' read item member field value present other wrote
    rw [show (next, noteCall digest others validate engine request ledger).1.file =
      some (format.render config) from file, format.load_render] at read
    cases read
    dsimp only at wrote ⊢
    obtain ⟨succeeds, name, null, kinds⟩ := plain
    have again : Plain request := ⟨succeeds, name, null, kinds⟩
    by_cases removes : request.mutation = .removeServer name
    · obtain ⟨loaded, read, servers⟩ := removed_saved digest others stores removes replaced
      obtain ⟨before, apartName⟩ := mem_without.mp (servers ▸ member)
      have noted : noteCall digest others validate engine request ledger = _ :=
        noteCall_removed digest others removes
      refine others_hold digest others apart again types read staged ?_ ?_ ?_ holds before apartName
        member present wrote
      · intro named typed isTyped
        rw [removes] at isTyped
        cases isTyped
      · rw [noted]
        exact Function.update_of_ne apartName _ _
      · rw [noted]
        exact Function.update_of_ne apartName _ _
    · have typedExists : ∃ typed, typedServer format engine.file request.mutation =
          some (name, typed) := by
        rcases kinds with ⟨server, isAdd⟩ | ⟨server, isUpdate⟩ | isRemove
        · exact ⟨server, by rw [isAdd]; rfl⟩
        · rw [isUpdate, typedServer]
          split
          · exact ⟨_, rfl⟩
          · exact ⟨_, rfl⟩
        · exact absurd isRemove removes
      obtain ⟨typed, isTyped⟩ := typedExists
      obtain ⟨loaded, stored, server, read, fromFile, servers, stagedSame⟩ :=
        typed_saved digest others stores replaced isTyped
      have found : config.servers.lookup name = some ((keepStaged digest others request.answers store
          name typed (engine.vault store)).1.restoreRedactedSecrets stored) := by
        rw [servers, List.lookup_cons_self]
      have noted : noteCall digest others validate engine request ledger = _ :=
        noteCall_typed digest others stores isTyped replaced found
      rcases List.mem_cons.mp (servers ▸ member) with own | elsewhere
      · have inNew := member
        rw [own] at inNew present wrote ⊢
        refine own_hold digest others apart again types read isTyped fromFile stagedSame staged ?_ ?_
          holds inNew present wrote
        · rw [noted]
          exact Function.update_self name _ _
        · rw [noted]
          exact Function.update_self name _ _
      · obtain ⟨before, apartName⟩ := mem_without.mp elsewhere
        refine others_hold digest others apart again types read staged ?_ ?_ ?_ holds before apartName
          member present wrote
        · intro named other same
          rw [isTyped] at same
          cases same
          rfl
        · rw [noted]
          exact Function.update_of_ne apartName _ _
        · rw [noted]
          exact Function.update_of_ne apartName _ _

/-- So does every run of calls. -/
theorem keysHold_callAll [DecidableEq Content] (apart : NoCollision digest known)
    (requests : List (Request format)) (plain : ∀ request ∈ requests, Plain request)
    (types : ∀ request ∈ requests, ∀ name field, Types request name field → known name field)
    (state : Engine Content × Ledger) (holds : KeysHold digest format known state) :
    KeysHold digest format known (callAll digest others validate state requests) := by
  induction requests generalizing state with
  | nil => exact holds
  | cons request rest ih =>
    refine ih (fun later member => plain later (List.mem_cons_of_mem _ member))
      (fun later member => types later (List.mem_cons_of_mem _ member)) _ ?_
    exact keysHold_call digest others apart state request (plain request List.mem_cons_self)
      (types request List.mem_cons_self) holds

/-- What a remaining server refers to is there after forgetting as it was before. -/
theorem forget_follow (answers : Answers) (serverName : List Char) (server : Server)
    (remaining : List Server) (vault : Vault) {other : Server} (present : other ∈ remaining)
    (refers : (field, value) ∈ fields other) :
    follow others (forget digest others answers serverName server remaining vault) value =
      follow others vault value := by
  unfold follow
  cases parsed : parse others value with
  | none => rfl
  | some parts =>
    obtain ⟨text, name⟩ := parts
    rw [Option.bind_some, Option.bind_some]
    dsimp only
    cases found : StoreId.find text with
    | none => rfl
    | some store =>
      rw [Option.bind_some, Option.bind_some]
      rw [text_of_find found] at parsed
      have written := (reference_of_parse others parsed).1
      exact forget_keeps digest others answers serverName server remaining vault present
        (written ▸ refers)

end Steps

/-! ### A run on fixed inputs -/

/-- A key that is typed, and one that is typed in its place. -/
def typedTwice : List (Request plainFormat) :=
  [requestWith (.addServer mail (withEntry "API_KEY" "sk-1234")) .saved,
    requestWith (.updateServer mail (withEntry "API_KEY" "sk-5678")) .saved]

def afterTyping : Engine OperatorConfig × Ledger :=
  callAll mailDigest noOthers (fun _ => []) (emptyEngine, .empty) typedTwice

theorem typedTwice_plain : ∀ request ∈ typedTwice, Plain request := by
  intro request member
  rcases List.mem_cons.mp member with rfl | later
  · exact ⟨rfl, mail, by decide, Or.inl ⟨_, rfl⟩⟩
  · obtain rfl := List.mem_singleton.mp later
    exact ⟨rfl, mail, by decide, Or.inr (Or.inl ⟨_, rfl⟩)⟩

/-- The one field that is typed. -/
theorem typedTwice_types {request : Request plainFormat} (member : request ∈ typedTwice)
    {name field : List Char} (types : Types request name field) :
    name = mail ∧ field = "API_KEY".toList := by
  obtain ⟨server, value, kinds, present⟩ := types
  rcases List.mem_cons.mp member with rfl | later
  · rcases kinds with same | same
    · cases same
      have only : fields (withEntry "API_KEY" "sk-1234") =
        [("API_KEY".toList, "sk-1234".toList)] := by decide
      rw [only, List.mem_singleton] at present
      exact ⟨rfl, congrArg Prod.fst present⟩
    · cases same
  · obtain rfl := List.mem_singleton.mp later
    rcases kinds with same | same
    · cases same
    · cases same
      have only : fields (withEntry "API_KEY" "sk-5678") =
        [("API_KEY".toList, "sk-5678".toList)] := by decide
      rw [only, List.mem_singleton] at present
      exact ⟨rfl, congrArg Prod.fst present⟩

end Plug.Secrets
