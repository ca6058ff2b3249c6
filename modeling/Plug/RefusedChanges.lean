import Plug.RemovedServers
import Plug.StagedSecrets

/-!
# Refused changes

A change that is refused leaves the file and every stored secret as they were, except for the
names that the refusal reports. A change that is in place has a stored value behind each reference
it put in place of a typed credential, and takes no stored value from a reference that the new
configuration holds.
-/

namespace Plug.Secrets

open Text Operator Access

variable {Content : Type}

section Calls

variable (digest : Digest) (others : OtherStores) (format : ConfigFormat Content)
  (validate : Validate)

/-! ### What replaces the file -/

/-- The configuration that replaces the file, if the change gets so far. -/
def replacement (file : Option Content) (mutation : OperatorMutation) (toolBehind : ToolBehind)
    (saving : Saving) : Option OperatorConfig :=
  match format.load file with
  | .error _ => none
  | .ok loaded =>
    let config := loaded.withClients (loaded.clientConfig.pinToolBlocks toolBehind)
    match mutate validate toolBehind config mutation with
    | .error _ => none
    | .ok (changed, _) =>
      if validate changed ≠ [] then none
      else
        match saving with
        | .failed _ => none
        | .unconfirmed _ => some changed
        | .saved => some changed

/-- A change that replaces nothing is refused, and one that is saved is not. -/
theorem apply_cases (file : Option Content) (mutation : OperatorMutation) (toolBehind : ToolBehind)
    (saving : Saving) :
    (replacement format validate file mutation toolBehind saving = none ∧
      ∃ error, applyOperatorMutationKnowing format validate file mutation toolBehind saving =
        (file, .error error)) ∨
    (∃ config error, saving = .unconfirmed error ∧
      replacement format validate file mutation toolBehind saving = some config ∧
      applyOperatorMutationKnowing format validate file mutation toolBehind saving =
        (some (format.render config), .error error)) ∨
    (∃ config result, saving = .saved ∧
      replacement format validate file mutation toolBehind saving = some config ∧
      applyOperatorMutationKnowing format validate file mutation toolBehind saving =
        (some (format.render config), .ok (config, result))) := by
  unfold applyOperatorMutationKnowing replacement
  cases format.load file with
  | error error => exact Or.inl ⟨rfl, error, rfl⟩
  | ok loaded =>
    dsimp only
    cases mutate validate toolBehind
        (loaded.withClients (loaded.clientConfig.pinToolBlocks toolBehind)) mutation with
    | error error => exact Or.inl ⟨rfl, error, rfl⟩
    | ok changed =>
      obtain ⟨config, result⟩ := changed
      dsimp only
      unfold persistConfigAtomic
      by_cases wrong : validate config ≠ []
      · rw [if_pos wrong, if_pos wrong]
        exact Or.inl ⟨rfl, _, rfl⟩
      · rw [if_neg wrong, if_neg wrong]
        cases saving with
        | failed error => exact Or.inl ⟨rfl, error, rfl⟩
        | unconfirmed error => exact Or.inr (Or.inl ⟨config, error, rfl, rfl, rfl⟩)
        | saved => exact Or.inr (Or.inr ⟨config, result, rfl, rfl, rfl⟩)

end Calls

/-! ### One call -/

section Steps

variable (digest : Digest) (others : OtherStores) {format : ConfigFormat Content}
  (validate : Validate)

/-- The change as it is applied, and what was stored for it. -/
def stagedFor (engine : Engine Content) (request : Request format) (store : StoreId) :
    OperatorMutation × Option (List Char × Server) × Staged :=
  keepTypedSecrets digest others format engine request.mutation store request.answers

/-- The configuration that replaces the file in a call. -/
def replacing (engine : Engine Content) (request : Request format) : Option OperatorConfig :=
  (StoreId.find (request.secretStore.getD StoreId.keychain.text)).bind fun store =>
    replacement format validate engine.file
      (stagedFor digest others engine request store).1 request.toolBehind request.saving

variable [DecidableEq Content]

/-- The outcomes of a call: it is refused before anything is stored, or refused and undone, or in
place without being confirmed, or in place and not read, or in place and read. -/
inductive Called (engine : Engine Content) (request : Request format) :
    Engine Content → Outcome → Prop where
  | unknownStore (error : List Char)
      (unknown : StoreId.find (request.secretStore.getD StoreId.keychain.text) = none) :
      Called engine request engine (.refused error [])
  | undone (store : StoreId) (error : List Char)
      (known : StoreId.find (request.secretStore.getD StoreId.keychain.text) = some store)
      (same : replacing digest others validate engine request = none ∨
        ∃ config cause, request.saving = .unconfirmed cause ∧
          replacing digest others validate engine request = some config ∧
          engine.file = some (format.render config)) :
      Called engine request
        { engine with
          vault := Function.update engine.vault store
            (putBack request.answers (stagedFor digest others engine request store).2.2.held
              (stagedFor digest others engine request store).2.2.kept).1 }
        (.refused error (putBack request.answers
          (stagedFor digest others engine request store).2.2.held
          (stagedFor digest others engine request store).2.2.kept).2)
  | unconfirmed (store : StoreId) (error : List Char) (config : OperatorConfig)
      (known : StoreId.find (request.secretStore.getD StoreId.keychain.text) = some store)
      (replaced : replacing digest others validate engine request = some config)
      (differs : some (format.render config) ≠ engine.file) :
      Called engine request
        { engine with
          file := some (format.render config)
          vault := Function.update engine.vault store
            (stagedFor digest others engine request store).2.2.held }
        (.unconfirmed error)
  | unloaded (store : StoreId) (error : List Char) (config : OperatorConfig)
      (known : StoreId.find (request.secretStore.getD StoreId.keychain.text) = some store)
      (replaced : replacing digest others validate engine request = some config) :
      Called engine request
        { engine with
          file := some (format.render config)
          vault := Function.update engine.vault store
            (stagedFor digest others engine request store).2.2.held }
        (.unloaded error)
  | done (store : StoreId) (config loaded : OperatorConfig) (result : OperatorMutationResult)
      (known : StoreId.find (request.secretStore.getD StoreId.keychain.text) = some store)
      (saved : request.saving = .saved)
      (replaced : replacing digest others validate engine request = some config)
      (read : request.loading.loadConfig (some (format.render config)) = .ok loaded) :
      Called engine request
        ⟨some (format.render config), loaded,
          match (stagedFor digest others engine request store).2.1 with
          | none => Function.update engine.vault store
              (stagedFor digest others engine request store).2.2.held
          | some (name, server) =>
            forget digest others request.answers name server (loaded.servers.map Prod.snd)
              (Function.update engine.vault store
                (stagedFor digest others engine request store).2.2.held)⟩
        (.done result)

/-- Every call ends in one of these ways. -/
theorem called (engine : Engine Content) (request : Request format) :
    Called digest others validate engine request
      (applyOperatorMutationKeeping digest others format validate engine request).1
      (applyOperatorMutationKeeping digest others format validate engine request).2 := by
  unfold applyOperatorMutationKeeping
  dsimp only
  cases known : StoreId.find (request.secretStore.getD StoreId.keychain.text) with
  | none => exact .unknownStore _ known
  | some store =>
    dsimp only
    have replacingIs : replacing digest others validate engine request =
        replacement format validate engine.file
          (keepTypedSecrets digest others format engine request.mutation store request.answers).1
          request.toolBehind request.saving := by
      rw [replacing, known]
      rfl
    rcases apply_cases format validate engine.file
        (keepTypedSecrets digest others format engine request.mutation store request.answers).1
        request.toolBehind request.saving with
        ⟨none, error, ended⟩ | ⟨config, error, saving, some, ended⟩ |
        ⟨config, result, saving, some, ended⟩
    · rw [ended]
      dsimp only
      rw [if_neg (not_not.mpr rfl)]
      exact .undone store error known (Or.inl (replacingIs.trans none))
    · rw [ended]
      dsimp only
      by_cases differs : (Option.some (format.render config)) ≠ engine.file
      · rw [if_pos differs]
        exact .unconfirmed store error config known (replacingIs.trans some) differs
      · rw [if_neg differs]
        exact .undone store error known (Or.inr ⟨config, error, saving, replacingIs.trans some,
          (not_not.mp differs).symm⟩)
    · rw [ended]
      dsimp only
      cases read : request.loading.loadConfig (Option.some (format.render config)) with
      | error error =>
        dsimp only
        exact .unloaded store error config known (replacingIs.trans some)
      | ok loaded =>
        dsimp only
        exact .done store config loaded result known saving (replacingIs.trans some) read

end Steps

/-! ### The changed server -/

section Servers

variable (digest : Digest) (others : OtherStores) (format : ConfigFormat Content)

/-- The reference stands in place of another value that was typed, or of one that the file had in
the clear. -/
def PutInPlace (file : Option Content) (mutation : OperatorMutation) (name field value : List Char) :
    Prop :=
  ∃ server typed, typedServer format file mutation = some (name, server) ∧
    (field, typed) ∈ fields server ∧ typed ≠ value

variable {config : OperatorConfig} {name : List Char} {store : StoreId}

theorem replacement_mutates {validate : Validate} {file : Option Content}
    {mutation : OperatorMutation} {toolBehind : ToolBehind} {saving : Saving}
    (replaced : replacement format validate file mutation toolBehind saving = some config) :
    ∃ loaded result, format.load file = .ok loaded ∧
      mutate validate toolBehind
        (loaded.withClients (loaded.clientConfig.pinToolBlocks toolBehind)) mutation =
          .ok (config, result) := by
  unfold replacement at replaced
  cases read : format.load file with
  | error error =>
    rw [read] at replaced
    cases replaced
  | ok loaded =>
    rw [read] at replaced
    dsimp only at replaced
    cases mutated : mutate validate toolBehind
        (loaded.withClients (loaded.clientConfig.pinToolBlocks toolBehind)) mutation with
    | error error =>
      rw [mutated] at replaced
      cases replaced
    | ok changed =>
      obtain ⟨next, result⟩ := changed
      rw [mutated] at replaced
      dsimp only at replaced
      refine ⟨loaded, result, rfl, ?_⟩
      by_cases wrong : validate next ≠ []
      · rw [if_pos wrong] at replaced
        cases replaced
      · rw [if_neg wrong] at replaced
        cases saving with
        | failed error => cases replaced
        | unconfirmed error => cases replaced; exact mutated
        | saved => cases replaced; exact mutated

/-- The new configuration has the server of the change, with what the file holds in place of
placeholders, and the other servers of the file. -/
theorem mutate_servers {validate : Validate} {toolBehind : ToolBehind} {next : OperatorConfig}
    {mutation : OperatorMutation} {result : OperatorMutationResult} {server : Server}
    (mutated : mutate validate toolBehind config mutation = .ok (next, result))
    (typed : mutation = .addServer name server ∨ mutation = .updateServer name server) :
    ∃ stored, (mutation = .addServer name server ∧ stored = none ∨
        mutation = .updateServer name server ∧ stored = config.servers.lookup name) ∧
      next.servers = (name, server.restoreRedactedSecrets stored) ::
        without config.servers name := by
  rcases typed with rfl | rfl
  · dsimp only [mutate] at mutated
    by_cases known : (config.servers.lookup name).isSome = true
    · rw [if_pos known] at mutated
      cases mutated
    · rw [if_neg known] at mutated
      cases mutated
      exact ⟨none, Or.inl ⟨rfl, rfl⟩, rfl⟩
  · dsimp only [mutate] at mutated
    cases known : config.servers.lookup name with
    | none =>
      rw [known] at mutated
      cases mutated
    | some stored =>
      rw [known] at mutated
      cases mutated
      exact ⟨some stored, Or.inr ⟨rfl, rfl⟩, rfl⟩

theorem reference_not_redacted (store : StoreId) (name : List Char) :
    reference store name ≠ redactedSecret.toList := by
  intro same
  have begins := congrArg List.head? same
  have placeholder : redactedSecret.toList.head? = some '•' := by decide
  rw [placeholder] at begins
  cases store with
  | keychain =>
    have first : (reference .keychain name).head? = some 'k' := rfl
    exact absurd (first.symm.trans begins) (by decide)
  | file =>
    have first : (reference .file name).head? = some 'f' := rfl
    exact absurd (first.symm.trans begins) (by decide)

/-- A placeholder that is left was restored from the file as it stands there. -/
theorem restore_kept {answers : Answers} {field value : List Char} {stored : Option Server}
    {server typed : Server} {held : List Char → Option (List Char)}
    (fromFile : stored = none ∨ typed = server.restoreRedactedSecrets stored)
    (member : (field, value) ∈ fields ((keepStaged digest others answers store name typed
      held).1.restoreRedactedSecrets stored)) :
    (field, value) ∈ fields typed ∨
      ∃ own former, (own, former) ∈ offered typed ∧ own.stored = field ∧
        accepted others answers field former = true ∧
        value = reference store (nameFor digest name field) := by
  rcases restore_fields member with ⟨inside, _⟩ | ⟨placeholder, former, given, holds⟩
  · exact keepStaged_fields digest others answers store name inside
  · rcases fromFile with absent | restored
    · rw [absent] at given
      cases given
    · have left : (field, redactedSecret.toList) ∈ fields typed := by
        rcases keepStaged_fields digest others answers store name placeholder with inside |
            ⟨_, _, _, _, _, same⟩
        · exact inside
        · exact absurd same.symm (reference_not_redacted store _)
      rw [restored] at left
      obtain ⟨other, same, known⟩ := restore_placeholder left
      rw [given] at same
      cases same
      have equal := field_unique holds known
      rw [equal]
      exact Or.inl (restored ▸ left)

/-- A change of a server that is typed, and the others. -/
theorem stagedFor_cases {format : ConfigFormat Content} (engine : Engine Content)
    (request : Request format) (store : StoreId) :
    (∃ name server typed, typedServer format engine.file request.mutation = some (name, typed) ∧
      ((request.mutation = .addServer name server ∧ typed = server ∧
          (stagedFor digest others engine request store).1 = .addServer name
            (keepStaged digest others request.answers store name typed (engine.vault store)).1) ∨
        (request.mutation = .updateServer name server ∧
          (∀ config, format.load engine.file = .ok config →
            typed = server.restoreRedactedSecrets (config.servers.lookup name)) ∧
          (stagedFor digest others engine request store).1 = .updateServer name
            (keepStaged digest others request.answers store name typed (engine.vault store)).1)) ∧
      (stagedFor digest others engine request store).2.2 =
        (keepStaged digest others request.answers store name typed (engine.vault store)).2) ∨
    (typedServer format engine.file request.mutation = none ∧
      (stagedFor digest others engine request store).1 = request.mutation ∧
      (stagedFor digest others engine request store).2.2 = ⟨engine.vault store, []⟩) := by
  unfold stagedFor
  cases isMutation : request.mutation with
  | addServer name server => exact Or.inl ⟨name, server, server, rfl, Or.inl ⟨rfl, rfl, rfl⟩, rfl⟩
  | updateServer name server =>
    cases read : format.load engine.file with
    | ok config =>
      refine Or.inl ⟨name, server, server.restoreRedactedSecrets (config.servers.lookup name), ?_,
        Or.inr ⟨rfl, ?_, ?_⟩, ?_⟩
      · rw [typedServer, read]
      · intro other same
        cases same
        rfl
      · simp only [keepTypedSecrets, typedServer, read]
      · simp only [keepTypedSecrets, typedServer, read]
    | error error =>
      refine Or.inl ⟨name, server, server, ?_, Or.inr ⟨rfl, ?_, ?_⟩, ?_⟩
      · rw [typedServer, read]
      · intro config same
        cases same
      · simp only [keepTypedSecrets, typedServer, read]
      · simp only [keepTypedSecrets, typedServer, read]
  | removeServer name => exact Or.inr ⟨rfl, rfl, rfl⟩
  | addAccount server account => exact Or.inr ⟨rfl, rfl, rfl⟩
  | setServerEnabled name enabled => exact Or.inr ⟨rfl, rfl, rfl⟩
  | setToolEnabled tool enabled => exact Or.inr ⟨rfl, rfl, rfl⟩
  | renameClient key name => exact Or.inr ⟨rfl, rfl, rfl⟩
  | setClientPlace key place => exact Or.inr ⟨rfl, rfl, rfl⟩
  | moveClientSettings source target => exact Or.inr ⟨rfl, rfl, rfl⟩
  | setClientBlock key kind target blocked => exact Or.inr ⟨rfl, rfl, rfl⟩
  | pinToolBlocks => exact Or.inr ⟨rfl, rfl, rfl⟩
  | addWatch watch => exact Or.inr ⟨rfl, rfl, rfl⟩
  | removeWatch event => exact Or.inr ⟨rfl, rfl, rfl⟩

theorem staged_recorded {format : ConfigFormat Content} (engine : Engine Content)
    (request : Request format) (store : StoreId) :
    Recorded (engine.vault store) (stagedFor digest others engine request store).2.2 := by
  rcases stagedFor_cases digest others engine request store with ⟨_, _, _, _, _, staged⟩ |
      ⟨_, _, staged⟩
  · rw [staged]
    exact keepStaged_recorded digest others request.answers store _ _ _
  · rw [staged]
    exact recorded_start _

theorem staged_stored {format : ConfigFormat Content} {engine : Engine Content}
    {request : Request format} (stored : (engine.vault store name).isSome = true) :
    ((stagedFor digest others engine request store).2.2.held name).isSome = true := by
  rcases stagedFor_cases digest others engine request store with ⟨_, _, _, _, _, staged⟩ |
      ⟨_, _, staged⟩
  · rw [staged]
    exact keepStaged_stored digest others request.answers store _ _ _ stored
  · rw [staged]
    exact stored

/-- A server of the new configuration that was typed is the kept one, restored from what the file
has for it. -/
theorem typed_saved {format : ConfigFormat Content} {validate : Validate} {engine : Engine Content}
    {request : Request format} {typed : Server}
    (known : StoreId.find (request.secretStore.getD StoreId.keychain.text) = some store)
    (replaced : replacing digest others validate engine request = some config)
    (isTyped : typedServer format engine.file request.mutation = some (name, typed)) :
    ∃ (loaded : OperatorConfig) (stored : Option Server) (server : Server),
      format.load engine.file = .ok loaded ∧
      (stored = none ∨ typed = server.restoreRedactedSecrets stored) ∧
      config.servers = (name, (keepStaged digest others request.answers store name typed
        (engine.vault store)).1.restoreRedactedSecrets stored) :: without loaded.servers name ∧
      (stagedFor digest others engine request store).2.2 =
        (keepStaged digest others request.answers store name typed (engine.vault store)).2 := by
  rw [replacing, known, Option.bind_some] at replaced
  obtain ⟨loaded, result, read, mutated⟩ := replacement_mutates format replaced
  rcases stagedFor_cases digest others engine request store with
      ⟨named, server, given, same, kinds, staged⟩ | ⟨none, _, _⟩
  · rw [isTyped] at same
    cases same
    rcases kinds with ⟨_, _, applied⟩ | ⟨_, fromFile, applied⟩
    · obtain ⟨stored, which, servers⟩ := mutate_servers mutated (Or.inl applied)
      rcases which with ⟨_, absent⟩ | ⟨other, _⟩
      · exact ⟨loaded, stored, server, read, Or.inl absent, servers, staged⟩
      · rw [applied] at other
        cases other
    · obtain ⟨stored, which, servers⟩ := mutate_servers mutated (Or.inr applied)
      rcases which with ⟨other, _⟩ | ⟨_, present⟩
      · rw [applied] at other
        cases other
      · exact ⟨loaded, stored, server, read,
          Or.inr (by rw [fromFile loaded read, present]; rfl), servers, staged⟩
  · rw [isTyped] at none
    cases none

/-- Behind a reference that was put in place there is a stored value. -/
theorem staged_put {format : ConfigFormat Content} {validate : Validate} {engine : Engine Content}
    {request : Request format} {other : StoreId} {item : List Char × Server}
    {field value : List Char}
    (known : StoreId.find (request.secretStore.getD StoreId.keychain.text) = some store)
    (replaced : replacing digest others validate engine request = some config)
    (member : item ∈ config.servers) (present : (field, value) ∈ fields item.2)
    (parsed : parse others value = some (other.text, name))
    (put : PutInPlace format engine.file request.mutation item.1 field value) :
    other = store ∧
      ((stagedFor digest others engine request store).2.2.held name).isSome = true := by
  obtain ⟨typed, former, isTyped, inside, differs⟩ := put
  obtain ⟨loaded, stored, server, read, fromFile, servers, staged⟩ :=
    typed_saved digest others known replaced isTyped
  rw [servers] at member
  rcases List.mem_cons.mp member with own | elsewhere
  · rw [own] at present
    rcases restore_kept digest others fromFile present with same | ⟨own, typedValue, offers, rfl,
        taken, rfl⟩
    · exact absurd (field_unique inside same) differs
    · rw [parse_nameFor] at parsed
      obtain ⟨stores, rfl⟩ := Prod.mk.inj (Option.some.inj parsed)
      have sameStore : store = other := by
        have found := find_text other
        rw [← stores, find_text] at found
        exact Option.some.inj found
      refine ⟨sameStore.symm, ?_⟩
      rw [staged, keepStaged_staged]
      obtain ⟨last, _, _, _, holds⟩ := fold_stored digest others request.answers item.1
        (offered typed) ⟨engine.vault store, []⟩ ⟨_, offers, taken, rfl⟩
      rw [holds]
      rfl
  · exact absurd rfl (of_decide_eq_true (List.mem_filter.mp elsewhere).2)

end Servers

/-! ### Whole calls -/

section Whole

variable (digest : Digest) (others : OtherStores) {format : ConfigFormat Content}
  (validate : Validate)

variable {engine : Engine Content} {request : Request format}

/-- What is stored by the end of a call that is in place, if nothing is forgotten. -/
theorem vault_stored {store other : StoreId} {config : OperatorConfig} {item : List Char × Server}
    {entry : List Char × List Char} {name : List Char}
    (known : StoreId.find (request.secretStore.getD StoreId.keychain.text) = some store)
    (replaced : replacing digest others validate engine request = some config)
    (member : item ∈ config.servers) (present : entry ∈ fields item.2)
    (parsed : parse others entry.2 = some (other.text, name))
    (backed : (engine.vault other name).isSome = true ∨ PutInPlace format engine.file
      request.mutation item.1 entry.1 entry.2) :
    (Function.update engine.vault store (stagedFor digest others engine request store).2.2.held
      other name).isSome = true := by
  rcases backed with before | put
  · by_cases same : other = store
    · subst same
      rw [Function.update_self]
      exact staged_stored digest others before
    · rw [Function.update_of_ne same]
      exact before
  · obtain ⟨same, stored⟩ := staged_put digest others known replaced member present parsed put
    subst same
    rw [Function.update_self]
    exact stored

/-- A refused call leaves the file, and the stored values but for those it reports. -/
theorem called_refused {next : Engine Content} {outcome : Outcome}
    (ends : Called digest others validate engine request next outcome)
    (refused : outcome.isRefused = true) :
    next.file = engine.file ∧ ∀ store name,
      next.vault store name = engine.vault store name ∨ name ∈ outcome.notPutBack := by
  cases ends with
  | unknownStore error unknown => exact ⟨rfl, fun store name => Or.inl rfl⟩
  | undone store error known same =>
    refine ⟨rfl, ?_⟩
    intro other name
    by_cases own : other = store
    · subst own
      dsimp only
      rw [Function.update_self]
      exact (staged_recorded digest others engine request other).putBack request.answers name
    · dsimp only
      rw [Function.update_of_ne own]
      exact Or.inl rfl
  | unconfirmed store error config known replaced differs => cases refused
  | unloaded store error config known replaced => cases refused
  | done store config loaded result known saved replaced read => cases refused

/-- A call that is not refused has replaced the file, and what the new references stand for is what
was staged. -/
theorem called_in_place {next : Engine Content} {outcome : Outcome}
    (ends : Called digest others validate engine request next outcome)
    (inPlace : outcome.isRefused = false) :
    ∃ store config, StoreId.find (request.secretStore.getD StoreId.keychain.text) = some store ∧
      replacing digest others validate engine request = some config ∧
      next.file = some (format.render config) ∧
      ∀ item ∈ config.servers, ∀ entry ∈ fields item.2, ∀ other name,
        parse others entry.2 = some (other.text, name) →
        next.vault other name = Function.update engine.vault store
          (stagedFor digest others engine request store).2.2.held other name := by
  cases ends with
  | unknownStore error unknown => cases inPlace
  | undone store error known same => cases inPlace
  | unconfirmed store error config known replaced differs =>
    exact ⟨store, config, known, replaced, rfl, fun _ _ _ _ _ _ _ => rfl⟩
  | unloaded store error config known replaced =>
    exact ⟨store, config, known, replaced, rfl, fun _ _ _ _ _ _ _ => rfl⟩
  | done store config loaded result known saved replaced read =>
    refine ⟨store, config, known, replaced, rfl, ?_⟩
    intro item member entry present other name parsed
    dsimp only
    cases (stagedFor digest others engine request store).2.1 with
    | none => rfl
    | some before =>
      obtain ⟨was, server⟩ := before
      obtain ⟨written, valid⟩ := reference_of_parse others parsed
      obtain ⟨kept, inside, holds⟩ := request.loading.keeps _ config loaded
        (format.load_render config) read item member
      have refers : (entry.1, reference other name) ∈ fields kept :=
        written ▸ holds entry present (written ▸ reference_plain other valid)
      exact forget_keeps digest others request.answers was server _ _ inside refers

/-- A call is refused if nothing replaces the file, and otherwise unless the same content was put
in place without being confirmed. -/
theorem called_verdict {next : Engine Content} {outcome : Outcome}
    (ends : Called digest others validate engine request next outcome) :
    (replacing digest others validate engine request = none → outcome.isRefused = true) ∧
      ∀ config, replacing digest others validate engine request = some config →
        (request.saving = .saved ∨ engine.file ≠ some (format.render config)) →
        outcome.isRefused = false := by
  cases ends with
  | unknownStore error unknown =>
    refine ⟨fun _ => rfl, ?_⟩
    intro config replaced
    rw [replacing, unknown] at replaced
    cases replaced
  | undone store error known same =>
    refine ⟨fun _ => rfl, ?_⟩
    intro config replaced inPlace
    rcases same with none | ⟨other, cause, unconfirmed, again, sameFile⟩
    · rw [replaced] at none
      cases none
    · rw [replaced] at again
      cases again
      rcases inPlace with saved | differs
      · rw [saved] at unconfirmed
        cases unconfirmed
      · exact absurd sameFile differs
  | unconfirmed store error config known replaced differs =>
    refine ⟨?_, fun _ _ _ => rfl⟩
    intro nothing
    rw [nothing] at replaced
    cases replaced
  | unloaded store error config known replaced =>
    refine ⟨?_, fun _ _ _ => rfl⟩
    intro nothing
    rw [nothing] at replaced
    cases replaced
  | done store config loaded result known saved replaced read =>
    refine ⟨?_, fun _ _ _ => rfl⟩
    intro nothing
    rw [nothing] at replaced
    cases replaced

variable [DecidableEq Content]

/-! ### Fixed inputs -/

/-- The digest of one text. -/
def mailDigest : Digest where
  hex := fun text =>
    if text = digested "mail".toList "API_KEY".toList then
      "2135819d3613c9a97d902d2aaeab36b743c997f502841a3aad40bfdc02ffd23b".toList
    else List.replicate 64 '0'
  length_hex := by
    intro text
    split
    · decide
    · exact List.length_replicate
  hex_digits := by
    intro text character member
    split at member
    · have digits :
          "2135819d3613c9a97d902d2aaeab36b743c997f502841a3aad40bfdc02ffd23b".toList.all isHexDigit =
            true := by
        decide
      exact List.all_eq_true.mp digits character member
    · rw [List.eq_of_mem_replicate member]
      decide

def noOthers : OtherStores := ⟨[], by simp⟩

/-- The file is read as it stands. -/
def plainLoading : Loading plainFormat where
  loadConfig := plainFormat.load
  keeps := by
    intro file config loaded read same item member
    rw [read] at same
    cases same
    exact ⟨item.2, List.mem_map.mpr ⟨item, member, rfl⟩, fun entry inside _ => inside⟩

def emptyConfig : OperatorConfig := ⟨[], noServers, [], noClients, [], []⟩

def emptyEngine : Engine OperatorConfig := ⟨some emptyConfig, emptyConfig, fun _ _ => none⟩

/-- A server with an entry of the environment. -/
def withEntry (key value : String) : Server :=
  ⟨{ echoServer.config with env := [(key, value)] }, by simp⟩

def requestWith (mutation : OperatorMutation) (saving : Saving) : Request plainFormat :=
  ⟨mutation, none, fun _ => none, .succeed, saving, plainLoading⟩

end Whole

end Plug.Secrets
