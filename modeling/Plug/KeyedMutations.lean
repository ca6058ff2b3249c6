import Plug.SecretStores

/-!
# Changes with credentials

The service applies an operator's change while it holds the lock of the configuration. It first
moves the credentials typed into a server to a store; if the change is refused, the store gets back
what it held. A change that is in place is reloaded, and what the old server referred to is
forgotten. Each call is one step, as calls take turns. Reading the file back does not fail.
-/

namespace Plug.Secrets

open Text Operator Access

variable {Content : Type}

/-- How the file is read by the service. Text with no environment variable in it is read as it
stands. -/
structure Loading (format : ConfigFormat Content) where
  loadConfig : Option Content → Except (List Char) OperatorConfig
  keeps : ∀ file config loaded, format.load file = .ok config → loadConfig file = .ok loaded →
    ∀ item ∈ config.servers, ∃ server ∈ loaded.servers.map Prod.snd,
      ∀ entry ∈ fields item.2, refersToEnv entry.2 = false → entry ∈ fields server

structure Engine (Content : Type) where
  file : Option Content
  config : OperatorConfig
  vault : Vault

structure Request (format : ConfigFormat Content) where
  mutation : OperatorMutation
  secretStore : Option (List Char)
  toolBehind : ToolBehind
  answers : Answers
  saving : Saving
  loading : Loading format

/-- How a call ends. A refused one names the stored keys that could not be put back. -/
inductive Outcome where
  | refused (error : List Char) (notPutBack : List (List Char))
  | unconfirmed (error : List Char)
  | unloaded (error : List Char)
  | done (result : OperatorMutationResult)

def Outcome.isRefused : Outcome → Bool
  | .refused _ _ => true
  | _ => false

def Outcome.notPutBack : Outcome → List (List Char)
  | .refused _ names => names
  | _ => []

section Calls

variable (digest : Digest) (others : OtherStores) (format : ConfigFormat Content)

/-- The server that a change adds or updates, with what the file holds in place of what the
operator did not read. -/
def typedServer (file : Option Content) : OperatorMutation → Option (List Char × Server)
  | .addServer name server => some (name, server)
  | .updateServer name server =>
    match format.load file with
    | .ok config => some (name, server.restoreRedactedSecrets (config.servers.lookup name))
    | .error _ => some (name, server)
  | _ => none

/-- The change to apply, the server as it was, and what was stored. -/
def keepTypedSecrets (engine : Engine Content) (mutation : OperatorMutation) (store : StoreId)
    (answers : Answers) : OperatorMutation × Option (List Char × Server) × Staged :=
  let before (name : List Char) : Option (List Char × Server) :=
    (engine.config.servers.lookup name).map fun server => (name, server)
  let keep (name : List Char) (server : Server) : Server × Staged :=
    keepStaged digest others answers store name server (engine.vault store)
  match mutation, typedServer format engine.file mutation with
  | .addServer name _, some (_, server) =>
    (.addServer name (keep name server).1, none, (keep name server).2)
  | .updateServer name _, some (_, server) =>
    (.updateServer name (keep name server).1, before name, (keep name server).2)
  | .removeServer name, _ => (.removeServer name, before name, ⟨engine.vault store, []⟩)
  | other, _ => (other, none, ⟨engine.vault store, []⟩)

variable [DecidableEq Content] (validate : Validate)

/-- One call. -/
def applyOperatorMutationKeeping (engine : Engine Content) (request : Request format) :
    Engine Content × Outcome :=
  let id := request.secretStore.getD StoreId.keychain.text
  match StoreId.find id with
  | none =>
    (engine, .refused ("Plug cannot write keys to `".toList ++ id ++
      "`; choose `keychain` or `file`".toList) [])
  | some store =>
    let (mutation, before, staged) :=
      keepTypedSecrets digest others format engine request.mutation store request.answers
    match applyOperatorMutationKnowing format validate engine.file mutation request.toolBehind
        request.saving with
    | (file, .error error) =>
      if file ≠ engine.file then
        ({ engine with file := file, vault := Function.update engine.vault store staged.held },
          .unconfirmed error)
      else
        let (held, failed) := putBack request.answers staged.held staged.kept
        ({ engine with vault := Function.update engine.vault store held }, .refused error failed)
    | (file, .ok (_, result)) =>
      let vault := Function.update engine.vault store staged.held
      match request.loading.loadConfig file with
      | .error error => ({ engine with file := file, vault := vault }, .unloaded error)
      | .ok config =>
        let forgotten := match before with
          | none => vault
          | some (name, server) =>
            forget digest others request.answers name server (config.servers.map Prod.snd) vault
        (⟨file, config, forgotten⟩, .done result)

end Calls

end Plug.Secrets
