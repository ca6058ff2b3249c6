import Mathlib.Logic.Function.Basic
import Plug.OperatorMutations
import Plug.SecretNames

/-!
# Secret stores

A value in a server's configuration may be a reference, a store and a name in it, in place of the
value itself. Plug moves the credentials typed into a server to a store and leaves references in
their place; a change that is refused afterwards is undone, and what a removed server referred to
is removed with it unless a remaining server refers to it too.

How the stores answer is part of a call. An operation that fails leaves a store as it is.
-/

namespace Plug.Secrets

open Text Operator

/-- The stores that Plug can write: the Keychain, and its own file. -/
inductive StoreId where
  | keychain
  | file
deriving DecidableEq

def StoreId.text : StoreId → List Char
  | .keychain => "keychain".toList
  | .file => "file".toList

def StoreId.find (text : List Char) : Option StoreId :=
  if text = StoreId.keychain.text then some .keychain
  else if text = StoreId.file.text then some .file
  else none

/-- What the stores hold by name. -/
abbrev Vault := StoreId → List Char → Option (List Char)

/-- The other stores a reference may name, with the names each of them takes. None is called like
the Keychain or the file. -/
structure OtherStores where
  accepts : List (List Char × (List Char → Bool))
  apart : ∀ store ∈ accepts, StoreId.find store.1 = none

def reference (store : StoreId) (name : List Char) : List Char :=
  store.text ++ ':' :: name

/-- The value refers to an environment variable. -/
def refersToEnv (value : List Char) : Bool :=
  (value.zip value.tail).any fun (mark, next) => mark == '$' && (next.isUpper || next == '_')

/-- A value a person typed, as opposed to a variable, a placeholder, or nothing. -/
def isLiteral (value : List Char) : Bool :=
  !value.isEmpty && value != redactedSecret.toList && !refersToEnv value

/-! ### Fields -/

/-- The bearer token and the environment by the fields they are stored under. -/
def fields (server : Server) : List (List Char × List Char) :=
  (server.config.authToken.toList.map fun token => (tokenField, token.toList)) ++
    server.config.env.map fun entry => (envField entry.1.toList, entry.2.toList)

section Stores

variable (digest : Digest) (others : OtherStores)

/-- The store and the name, when the whole value is a reference to a store that exists. -/
def parse (value : List Char) : Option (List Char × List Char) :=
  (splitOnce [':'] value).filter fun (store, name) =>
    match StoreId.find store with
    | some _ => validName name
    | none => (others.accepts.lookup store).any fun accepts => accepts name

/-- A credential in the clear. -/
def isClear (value : List Char) : Bool :=
  isLiteral value && (parse others value).isNone

/-- How the stores answer, by field while credentials are moved and removed, and by name while
they are put back. -/
structure Answers where
  reads : List Char → Bool
  writes : List Char → Bool
  undoes : List Char → Bool
  removes : List Char → Bool

def Answers.succeed : Answers :=
  ⟨fun _ => true, fun _ => true, fun _ => true, fun _ => true⟩

/-- What a store holds while credentials are moved to it, and what each name held before. -/
structure Staged where
  held : List Char → Option (List Char)
  kept : List (List Char × Option (List Char))

variable (answers : Answers) (store : StoreId) (serverName : List Char)

/-- One field. Without the old value there is no undoing, so a store that cannot be read is not
written; of the values seen under a name the first is the one to go back to. -/
def put (field value : List Char) (staged : Staged) : Option (List Char) × Staged :=
  if !isLiteral value || (parse others value).isSome then (none, staged)
  else
    let name := nameFor digest serverName field
    if !answers.reads field then (none, staged)
    else if !answers.writes field then (none, staged)
    else
      (some (reference store name),
        { held := Function.update staged.held name (some value)
          kept := if staged.kept.any fun seen => seen.1 == name then staged.kept
            else staged.kept ++ [(name, staged.held name)] })

def putToken (token : Option String) (staged : Staged) : Option String × Staged :=
  match token with
  | none => (none, staged)
  | some value =>
    let (written, staged) := put digest others answers store serverName tokenField value.toList staged
    (some ((written.map String.ofList).getD value), staged)

def putEnv : List (String × String) → Staged → List (String × String) × Staged
  | [], staged => ([], staged)
  | (key, value) :: rest, staged =>
    if looksSecret key.toList then
      let (written, staged) :=
        put digest others answers store serverName (envField key.toList) value.toList staged
      let (rest, staged) := putEnv rest staged
      ((key, (written.map String.ofList).getD value) :: rest, staged)
    else
      let (rest, staged) := putEnv rest staged
      ((key, value) :: rest, staged)

theorem putEnv_keys (env : List (String × String)) (staged : Staged) :
    (putEnv digest others answers store serverName env staged).1.map Prod.fst =
      env.map Prod.fst := by
  induction env generalizing staged with
  | nil => rfl
  | cons entry rest ih =>
    obtain ⟨key, value⟩ := entry
    rw [putEnv]
    split
    · simp only [List.map_cons, ih]
    · simp only [List.map_cons, ih]

/-- The server with references for its credentials, and what was stored for them. -/
def keepStaged (server : Server) (held : List Char → Option (List Char)) : Server × Staged :=
  let token := putToken digest others answers store serverName server.config.authToken ⟨held, []⟩
  let env := putEnv digest others answers store serverName server.config.env token.2
  (⟨{ server.config with authToken := token.1, env := env.1 },
    (putEnv_keys digest others answers store serverName server.config.env token.2) ▸
      server.envDistinct⟩, env.2)

/-- What the store holds after the names got back what they held, and the names that did not. -/
def putBack (held : List Char → Option (List Char)) :
    List (List Char × Option (List Char)) →
      (List Char → Option (List Char)) × List (List Char)
  | [] => (held, [])
  | (name, before) :: rest =>
    if answers.undoes name then putBack (Function.update held name before) rest
    else
      let (held, failed) := putBack held rest
      (held, name :: failed)

/-- The server, and the one it is an account of. -/
def owners (serverName : List Char) : List (List Char) :=
  match serverName.reverse.dropWhile fun character => character != '-' with
  | [] => [serverName]
  | _ :: base => [serverName, base.reverse]

/-- A stored secret is removed with the field that referred to it, if it was made for the field and
is in use nowhere else. -/
def forgetField (inUse : List (List Char)) (vault : Vault) (entry : List Char × List Char) :
    Vault :=
  if inUse.contains entry.2 then vault
  else
    match parse others entry.2 with
    | none => vault
    | some (id, name) =>
      match StoreId.find id with
      | none => vault
      | some id =>
        if ((owners serverName).any fun owner => madeFor digest owner entry.1 name) &&
            answers.removes entry.1 then
          Function.update vault id (Function.update (vault id) name none)
        else vault

def forget (server : Server) (remaining : List Server) (vault : Vault) : Vault :=
  let inUse := remaining.flatMap fun server => (fields server).map Prod.snd
  (fields server).foldl (forgetField digest others answers serverName inUse) vault

/-- The value a reference stands for. -/
def follow (vault : Vault) (value : List Char) : Option (List Char) :=
  (parse others value).bind fun (id, name) => (StoreId.find id).bind fun id => vault id name

end Stores

end Plug.Secrets
