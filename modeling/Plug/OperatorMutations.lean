import Plug.ClientBlocks
import Plug.ServerConfigs
import Plug.WatchEvents

/-!
# Changes by the operator

An operator's change is applied to the configuration as the file has it, the tool blocks of the
clients are stored by server and tool on the way, and the file is replaced as a whole. How saving
ends is part of a change: nothing is replaced if it fails before the new file is in place, and
the new file is there if it fails after that.

What a whole configuration is checked for, and how it is written as text, is left open.
-/

namespace Plug.Operator

open Text ToolNaming Access Watch

/-! ### Configurations -/

/-- What a client reads in place of a stored value. -/
def redactedSecret : String := "••••••••"

/-- A server, whose environment has each key once. -/
structure Server where
  config : Reload.ServerConfig
  envDistinct : (config.env.map Prod.fst).Nodup
deriving DecidableEq

deriving instance DecidableEq for ClientSettings

/-- The configuration of an operator's change. Servers and clients are there once. -/
structure OperatorConfig where
  servers : List (List Char × Server)
  serversDistinct : (servers.map Prod.fst).Nodup
  clients : List (List Char × ClientSettings)
  clientsDistinct : (clients.map Prod.fst).Nodup
  disabledTools : List (List Char)
  watch : List WatchConfig
deriving DecidableEq

theorem noServers : (([] : List (List Char × Server)).map Prod.fst).Nodup := List.nodup_nil

theorem noClients : (([] : List (List Char × ClientSettings)).map Prod.fst).Nodup := List.nodup_nil

def OperatorConfig.clientConfig (config : OperatorConfig) : ClientConfig where
  servers := config.servers.map Prod.fst
  clients := config.clients
  clientsDistinct := config.clientsDistinct

def OperatorConfig.withClients (config : OperatorConfig) (changed : ClientConfig) :
    OperatorConfig :=
  { config with clients := changed.clients, clientsDistinct := changed.clientsDistinct }

section Tables

variable {Value : Type}

def without (table : List (List Char × Value)) (key : List Char) : List (List Char × Value) :=
  table.filter fun item => item.1 ≠ key

theorem distinct_without {table : List (List Char × Value)} (distinct : (table.map Prod.fst).Nodup)
    (key : List Char) : ((without table key).map Prod.fst).Nodup :=
  distinct.sublist (List.filter_sublist.map _)

theorem distinct_cons {table : List (List Char × Value)} (distinct : (table.map Prod.fst).Nodup)
    (key : List Char) (value : Value) :
    (((key, value) :: without table key).map Prod.fst).Nodup := by
  rw [List.map_cons, List.nodup_cons]
  refine ⟨?_, distinct_without distinct key⟩
  intro member
  obtain ⟨item, kept, same⟩ := List.mem_map.mp member
  exact absurd same (of_decide_eq_true (List.mem_filter.mp kept).2)

theorem distinct_map {table : List (List Char × Value)} (distinct : (table.map Prod.fst).Nodup)
    (change : Value → Value) :
    ((table.map fun item => (item.1, change item.2)).map Prod.fst).Nodup := by
  rw [map_second_keys change]
  exact distinct

end Tables

def OperatorConfig.insertServer (config : OperatorConfig) (name : List Char) (server : Server) :
    OperatorConfig :=
  { config with
    servers := (name, server) :: without config.servers name
    serversDistinct := distinct_cons config.serversDistinct name server }

def OperatorConfig.dropServer (config : OperatorConfig) (name : List Char) : OperatorConfig :=
  { config with
    servers := without config.servers name
    serversDistinct := distinct_without config.serversDistinct name }

def OperatorConfig.insertClient (config : OperatorConfig) (key : List Char)
    (settings : ClientSettings) : OperatorConfig :=
  { config with
    clients := (key, settings) :: without config.clients key
    clientsDistinct := distinct_cons config.clientsDistinct key settings }

def OperatorConfig.dropClient (config : OperatorConfig) (key : List Char) : OperatorConfig :=
  { config with
    clients := without config.clients key
    clientsDistinct := distinct_without config.clientsDistinct key }

/-- The settings of every client changed alike. -/
def OperatorConfig.mapClients (config : OperatorConfig)
    (change : ClientSettings → ClientSettings) : OperatorConfig :=
  { config with
    clients := config.clients.map fun item => (item.1, change item.2)
    clientsDistinct := distinct_map config.clientsDistinct change }

/-! ### Secrets that were not read -/

/-- The entries of an environment with the stored values in place of what was read. A placeholder
with nothing stored behind it is dropped. -/
def restoreEnv (env : List (String × String)) (stored : List (String × String)) :
    List (String × String) :=
  env.filterMap fun (key, value) =>
    if value ≠ redactedSecret then some (key, value)
    else (stored.lookup key).map fun original => (key, original)

theorem restoreEnv_keys (env stored : List (String × String)) :
    List.Sublist ((restoreEnv env stored).map Prod.fst) (env.map Prod.fst) := by
  induction env with
  | nil => exact List.Sublist.slnil
  | cons entry rest ih =>
    obtain ⟨key, value⟩ := entry
    rw [restoreEnv, List.filterMap_cons]
    by_cases plain : value ≠ redactedSecret
    · simp only [if_pos plain, List.map_cons]
      exact ih.cons_cons key
    · simp only [if_neg plain]
      cases stored.lookup key with
      | none => exact ih.cons key
      | some original => exact ih.cons_cons key

def Server.restoreRedactedSecrets (server : Server) (stored : Option Server) : Server where
  config :=
    { server.config with
      authToken :=
        if server.config.authToken = some redactedSecret then
          stored.bind fun stored => stored.config.authToken
        else server.config.authToken
      env := restoreEnv server.config.env
        ((stored.map fun stored => stored.config.env).getD []) }
  envDistinct := server.envDistinct.sublist (restoreEnv_keys _ _)

/-! ### Changes -/

inductive OperatorMutation where
  | addServer (name : List Char) (server : Server)
  | updateServer (name : List Char) (server : Server)
  | removeServer (name : List Char)
  | addAccount (server account : List Char)
  | setServerEnabled (name : List Char) (enabled : Bool)
  | setToolEnabled (tool : List Char) (enabled : Bool)
  | renameClient (key name : List Char)
  | setClientPlace (key place : List Char)
  | moveClientSettings (source target : List Char)
  | setClientBlock (key : List Char) (kind : ClientBlockKind) (target : List Char) (blocked : Bool)
  | pinToolBlocks
  | addWatch (watch : WatchConfig)
  | removeWatch (event : String)

structure OperatorServerSummary where
  name : List Char
  enabled : Bool
  transport : Reload.TransportType
  oauth : Bool

def OperatorServerSummary.fromConfig (name : List Char) (server : Server) :
    OperatorServerSummary where
  name := name
  enabled := server.config.enabled
  transport := server.config.transport
  oauth := server.config.auth == some "oauth"

/-- `disabledTools` is there after a tool was switched. -/
structure OperatorMutationResult where
  server : Option OperatorServerSummary
  disabledTools : Option (List (List Char))

/-- The result of a change that concerns one server, or none. -/
def OperatorMutationResult.ofServer (summary : Option OperatorServerSummary) :
    OperatorMutationResult :=
  ⟨summary, none⟩

def unknownServer (name : List Char) : List Char :=
  "unknown server `".toList ++ name ++ "`".toList

def serverExists (name : List Char) : List Char :=
  "server `".toList ++ name ++ "` already exists".toList

/-! ### Accounts -/

def maxAccountLabel : Nat := 24

/-- An account label becomes part of every tool name. -/
def labelFits (label : List Char) : Bool :=
  !label.isEmpty && byteLength label ≤ maxAccountLabel &&
    label.all (fun character => character.isLower || character.isDigit) &&
    (label.head?.any Char.isLower)

/-- A second account is the same server under another name. -/
def accountCopy (config : OperatorConfig) (server account : List Char) :
    Except (List Char) (List Char × Server) :=
  match config.servers.lookup server with
  | none => .error (unknownServer server)
  | some source =>
    let label := trim account
    if !labelFits label then
      .error ("an account name is lowercase letters and digits, starts with a letter, " ++
        "and is at most 24 long").toList
    else
      let name := server ++ '-' :: label
      if (config.servers.lookup name).isSome then .error (serverExists name)
      else
        let groups := if source.config.toolGroups.isEmpty && server == "workspace".toList then
          Catalog.defaultWorkspaceRules else source.config.toolGroups
        let suffix := formatServerPrefix label
        .ok (name,
          { source with
            config := { source.config with
              toolGroups := groups.map fun group =>
                { group with wirePrefix := group.wirePrefix ++ suffix } } })

/-! ### Switching tools -/

def sameIgnoringCase (first second : List Char) : Bool :=
  toAsciiLowercase first == toAsciiLowercase second

/-- A tool is switched on by dropping its own patterns, unless another one covers it. -/
def setToolEnabled (disabledTools : List (List Char)) (tool : List Char) (enabled : Bool) :
    Except (List Char) (List (List Char)) :=
  if trim tool = [] then .error "tool name is required".toList
  else if enabled then
    let rest := disabledTools.filter fun pattern => !sameIgnoringCase pattern tool
    match rest.find? fun pattern => isDisabledTool [pattern] tool with
    | some pattern => .error ("`".toList ++ tool ++ "` stays off because the pattern `".toList ++
        pattern ++ "` covers it; remove that pattern to turn it back on".toList)
    | none => .ok rest
  else if disabledTools.any fun pattern => sameIgnoringCase pattern tool then .ok disabledTools
  else .ok (sortStrings (disabledTools ++ [tool]))

/-! ### Clients -/

def clientNameMaxChars : Nat := 60

inductive ClientLabel where
  | name
  | place
deriving DecidableEq

def ClientLabel.what : ClientLabel → List Char
  | .name => "name".toList
  | .place => "place".toList

def ClientSettings.setLabel (settings : ClientSettings) (label : ClientLabel)
    (text : Option (List Char)) : ClientSettings :=
  match label with
  | .name => { settings with name := text }
  | .place => { settings with place := text }

/-- An empty text takes the label away, and settings left empty are not kept. -/
def labelClient (config : OperatorConfig) (key text : List Char) (label : ClientLabel) :
    Except (List Char) OperatorConfig :=
  let key := trim key
  let text := trim text
  if key = [] then .error "client key is required".toList
  else if clientNameMaxChars < text.length then
    .error ("a client ".toList ++ label.what ++ " can be at most 60 characters".toList)
  else if text.any isControl then
    .error ("a client ".toList ++ label.what ++ " cannot contain control characters".toList)
  else if text = [] then
    match config.clients.lookup key with
    | none => .ok config
    | some settings =>
      let changed := ClientSettings.setLabel settings label none
      .ok (if changed.isEmpty then config.dropClient key else config.insertClient key changed)
  else
    let settings := (config.clients.lookup key).getD .unset
    .ok (config.insertClient key (ClientSettings.setLabel settings label (some text)))

/-- The settings of one client in place of another's. -/
def moveClientSettings (config : OperatorConfig) (source target : List Char) :
    Except (List Char) OperatorConfig :=
  let source := trim source
  let target := trim target
  if source = [] ∨ target = [] then .error "client key is required".toList
  else if source = target then .error "a client cannot take over its own settings".toList
  else
    match config.clients.lookup source with
    | some settings => .ok ((config.dropClient source).insertClient target settings)
    | none => .ok (config.dropClient target)

/-- A list that is emptied still holds. -/
def ClientSettings.forgetServer (settings : ClientSettings) (name : List Char) : ClientSettings :=
  { settings with
    onlyAllowed := settings.hasAllowList
    allowedServers := settings.allowedServers.filter (· ≠ name)
    allowedTools := settings.allowedTools.filter fun tool => tool.server ≠ name }

/-! ### One change -/

/-- What is wrong with a configuration, an empty list if nothing is. -/
abbrev Validate := OperatorConfig → List String

def joinErrors (errors : List String) : List Char := ("; ".intercalate errors).toList

def mutate (validate : Validate) (toolBehind : ToolBehind) (config : OperatorConfig) :
    OperatorMutation → Except (List Char) (OperatorConfig × OperatorMutationResult)
  | .addServer name server =>
    if (config.servers.lookup name).isSome then .error (serverExists name)
    else
      let server := server.restoreRedactedSecrets none
      .ok (config.insertServer name server, .ofServer (some (.fromConfig name server)))
  | .updateServer name server =>
    match config.servers.lookup name with
    | none => .error (unknownServer name)
    | some stored =>
      let server := server.restoreRedactedSecrets (some stored)
      .ok (config.insertServer name server, .ofServer (some (.fromConfig name server)))
  | .removeServer name =>
    if (config.servers.lookup name).isNone then .error (unknownServer name)
    else
      .ok ((config.dropServer name).mapClients fun settings =>
        ClientSettings.forgetServer settings name, .ofServer none)
  | .addAccount server account =>
    (accountCopy config server account).map fun (name, copy) =>
      (config.insertServer name copy, .ofServer (some (.fromConfig name copy)))
  | .setServerEnabled name enabled =>
    match config.servers.lookup name with
    | none => .error (unknownServer name)
    | some stored =>
      let server := { stored with config := { stored.config with enabled := enabled } }
      .ok (config.insertServer name server, .ofServer (some (.fromConfig name server)))
  | .setToolEnabled tool enabled =>
    (setToolEnabled config.disabledTools tool enabled).map fun disabledTools =>
      ({ config with disabledTools := disabledTools }, ⟨none, some disabledTools⟩)
  | .renameClient key name =>
    (labelClient config key name .name).map fun changed => (changed, .ofServer none)
  | .setClientPlace key place =>
    (labelClient config key place .place).map fun changed => (changed, .ofServer none)
  | .moveClientSettings source target =>
    (moveClientSettings config source target).map fun changed => (changed, .ofServer none)
  | .setClientBlock key kind target blocked =>
    (setClientBlock config.clientConfig key kind target blocked toolBehind).map fun changed =>
      (config.withClients changed, .ofServer none)
  | .pinToolBlocks => .ok (config, .ofServer none)
  | .addWatch watch =>
    let changed := { config with watch := config.watch ++ [watch] }
    let errors := (validate changed).filter fun error => "events.watch".isPrefixOf error
    if errors = [] then .ok (changed, .ofServer none) else .error (joinErrors errors)
  | .removeWatch event =>
    let rest := config.watch.filter fun watch => watch.eventName ≠ event
    if rest.length = config.watch.length then
      .error ("no watch named `".toList ++ event.toList ++ "`".toList)
    else .ok ({ config with watch := rest }, .ofServer none)

/-! ### Saving -/

/-- The file, which is read by figment and written as TOML. What is written reads back. -/
structure ConfigFormat (Content : Type) where
  load : Option Content → Except (List Char) OperatorConfig
  render : OperatorConfig → Content
  load_render : ∀ config, load (some (render config)) = .ok config

/-- How the writes of saving end: with an error before the new file is in place, with an error
after that, or well. -/
inductive Saving where
  | failed (error : List Char)
  | unconfirmed (error : List Char)
  | saved

variable {Content : Type} (format : ConfigFormat Content) (validate : Validate)

/-- What the file holds then, and how the call ends. -/
def persistConfigAtomic (file : Option Content) (config : OperatorConfig) (saving : Saving) :
    Option Content × Except (List Char) Unit :=
  if validate config ≠ [] then (file, .error (joinErrors (validate config)))
  else
    match saving with
    | .failed error => (file, .error error)
    | .unconfirmed error => (some (format.render config), .error error)
    | .saved => (some (format.render config), .ok ())

/-- A change to the configuration in the file. -/
def applyOperatorMutationKnowing (file : Option Content) (mutation : OperatorMutation)
    (toolBehind : ToolBehind) (saving : Saving) :
    Option Content × Except (List Char) (OperatorConfig × OperatorMutationResult) :=
  match format.load file with
  | .error error => (file, .error error)
  | .ok loaded =>
    let config := loaded.withClients (loaded.clientConfig.pinToolBlocks toolBehind)
    match mutate validate toolBehind config mutation with
    | .error error => (file, .error error)
    | .ok (changed, result) =>
      let (after, ended) := persistConfigAtomic format validate file changed saving
      (after, ended.map fun _ => (changed, result))

/-- What was made of a result was made of a good one. -/
theorem map_eq_ok {Result Other : Type} {make : Result → Other} {ended : Except (List Char) Result}
    {made : Other} (mapped : ended.map make = .ok made) :
    ∃ result, ended = .ok result ∧ make result = made := by
  cases ended with
  | error error => cases mapped
  | ok result => exact ⟨result, rfl, Except.ok.inj mapped⟩

end Plug.Operator
