import Mathlib.Data.List.Lex
import Mathlib.Data.String.Basic
import Plug.KeyedLists
import Plug.ReloadCoverage
import Plug.ToolSwitches

/-!
# Variables in the configuration

When a configuration is loaded, the variables that its texts name are put in: those of the
environment files beside it, or else those of the process. The daemon is started with the variables
alone that a second walk over the same texts finds. So both walks must meet the same texts, and take
the same names from each.
-/

namespace Plug.Expansion

open Catalog (Environment ToolGroupRule expandEnvVars expandFrom inVariable startsVariable
  variableValue)
open KeyedListings (Listed listing)
open Reload (ServerConfig)

/-! ### One text -/

/-- The names of variables in the rest of a text, when one has been read so far or none has
begun. -/
def extractFrom : Option (List Char) → List Char → List (List Char)
  | pending, [] => pending.toList
  | pending, character :: rest =>
    if pending.isSome && inVariable character then
      extractFrom (pending.map (· ++ [character])) rest
    else
      pending.toList ++
        if character == '$' && rest.head?.any startsVariable then extractFrom (some []) rest
        else extractFrom none rest

def extractEnvRefs (text : List Char) : List (List Char) := extractFrom none text

theorem pending_congr {environment other : Environment} {pending : Option (List Char)}
    (agree : ∀ name ∈ pending.toList, environment name = other name) :
    (pending.map (variableValue environment)).getD [] =
      (pending.map (variableValue other)).getD [] := by
  cases pending with
  | none => rfl
  | some name =>
    rw [Option.map_some, Option.map_some, Option.getD_some, Option.getD_some, variableValue,
      variableValue, agree name List.mem_cons_self]

theorem expandFrom_congr {environment other : Environment} {pending : Option (List Char)}
    {text : List Char}
    (agree : ∀ name ∈ extractFrom pending text, environment name = other name) :
    expandFrom environment pending text = expandFrom other pending text := by
  induction text generalizing pending with
  | nil => exact pending_congr agree
  | cons character rest ih =>
    rw [extractFrom] at agree
    rw [expandFrom, expandFrom]
    split
    · rename_i further
      rw [if_pos further] at agree
      exact ih agree
    · rename_i ends
      rw [if_neg ends, List.forall_mem_append] at agree
      rw [pending_congr agree.1]
      congr 1
      have later := agree.2
      split
      · rename_i begins
        rw [if_pos begins] at later
        exact ih later
      · rename_i plain
        rw [if_neg plain] at later
        rw [ih later]

/-- Where no variable is known, a text is left as it is. -/
theorem expandFrom_unknown (pending : Option (List Char)) (text : List Char) :
    expandFrom (fun _ => none) pending text =
      (pending.map fun name => '$' :: name).getD [] ++ text := by
  have left : (pending.map (variableValue fun _ => none)).getD [] =
      (pending.map fun name => '$' :: name).getD [] := rfl
  induction text generalizing pending with
  | nil => rw [expandFrom, left, List.append_nil]
  | cons character rest ih =>
    rw [expandFrom]
    split
    · rename_i further
      rw [ih _ rfl]
      cases pending with
      | none => cases further
      | some name => simp
    · rw [left]
      congr 1
      split
      · rename_i begins
        rw [Bool.and_eq_true, beq_iff_eq] at begins
        rw [ih _ rfl, begins.1]
        rfl
      · rw [ih _ rfl]
        rfl

theorem expandEnvVars_congr {environment other : Environment} {text : List Char}
    (agree : ∀ name ∈ extractEnvRefs text, environment name = other name) :
    expandEnvVars environment text = expandEnvVars other text := expandFrom_congr agree

theorem expandEnvVars_unknown (text : List Char) : expandEnvVars (fun _ => none) text = text :=
  expandFrom_unknown none text

/-! ### The configuration -/

/-- The settings whose texts are walked over. The maps whose keys are among them are listed in the
order of the keys. -/
structure Settings extends Reload.Config where
  logLevel : String
  publicBaseUrl : Option String
  httpOauthScopes : Option (List String)
  tlsCertPath : Option String
  tlsKeyPath : Option String
  clientsListed : Listed lazyTools.clients
  renamesListed : ∀ server ∈ servers, Listed server.2.toolRenames

/-- The order in which the entries of a map are met. -/
def walk {Key Value : Type} (order : Key → Nat) (entries : List (Key × Value)) :
    List (Key × Value) :=
  entries.insertionSort fun entry other => order entry.1 ≤ order other.1

/-- What a process finds around it, and the orders in which it walks over the maps. -/
structure Surroundings where
  envMap : Environment
  process : Environment
  clientOrder : String → Nat
  renameOrder : String → List Char → Nat

def Surroundings.lookup (surroundings : Surroundings) (name : List Char) : Option (List Char) :=
  (surroundings.envMap name).or (surroundings.process name)

section Transforming

variable (surroundings : Surroundings) (transform : List Char → List Char)

def onString (text : String) : String := String.ofList (transform text.toList)

def transformGroup (group : ToolGroupRule) : ToolGroupRule where
  wirePrefix := transform group.wirePrefix
  contains := group.contains.map transform
  strip := group.strip.map transform

def transformServer (name : String) (server : ServerConfig) : ServerConfig :=
  { server with
    command := server.command.map (onString transform)
    args := server.args.map (onString transform)
    env := server.env.map fun (key, value) => (key, onString transform value)
    url := server.url.map (onString transform)
    authToken := server.authToken.map (onString transform)
    auth := server.auth.map (onString transform)
    oauthClientId := server.oauthClientId.map (onString transform)
    oauthScopes := server.oauthScopes.map (List.map (onString transform))
    toolRenames :=
      if server.toolRenames = [] then []
      else listing ((walk (surroundings.renameOrder name) server.toolRenames).map
        fun (key, value) => (transform key, transform value))
    toolGroups := server.toolGroups.map (transformGroup transform) }

theorem transformServer_listed (name : String) (server : ServerConfig) :
    Listed (transformServer surroundings transform name server).toolRenames := by
  dsimp only [transformServer]
  split
  · exact List.Pairwise.nil
  · exact KeyedListings.listing_listed _

def transformEnvExpandableStrings (settings : Settings) : Settings where
  prefixDelimiter := onString transform settings.prefixDelimiter
  enablePrefix := settings.enablePrefix
  toolFilterEnabled := settings.toolFilterEnabled
  toolDescriptionMaxChars := settings.toolDescriptionMaxChars
  toolSearchThreshold := settings.toolSearchThreshold
  metaToolMode := settings.metaToolMode
  lazyTools := { settings.lazyTools with
    clients := listing ((walk surroundings.clientOrder settings.lazyTools.clients).map
      fun (target, mode) => (onString transform target, mode)) }
  priorityTools := settings.priorityTools.map (onString transform)
  disabledTools := settings.disabledTools.map (onString transform)
  secrets := settings.secrets
  http := { settings.http with
    bindAddress := onString transform settings.http.bindAddress
    allowedOrigins := settings.http.allowedOrigins.map (onString transform) }
  modernUpstreamEnabled := settings.modernUpstreamEnabled
  daemonGracePeriodSecs := settings.daemonGracePeriodSecs
  servers := settings.servers.map fun (name, server) =>
    (name, transformServer surroundings transform name server)
  serversDistinct := by
    rw [List.map_map]
    exact settings.serversDistinct
  logLevel := onString transform settings.logLevel
  publicBaseUrl := settings.publicBaseUrl.map (onString transform)
  httpOauthScopes := settings.httpOauthScopes.map (List.map (onString transform))
  tlsCertPath := settings.tlsCertPath.map (onString transform)
  tlsKeyPath := settings.tlsKeyPath.map (onString transform)
  clientsListed := KeyedListings.listing_listed _
  renamesListed := by
    rw [List.forall_mem_map]
    exact fun server _ => transformServer_listed surroundings transform server.1 server.2

end Transforming

def expandEnvVarsWithSource (surroundings : Surroundings) (text : List Char) : List Char :=
  expandEnvVars surroundings.lookup text

def expandConfigEnvRefs (surroundings : Surroundings) (settings : Settings) : Settings :=
  transformEnvExpandableStrings surroundings (expandEnvVarsWithSource surroundings) settings

/-! ### The second walk -/

/-- The fields of a server and their texts. -/
def visitServer (server : ServerConfig) : List (String × List Char) :=
  server.command.toList.map (fun command => ("command", command.toList)) ++
  server.args.map (fun arg => ("args", arg.toList)) ++
  server.env.map (fun (key, value) => ("env." ++ key, value.toList)) ++
  server.url.toList.map (fun url => ("url", url.toList)) ++
  server.authToken.toList.map (fun token => ("auth_token", token.toList)) ++
  server.auth.toList.map (fun auth => ("auth", auth.toList)) ++
  server.oauthClientId.toList.map (fun clientId => ("oauth_client_id", clientId.toList)) ++
  (server.oauthScopes.getD []).map (fun scope => ("oauth_scopes", scope.toList)) ++
  server.toolRenames.flatMap (fun (key, value) =>
    [("tool_renames.key", key), ("tool_renames.value", value)]) ++
  server.toolGroups.flatMap fun group =>
    ("tool_groups.prefix", group.wirePrefix) ::
      (group.contains.map (fun item => ("tool_groups.contains", item)) ++
        group.strip.map fun item => ("tool_groups.strip", item))

/-- The server, the field and the text of each place where variables are put in. -/
def visitEnvExpandableFields (settings : Settings) : List (Option String × String × List Char) :=
  [(none, "log_level", settings.logLevel.toList),
    (none, "prefix_delimiter", settings.prefixDelimiter.toList)] ++
  settings.lazyTools.clients.map (fun client =>
    (none, "lazy_tools.clients.key", client.1.toList)) ++
  settings.priorityTools.map (fun tool => (none, "priority_tools", tool.toList)) ++
  settings.disabledTools.map (fun tool => (none, "disabled_tools", tool.toList)) ++
  [(none, "http.bind_address", settings.http.bindAddress.toList)] ++
  settings.http.allowedOrigins.map (fun origin => (none, "http.allowed_origins", origin.toList)) ++
  settings.tlsCertPath.toList.map (fun path => (none, "http.tls_cert_path", path.toList)) ++
  settings.tlsKeyPath.toList.map (fun path => (none, "http.tls_key_path", path.toList)) ++
  settings.publicBaseUrl.toList.map (fun url => (none, "http.public_base_url", url.toList)) ++
  (settings.httpOauthScopes.getD []).map (fun scope =>
    (none, "http.oauth_scopes", scope.toList)) ++
  settings.servers.flatMap fun (name, server) =>
    (visitServer server).map fun (field, text) => (some name, field, text)

def visitEnvExpandableStrings (settings : Settings) : List (List Char) :=
  (visitEnvExpandableFields settings).map fun visited => visited.2.2

/-- The variables that the daemon is started with. -/
def loadRawConfig (settings : Settings) : List (List Char) :=
  ((visitEnvExpandableStrings settings).flatMap extractEnvRefs).dedup.insertionSort (· ≤ ·)

/-! ### Both walks meet the same texts -/

theorem walk_perm {Key Value : Type} (order : Key → Nat) (entries : List (Key × Value)) :
    (walk order entries).Perm entries := List.perm_insertionSort _ entries

section Maps

variable {Key Value : Type} [LinearOrder Key] {entries : List (Key × Value)}
  {change other : Key × Value → Key × Value}

/-- The map that is made does not depend on the order of the walk, while the keys stay distinct. -/
theorem listing_walk_congr (agree : ∀ entry ∈ entries, change entry = other entry)
    (distinct : (entries.map fun entry => (change entry).1).Nodup) (order next : Key → Nat) :
    listing ((walk order entries).map change) = listing ((walk next entries).map other) := by
  have same : entries.map change = entries.map other := List.map_congr_left agree
  have first : ((walk order entries).map change).Perm (entries.map change) :=
    (walk_perm order entries).map change
  have second : ((walk next entries).map other).Perm (entries.map change) := by
    rw [same]
    exact (walk_perm next entries).map other
  refine KeyedListings.listing_congr ?_ (first.trans second.symm)
  rw [(first.map Prod.fst).nodup_iff, List.map_map]
  exact distinct

theorem listing_walk_eq (listed : Listed entries) (same : ∀ entry, change entry = entry)
    (order : Key → Nat) : listing ((walk order entries).map change) = entries := by
  have unchanged : (walk order entries).map change = walk order entries :=
    (List.map_congr_left fun entry _ => same entry).trans (List.map_id' _)
  have perm := walk_perm order entries
  rw [unchanged, KeyedListings.listing_congr ((perm.map Prod.fst).nodup_iff.mpr listed.nodup) perm,
    KeyedListings.listing_eq listed]

end Maps

section Congruence

variable {surroundings others : Surroundings} {transform other : List Char → List Char}

theorem optional_congr {text : Option String}
    (agree : ∀ part ∈ text.toList, transform part.toList = other part.toList) :
    text.map (onString transform) = text.map (onString other) := by
  cases text with
  | none => rfl
  | some text => exact congrArg (some ∘ String.ofList) (agree text List.mem_cons_self)

theorem texts_congr {texts : List String}
    (agree : ∀ text ∈ texts, transform text.toList = other text.toList) :
    texts.map (onString transform) = texts.map (onString other) :=
  List.map_congr_left fun text member => congrArg String.ofList (agree text member)

theorem optionalTexts_congr {texts : Option (List String)}
    (agree : ∀ text ∈ texts.getD [], transform text.toList = other text.toList) :
    texts.map (List.map (onString transform)) = texts.map (List.map (onString other)) := by
  cases texts with
  | none => rfl
  | some texts => exact congrArg some (texts_congr agree)

theorem transformServer_congr {server : ServerConfig} (name : String)
    (agree : ∀ visited ∈ visitServer server, transform visited.2 = other visited.2)
    (distinct : (server.toolRenames.map fun rename => transform rename.1).Nodup) :
    transformServer surroundings transform name server =
      transformServer others other name server := by
  simp only [visitServer, List.forall_mem_append, List.forall_mem_map, List.forall_mem_flatMap,
    List.forall_mem_cons, and_assoc] at agree
  obtain ⟨command, args, env, url, authToken, auth, oauthClientId, oauthScopes, renames, groups⟩ :=
    agree
  have pairs : server.env.map (fun (key, value) => (key, onString transform value)) =
      server.env.map fun (key, value) => (key, onString other value) :=
    List.map_congr_left fun entry member =>
      congrArg (Prod.mk entry.1 ∘ String.ofList) (env entry member)
  have renamed : listing ((walk (surroundings.renameOrder name) server.toolRenames).map
      fun (key, value) => (transform key, transform value)) =
        listing ((walk (others.renameOrder name) server.toolRenames).map
          fun (key, value) => (other key, other value)) := by
    refine listing_walk_congr ?_ distinct _ _
    intro rename member
    obtain ⟨key, value, _⟩ := renames rename member
    exact Prod.ext key value
  have grouped : server.toolGroups.map (transformGroup transform) =
      server.toolGroups.map (transformGroup other) := by
    refine List.map_congr_left fun group member => ?_
    obtain ⟨front, contains, strip⟩ := groups group member
    rw [transformGroup, transformGroup, front, List.map_congr_left contains,
      List.map_congr_left strip]
  unfold transformServer
  rw [optional_congr command, texts_congr args, pairs, optional_congr url, optional_congr authToken,
    optional_congr auth, optional_congr oauthClientId, optionalTexts_congr oauthScopes, renamed,
    grouped]

/-- No two keys of a map become one. -/
structure KeysDistinct (transform : List Char → List Char) (settings : Settings) : Prop where
  clients : (settings.lazyTools.clients.map fun client => onString transform client.1).Nodup
  renames : ∀ server ∈ settings.servers,
    (server.2.toolRenames.map fun rename => transform rename.1).Nodup

/-- What becomes of a configuration depends on what becomes of the texts that are visited. -/
theorem transform_congr {settings : Settings} (distinct : KeysDistinct transform settings)
    (agree : ∀ text ∈ visitEnvExpandableStrings settings, transform text = other text) :
    transformEnvExpandableStrings surroundings transform settings =
      transformEnvExpandableStrings others other settings := by
  simp only [visitEnvExpandableStrings, visitEnvExpandableFields, List.forall_mem_append,
    List.forall_mem_map, List.forall_mem_flatMap, List.forall_mem_cons, and_assoc] at agree
  obtain ⟨logLevel, prefixDelimiter, _, clients, priorityTools, disabledTools, bindAddress, _,
    allowedOrigins, tlsCertPath, tlsKeyPath, publicBaseUrl, oauthScopes, servers⟩ := agree
  have level : onString transform settings.logLevel = onString other settings.logLevel :=
    congrArg String.ofList logLevel
  have delimiter : onString transform settings.prefixDelimiter =
      onString other settings.prefixDelimiter := congrArg String.ofList prefixDelimiter
  have address : onString transform settings.http.bindAddress =
      onString other settings.http.bindAddress := congrArg String.ofList bindAddress
  have targets : listing ((walk surroundings.clientOrder settings.lazyTools.clients).map
      fun (target, mode) => (onString transform target, mode)) =
        listing ((walk others.clientOrder settings.lazyTools.clients).map
          fun (target, mode) => (onString other target, mode)) := by
    refine listing_walk_congr ?_ distinct.clients _ _
    intro client member
    exact Prod.ext (congrArg String.ofList (clients client member)) rfl
  have transformed : settings.servers.map (fun (name, server) =>
      (name, transformServer surroundings transform name server)) =
        settings.servers.map fun (name, server) =>
          (name, transformServer others other name server) := by
    refine List.map_congr_left fun entry member => ?_
    exact congrArg (Prod.mk entry.1) (transformServer_congr entry.1 (servers entry member)
      (distinct.renames entry member))
  unfold transformEnvExpandableStrings
  simp only [targets, transformed, texts_congr priorityTools, texts_congr disabledTools,
    texts_congr allowedOrigins, optional_congr tlsCertPath, optional_congr tlsKeyPath,
    optional_congr publicBaseUrl, optionalTexts_congr oauthScopes, level, delimiter, address]

end Congruence

theorem onString_id (text : String) : onString (fun text => text) text = text :=
  String.ofList_toList

theorem optional_id (text : Option String) : text.map (onString fun text => text) = text := by
  cases text with
  | none => rfl
  | some text => exact congrArg some (onString_id text)

theorem texts_id (texts : List String) : texts.map (onString fun text => text) = texts :=
  (List.map_congr_left fun text _ => onString_id text).trans (List.map_id' texts)

theorem optionalTexts_id (texts : Option (List String)) :
    texts.map (List.map (onString fun text => text)) = texts := by
  cases texts with
  | none => rfl
  | some texts => exact congrArg some (texts_id texts)

theorem transformServer_id (surroundings : Surroundings) (name : String) {server : ServerConfig}
    (listed : Listed server.toolRenames) :
    transformServer surroundings (fun text => text) name server = server := by
  have pairs : server.env.map (fun (key, value) => (key, onString (fun text => text) value)) =
      server.env :=
    (List.map_congr_left fun entry _ => congrArg (Prod.mk entry.1) (onString_id entry.2)).trans
      (List.map_id' _)
  have renamed : (if server.toolRenames = [] then []
      else listing ((walk (surroundings.renameOrder name) server.toolRenames).map
        fun (key, value) => (key, value))) = server.toolRenames := by
    split
    · rename_i empty
      exact empty.symm
    · exact listing_walk_eq listed (fun _ => rfl) _
  have grouped : server.toolGroups.map (transformGroup fun text => text) = server.toolGroups := by
    refine (List.map_congr_left fun group _ => ?_).trans (List.map_id' _)
    rw [transformGroup, List.map_id', List.map_id']
  unfold transformServer
  rw [optional_id, texts_id, pairs, optional_id, optional_id, optional_id, optional_id,
    optionalTexts_id, renamed, grouped]

theorem transform_id (surroundings : Surroundings) (settings : Settings) :
    transformEnvExpandableStrings surroundings (fun text => text) settings = settings := by
  have targets : listing ((walk surroundings.clientOrder settings.lazyTools.clients).map
      fun (target, mode) => (onString (fun text => text) target, mode)) =
        settings.lazyTools.clients := by
    refine listing_walk_eq settings.clientsListed ?_ _
    exact fun client => Prod.ext (onString_id client.1) rfl
  have transformed : settings.servers.map (fun (name, server) =>
      (name, transformServer surroundings (fun text => text) name server)) = settings.servers := by
    refine (List.map_congr_left fun entry member => ?_).trans (List.map_id' _)
    exact congrArg (Prod.mk entry.1)
      (transformServer_id surroundings entry.1 (settings.renamesListed entry member))
  unfold transformEnvExpandableStrings
  simp only [targets, transformed]
  simp only [onString_id, optional_id, texts_id, optionalTexts_id]

/-! ### The variables that matter -/

variable {first second : Surroundings} {settings : Settings}

theorem mem_loadRawConfig {name : List Char} : name ∈ loadRawConfig settings ↔
    ∃ text ∈ visitEnvExpandableStrings settings, name ∈ extractEnvRefs text := by
  rw [loadRawConfig, List.mem_insertionSort, List.mem_dedup, List.mem_flatMap]

theorem expandConfigEnvRefs_congr
    (distinct : KeysDistinct (expandEnvVarsWithSource first) settings)
    (agree : ∀ name ∈ loadRawConfig settings, first.lookup name = second.lookup name) :
    expandConfigEnvRefs first settings = expandConfigEnvRefs second settings := by
  refine transform_congr distinct fun text visited => ?_
  refine expandEnvVars_congr fun name among => ?_
  exact agree name (mem_loadRawConfig.mpr ⟨text, visited, among⟩)

/-- A configuration with a variable among the arguments of its server. -/
def homeSettings : Settings where
  toConfig := Reload.oneServer { Reload.gitServer with args := ["--root", "$HOME/git"] }
  logLevel := "info"
  publicBaseUrl := none
  httpOauthScopes := none
  tlsCertPath := none
  tlsKeyPath := none
  clientsListed := List.Pairwise.nil
  renamesListed := by
    intro server member
    rw [List.mem_singleton.mp member]
    exact List.Pairwise.nil

/-- A process that finds a table of variables around it. -/
def surroundedBy (known : List (String × String)) : Surroundings where
  envMap _ := none
  process name := (Tables.get known (String.ofList name)).map String.toList
  clientOrder := String.length
  renameOrder _ := List.length

end Plug.Expansion
