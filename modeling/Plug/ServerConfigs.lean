import Plug.Tables
import Plug.ToolCatalog

/-!
# Configurations and what changed

A reload compares the configuration that runs with the new one. A server is stopped and started
again if a setting that the comparison knows differs, and for settings of the whole service that
need a restart there is a warning. A map of the configuration is listed in the order of its keys,
so equal maps are equal lists.
-/

namespace Plug.Reload

open Catalog (ToolGroupRule)

structure StdioSandboxConfig where
  enabled : Bool
  allowNetwork : Bool
  allowRead : List String
  allowWrite : List String
  profilePath : Option String
deriving DecidableEq

inductive TransportType where
  | stdio
  | http
  | sse
  | openApi
deriving DecidableEq

inductive UpstreamProtocolMode where
  | legacy
  | auto
  | modern
deriving DecidableEq

structure ServerConfig where
  command : Option String
  args : List String
  env : List (String × String)
  enabled : Bool
  transport : TransportType
  protocolMode : UpstreamProtocolMode
  url : Option String
  authToken : Option String
  auth : Option String
  oauthClientId : Option String
  oauthScopes : Option (List String)
  timeoutSecs : Nat
  callTimeoutSecs : Nat
  maxConcurrent : Nat
  healthCheckIntervalSecs : Nat
  circuitBreakerEnabled : Bool
  enrichment : Bool
  toolRenames : List (List Char × List Char)
  toolGroups : List ToolGroupRule
  sandbox : Option StdioSandboxConfig
  spec : Option String
  operations : List String
  tokenIn : Option String
deriving DecidableEq

structure HttpConfig where
  modernDownstreamEnabled : Bool
  bindAddress : String
  port : Nat
  allowedOrigins : List String
  sessionTimeoutSecs : Nat
  maxSessions : Nat
  sseChannelCapacity : Nat
deriving DecidableEq

inductive LazyToolSetting where
  | auto
  | standard
  | native
  | bridge
deriving DecidableEq

structure LazyToolsConfig where
  mode : LazyToolSetting
  clients : List (String × LazyToolSetting)
deriving DecidableEq

structure CommandStoreConfig where
  command : List String
  timeoutSecs : Nat
deriving DecidableEq

/-- The secret stores beside those every service has. -/
abbrev SecretsConfig := List (String × CommandStoreConfig)

structure Config where
  prefixDelimiter : String
  enablePrefix : Bool
  toolFilterEnabled : Bool
  toolDescriptionMaxChars : Option Nat
  toolSearchThreshold : Nat
  metaToolMode : Bool
  lazyTools : LazyToolsConfig
  priorityTools : List String
  disabledTools : List String
  secrets : SecretsConfig
  http : HttpConfig
  modernUpstreamEnabled : Bool
  daemonGracePeriodSecs : Nat
  servers : List (String × ServerConfig)
  serversDistinct : (servers.map Prod.fst).Nodup
deriving DecidableEq

/-! ### Comparing -/

/-- The settings for which a server is started again. -/
def serverConfigChanged (old new : ServerConfig) : Bool :=
  old.command != new.command || old.args != new.args || old.env != new.env ||
    old.transport != new.transport || old.protocolMode != new.protocolMode ||
    old.url != new.url || old.timeoutSecs != new.timeoutSecs ||
    old.callTimeoutSecs != new.callTimeoutSecs || old.enabled != new.enabled ||
    old.authToken != new.authToken || old.auth != new.auth ||
    old.oauthClientId != new.oauthClientId || old.oauthScopes != new.oauthScopes ||
    old.healthCheckIntervalSecs != new.healthCheckIntervalSecs || old.spec != new.spec ||
    old.operations != new.operations || old.tokenIn != new.tokenIn

/-- The switch for the newer protocol moved, and the server may speak it. -/
def gateChangeRequiresRenegotiation (old new : Config) (oldServer newServer : ServerConfig) :
    Bool :=
  old.modernUpstreamEnabled != new.modernUpstreamEnabled &&
    (oldServer.protocolMode != .legacy || newServer.protocolMode != .legacy)

def noteRestartRequired (changed : Bool) (setting : String) : List String :=
  if changed then [setting ++ " (restart required)"] else []

def restartRequired (old new : Config) : List String :=
  noteRestartRequired (old.http.bindAddress != new.http.bindAddress) "http.bind_address changed" ++
  noteRestartRequired (old.http.port != new.http.port) "http.port changed" ++
  noteRestartRequired (old.http.allowedOrigins != new.http.allowedOrigins)
    "http.allowed_origins changed" ++
  noteRestartRequired (old.http.sessionTimeoutSecs != new.http.sessionTimeoutSecs)
    "http.session_timeout_secs changed" ++
  noteRestartRequired (old.http.maxSessions != new.http.maxSessions)
    "http.max_sessions changed" ++
  noteRestartRequired (old.http.sseChannelCapacity != new.http.sseChannelCapacity)
    "http.sse_channel_capacity changed" ++
  noteRestartRequired (old.prefixDelimiter != new.prefixDelimiter) "prefix_delimiter changed" ++
  noteRestartRequired (old.toolFilterEnabled != new.toolFilterEnabled)
    "tool_filter_enabled changed" ++
  noteRestartRequired (old.toolDescriptionMaxChars != new.toolDescriptionMaxChars)
    "tool_description_max_chars changed" ++
  noteRestartRequired (old.toolSearchThreshold != new.toolSearchThreshold)
    "tool_search_threshold changed" ++
  noteRestartRequired (old.metaToolMode != new.metaToolMode) "meta_tool_mode changed" ++
  noteRestartRequired (old.lazyTools != new.lazyTools) "lazy_tools changed" ++
  noteRestartRequired (old.priorityTools != new.priorityTools) "priority_tools changed" ++
  noteRestartRequired (old.disabledTools != new.disabledTools) "disabled_tools changed" ++
  noteRestartRequired (old.daemonGracePeriodSecs != new.daemonGracePeriodSecs)
    "daemon_grace_period_secs changed"

structure ConfigDiff where
  added : List (String × ServerConfig)
  removed : List String
  changed : List (String × ServerConfig)
  unchanged : List String
  settingsChanged : Bool
  restartRequired : List String

/-- The server is started again. -/
def restarts (old new : Config) (oldServer newServer : ServerConfig) : Bool :=
  serverConfigChanged oldServer newServer ||
    gateChangeRequiresRenegotiation old new oldServer newServer

def diffConfigs (old new : Config) : ConfigDiff where
  added := new.servers.filter fun item => (old.servers.lookup item.1).isNone
  removed := (old.servers.map Prod.fst).filter fun name => (new.servers.lookup name).isNone
  changed := new.servers.filter fun item =>
    (old.servers.lookup item.1).any fun server => restarts old new server item.2
  unchanged := (new.servers.filter fun item =>
    (old.servers.lookup item.1).any fun server => !restarts old new server item.2).map Prod.fst
  settingsChanged := !(restartRequired old new).isEmpty ||
    old.http.modernDownstreamEnabled != new.http.modernDownstreamEnabled ||
    old.modernUpstreamEnabled != new.modernUpstreamEnabled
  restartRequired := restartRequired old new

/-- The servers a reload starts: those changed or added that are on. -/
def reloadStartActions (diff : ConfigDiff) : List (String × ServerConfig) :=
  (diff.changed ++ diff.added).filter fun item => item.2.enabled

/-! ### Laws of the comparison -/

/-- Servers that the comparison does not tell apart differ in what it leaves out only. -/
theorem serverConfigChanged_eq_false {old new : ServerConfig} :
    serverConfigChanged old new = false ↔
      new = { old with
        maxConcurrent := new.maxConcurrent
        circuitBreakerEnabled := new.circuitBreakerEnabled
        enrichment := new.enrichment
        toolRenames := new.toolRenames
        toolGroups := new.toolGroups
        sandbox := new.sandbox } := by
  cases old
  cases new
  simp only [serverConfigChanged, Bool.or_eq_false_iff, bne_eq_false_iff_eq, ServerConfig.mk.injEq]
  grind

theorem serverConfigChanged_self (server : ServerConfig) :
    serverConfigChanged server server = false :=
  serverConfigChanged_eq_false.mpr rfl

theorem serverConfigChanged_trans {first second third : ServerConfig}
    (early : serverConfigChanged first second = false)
    (late : serverConfigChanged second third = false) :
    serverConfigChanged first third = false := by
  rw [serverConfigChanged_eq_false] at early late ⊢
  rw [late, early]

variable {old new : Config} {name : String} {oldServer newServer : ServerConfig}

theorem mem_servers_iff {config : Config} {server : ServerConfig} :
    (name, server) ∈ config.servers ↔ config.servers.lookup name = some server :=
  ⟨Tables.lookup_of_mem config.serversDistinct, Tables.mem_of_lookup⟩

theorem mem_changed_iff (running : old.servers.lookup name = some oldServer)
    (next : new.servers.lookup name = some newServer) :
    name ∈ (diffConfigs old new).changed.map Prod.fst ↔
      restarts old new oldServer newServer = true := by
  simp only [diffConfigs, List.mem_map, List.mem_filter, Option.any_eq_true]
  constructor
  · rintro ⟨⟨_, server⟩, ⟨listed, former, found, differs⟩, rfl⟩
    obtain rfl := Option.some.inj (running.symm.trans found)
    obtain rfl := Option.some.inj (next.symm.trans (mem_servers_iff.mp listed))
    exact differs
  · intro differs
    exact ⟨(name, newServer), ⟨mem_servers_iff.mpr next, oldServer, running, differs⟩, rfl⟩

/-- The settings that are warned about. -/
def reportedSettings : List String :=
  ["http.bind_address", "http.port", "http.allowed_origins", "http.session_timeout_secs",
    "http.max_sessions", "http.sse_channel_capacity", "prefix_delimiter", "tool_filter_enabled",
    "tool_description_max_chars", "tool_search_threshold", "meta_tool_mode", "lazy_tools",
    "priority_tools", "disabled_tools", "daemon_grace_period_secs"]

theorem mem_noteRestartRequired {changed : Bool} {setting warning : String} :
    warning ∈ noteRestartRequired changed setting ↔
      changed = true ∧ warning = setting ++ " (restart required)" := by
  cases changed with
  | false => simp [noteRestartRequired]
  | true => simp [noteRestartRequired]

end Plug.Reload
