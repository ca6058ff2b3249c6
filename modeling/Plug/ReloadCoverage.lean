import Plug.ServerConfigs

/-!
# What a reload leaves on its old value

A server is started from its settings: they make its command line and environment, its transport
and credentials, how many calls it gets at once and whether a breaker guards them. Its tools are
named by more settings. A reload is to start a server again, or to warn, when one of these
differs; the comparison leaves out the sandbox, the limit of calls, the breaker, the renames and
the groups, and it does not follow references to secrets.
-/

namespace Plug.Reload

open Catalog (ToolGroupRule)

/-! ### Starting a server -/

/-- The machine a server is started on: its files, its secrets, and how it writes a string in
quotes. -/
structure Host where
  macos : Bool
  loginPath : Option String
  resolveStdioCommand : String → String
  quote : String → String
  follow : SecretsConfig → String → Except String (Option String)

variable (host : Host)

def sandboxLiteral (value : String) : Except String String :=
  if '\x00' ∈ value.toList then .error "sandbox values must not contain NUL bytes"
  else .ok (host.quote value)

def isAbsolute (path : String) : Bool := path.toList.head? == some '/'

def sandboxPaths (operation : String) (paths : List String) : Except String String :=
  paths.foldlM (fun profile path => do
    let literal ← sandboxLiteral host path
    pure (profile ++ "(allow " ++ operation ++ " (subpath " ++ literal ++ "))\n")) ""

def baseProfile : String :=
  "(version 1)\n(deny default)\n(allow process*)\n(allow sysctl-read)\n" ++
    "(allow file-read-metadata)\n" ++
    "(allow file-read* (subpath \"/System\") (subpath \"/Library\") (subpath \"/usr\") " ++
    "(subpath \"/bin\") (subpath \"/opt/homebrew\") (literal \"/dev/null\"))\n"

def buildMacosSandboxProfile (command : String) (sandbox : StdioSandboxConfig) :
    Except String String := do
  let executable ← if isAbsolute command then do
      let literal ← sandboxLiteral host command
      pure ("(allow file-read* (literal " ++ literal ++ "))\n")
    else pure ""
  let reads ← sandboxPaths host "file-read*" sandbox.allowRead
  let writes ← sandboxPaths host "file-write*" sandbox.allowWrite
  pure (baseProfile ++ executable ++ reads ++ writes ++
    if sandbox.allowNetwork then "(allow network*)\n" else "")

structure StdioCommand where
  program : String
  args : List String
  path : Option String
deriving DecidableEq

/-- The command of a server, in its sandbox if there is one. -/
def buildStdioCommand (command : String) (args : List String) (config : ServerConfig) :
    Except String StdioCommand :=
  let resolved := host.resolveStdioCommand command
  match config.sandbox.filter StdioSandboxConfig.enabled with
  | none => .ok ⟨resolved, args, host.loginPath⟩
  | some sandbox =>
    if host.macos then do
      let confined ← match sandbox.profilePath with
        | some profilePath => pure ["-f", profilePath]
        | none => do
          let profile ← buildMacosSandboxProfile host resolved sandbox
          pure ["-p", profile]
      pure ⟨"/usr/bin/sandbox-exec", confined ++ resolved :: args, host.loginPath⟩
    else .error "stdio sandboxing is currently implemented only on macOS"

/-- The bearer token and the environment, with references to secrets followed. -/
def resolveServer (secrets : SecretsConfig) (config : ServerConfig) :
    Except String (Option String × List (String × String)) := do
  let token ← match config.authToken with
    | none => pure none
    | some token => do
      let secret ← host.follow secrets token
      pure (some (secret.getD token))
  let env ← config.env.mapM fun (key, value) => do
    let secret ← host.follow secrets value
    pure (key, secret.getD value)
  pure (token, env)

/-- The protocol that is spoken while the switch for the newer one is as it is. -/
def effectiveUpstreamProtocolMode (configured : UpstreamProtocolMode)
    (modernUpstreamEnabled : Bool) : UpstreamProtocolMode :=
  if modernUpstreamEnabled then configured else .legacy

inductive ConfiguredAuth where
  | oauth
  | bearer
  | none
deriving DecidableEq

def configuredAuthForServer (config : ServerConfig) : ConfiguredAuth :=
  if config.auth = some "oauth" then .oauth
  else if config.authToken.isSome then .bearer
  else .none

/-- How a server is started: all that the connection, the guards of its calls and the tasks beside
it take from the configuration. -/
structure Startup where
  transport : TransportType
  protocolMode : UpstreamProtocolMode
  commandLine : Option (Except String StdioCommand)
  credentials : Except String (Option String × List (String × String))
  url : Option String
  auth : Option String
  oauthClientId : Option String
  oauthScopes : Option (List String)
  spec : Option String
  operations : List String
  tokenIn : Option String
  timeoutSecs : Nat
  callTimeoutSecs : Nat
  healthCheckIntervalSecs : Nat
  configuredAuth : ConfiguredAuth
  maxConcurrent : Nat
  circuitBreaker : Bool

/-- Only a server that is spoken to by its standard streams has a command line. -/
def commandLine (config : ServerConfig) : Option (Except String StdioCommand) :=
  if config.transport = .stdio then
    config.command.map fun command => buildStdioCommand host command config.args config
  else none

def startup (config : Config) (server : ServerConfig) : Startup where
  transport := server.transport
  protocolMode := effectiveUpstreamProtocolMode server.protocolMode config.modernUpstreamEnabled
  commandLine := commandLine host server
  credentials := resolveServer host config.secrets server
  url := server.url
  auth := server.auth
  oauthClientId := server.oauthClientId
  oauthScopes := server.oauthScopes
  spec := server.spec
  operations := server.operations
  tokenIn := server.tokenIn
  timeoutSecs := server.timeoutSecs
  callTimeoutSecs := server.callTimeoutSecs
  healthCheckIntervalSecs := server.healthCheckIntervalSecs
  configuredAuth := configuredAuthForServer server
  maxConcurrent := server.maxConcurrent
  circuitBreaker := server.circuitBreakerEnabled

/-! ### What is reported -/

/-- There is a warning that the setting needs a restart. -/
def ConfigDiff.reports (diff : ConfigDiff) (setting : String) : Prop :=
  setting ++ " changed (restart required)" ∈ diff.restartRequired

/-- The settings that a start reads, or the names of a server's tools come from. -/
def startSettings : List String :=
  ["command", "args", "env", "transport", "protocol", "url", "auth_token", "auth",
    "oauth_client_id", "oauth_scopes", "timeout_secs", "call_timeout_secs", "max_concurrent",
    "health_check_interval_secs", "circuit_breaker_enabled", "sandbox", "spec", "operations",
    "token_in", "secrets", "modern_upstream_enabled"]

def namingSettings : List String := ["tool_renames", "tool_groups"]

/-- A difference that the start or the names of the tools would show is applied or reported. -/
structure AppliedOrReported (old new : Config) (name : String)
    (oldServer newServer : ServerConfig) : Prop where
  started : startup host old oldServer ≠ startup host new newServer →
    name ∈ (diffConfigs old new).changed.map Prod.fst ∨
      ∃ setting ∈ startSettings, (diffConfigs old new).reports setting
  named : oldServer.toolRenames ≠ newServer.toolRenames ∨
      oldServer.toolGroups ≠ newServer.toolGroups →
    name ∈ (diffConfigs old new).changed.map Prod.fst ∨
      ∃ setting ∈ namingSettings, (diffConfigs old new).reports setting
  delimited : old.prefixDelimiter ≠ new.prefixDelimiter →
    name ∈ (diffConfigs old new).changed.map Prod.fst ∨
      (diffConfigs old new).reports "prefix_delimiter"
  prefixed : old.enablePrefix ≠ new.enablePrefix →
    name ∈ (diffConfigs old new).changed.map Prod.fst ∨
      (diffConfigs old new).reports "enable_prefix"

theorem mem_restartRequired {old new : Config} {warning : String}
    (member : warning ∈ restartRequired old new) :
    ∃ setting ∈ reportedSettings, warning = setting ++ " changed (restart required)" := by
  simp only [restartRequired, List.mem_append, mem_noteRestartRequired] at member
  simp only [reportedSettings, List.mem_cons, List.not_mem_nil, or_false, exists_eq_or_imp,
    exists_eq_left]
  grind

/-- There are no warnings about other settings. -/
theorem reports_reported {old new : Config} {setting : String}
    (reported : (diffConfigs old new).reports setting) : setting ∈ reportedSettings := by
  obtain ⟨other, listed, same⟩ := mem_restartRequired reported
  rw [String.append_left_inj] at same
  rw [same]
  exact listed

theorem not_reported_start {old new : Config} :
    ¬ ∃ setting ∈ startSettings, (diffConfigs old new).reports setting := by
  rintro ⟨setting, listed, reported⟩
  have apart : ∀ other ∈ startSettings, other ∉ reportedSettings := by decide +kernel
  exact apart setting listed (reports_reported reported)

theorem not_reported_naming {old new : Config} :
    ¬ ∃ setting ∈ namingSettings, (diffConfigs old new).reports setting := by
  rintro ⟨setting, listed, reported⟩
  have apart : ∀ other ∈ namingSettings, other ∉ reportedSettings := by decide +kernel
  exact apart setting listed (reports_reported reported)

theorem not_reported_enablePrefix {old new : Config} :
    ¬ (diffConfigs old new).reports "enable_prefix" := by
  intro reported
  have apart : "enable_prefix" ∉ reportedSettings := by decide +kernel
  exact apart (reports_reported reported)

theorem reports_prefixDelimiter {old new : Config}
    (differs : old.prefixDelimiter ≠ new.prefixDelimiter) :
    (diffConfigs old new).reports "prefix_delimiter" := by
  have noted : "prefix_delimiter changed (restart required)" ∈
      noteRestartRequired (old.prefixDelimiter != new.prefixDelimiter)
        "prefix_delimiter changed" := by
    rw [mem_noteRestartRequired]
    exact ⟨bne_iff_ne.mpr differs, by decide⟩
  simp only [ConfigDiff.reports, diffConfigs, restartRequired, List.mem_append]
  grind

/-! ### Coverage -/

/-- What the comparison leaves out makes no difference: references to secrets lead to the same
values, the sandbox makes the same command line, and the limit of calls, the breaker and what the
tools are named by are the same. -/
structure LeftOutAlike (old new : Config) (oldServer newServer : ServerConfig) : Prop where
  credentials : resolveServer host old.secrets oldServer = resolveServer host new.secrets newServer
  commandLine : commandLine host oldServer = commandLine host newServer
  maxConcurrent : oldServer.maxConcurrent = newServer.maxConcurrent
  circuitBreaker : oldServer.circuitBreakerEnabled = newServer.circuitBreakerEnabled
  toolRenames : oldServer.toolRenames = newServer.toolRenames
  toolGroups : oldServer.toolGroups = newServer.toolGroups
  enablePrefix : old.enablePrefix = new.enablePrefix

section Coverage

variable {host : Host} {old new : Config} {name : String} {oldServer newServer : ServerConfig}

theorem effectiveMode_alike (kept : restarts old new oldServer newServer = false) :
    effectiveUpstreamProtocolMode oldServer.protocolMode old.modernUpstreamEnabled =
      effectiveUpstreamProtocolMode newServer.protocolMode new.modernUpstreamEnabled := by
  rw [restarts, Bool.or_eq_false_iff, serverConfigChanged_eq_false] at kept
  obtain ⟨same, gate⟩ := kept
  have mode : newServer.protocolMode = oldServer.protocolMode := by rw [same]
  rw [mode]
  rw [gateChangeRequiresRenegotiation, mode, Bool.or_self, Bool.and_eq_false_iff,
    bne_eq_false_iff_eq, bne_eq_false_iff_eq] at gate
  cases gate with
  | inl switch => rw [switch]
  | inr legacy =>
    rw [legacy]
    unfold effectiveUpstreamProtocolMode
    split <;> split <;> rfl

theorem startup_alike (kept : restarts old new oldServer newServer = false)
    (alike : LeftOutAlike host old new oldServer newServer) :
    startup host old oldServer = startup host new newServer := by
  have mode := effectiveMode_alike kept
  rw [restarts, Bool.or_eq_false_iff, serverConfigChanged_eq_false] at kept
  obtain ⟨same, _⟩ := kept
  have auth : configuredAuthForServer newServer = configuredAuthForServer oldServer := by
    rw [same]
    rfl
  rw [startup, startup, mode, alike.commandLine, alike.credentials, alike.maxConcurrent,
    alike.circuitBreaker, auth]
  rw [same]

end Coverage

/-- Of a server in both configurations every difference is applied or reported, exactly if the
server is started again or what the comparison leaves out makes no difference. -/
theorem reload_covers (old new : Config) (name : String) (oldServer newServer : ServerConfig)
    (running : old.servers.lookup name = some oldServer)
    (next : new.servers.lookup name = some newServer) :
    AppliedOrReported host old new name oldServer newServer ↔
      restarts old new oldServer newServer = true ∨
        LeftOutAlike host old new oldServer newServer := by
  have listed := mem_changed_iff running next
  constructor
  · intro covered
    cases kept : restarts old new oldServer newServer with
    | true => exact Or.inl rfl
    | false =>
      have unlisted : name ∉ (diffConfigs old new).changed.map Prod.fst := by
        rw [listed, kept]
        exact Bool.false_ne_true
      have started : startup host old oldServer = startup host new newServer := by
        by_contra differs
        exact (covered.started differs).elim unlisted not_reported_start
      have renamed : oldServer.toolRenames = newServer.toolRenames := by
        by_contra differs
        exact (covered.named (Or.inl differs)).elim unlisted not_reported_naming
      have grouped : oldServer.toolGroups = newServer.toolGroups := by
        by_contra differs
        exact (covered.named (Or.inr differs)).elim unlisted not_reported_naming
      have prefixed : old.enablePrefix = new.enablePrefix := by
        by_contra differs
        exact (covered.prefixed differs).elim unlisted not_reported_enablePrefix
      exact Or.inr ⟨congrArg Startup.credentials started, congrArg Startup.commandLine started,
        congrArg Startup.maxConcurrent started, congrArg Startup.circuitBreaker started, renamed,
        grouped, prefixed⟩
  · rintro (differs | alike)
    · have changed := listed.mpr differs
      exact ⟨fun _ => Or.inl changed, fun _ => Or.inl changed, fun _ => Or.inl changed,
        fun _ => Or.inl changed⟩
    · refine ⟨?_, ?_, fun differs => Or.inr (reports_prefixDelimiter differs), ?_⟩
      · intro differs
        left
        rw [listed]
        by_contra kept
        exact differs (startup_alike (Bool.eq_false_iff.mpr kept) alike)
      · rintro (differs | differs)
        · exact absurd alike.toolRenames differs
        · exact absurd alike.toolGroups differs
      · intro differs
        exact absurd alike.enablePrefix differs

/-- A server that is spoken to by its standard streams, and the same one in a sandbox. -/
def gitServer : ServerConfig where
  command := some "/opt/git-mcp"
  args := []
  env := []
  enabled := true
  transport := .stdio
  protocolMode := .legacy
  url := none
  authToken := none
  auth := none
  oauthClientId := none
  oauthScopes := none
  timeoutSecs := 30
  callTimeoutSecs := 300
  maxConcurrent := 1
  healthCheckIntervalSecs := 60
  circuitBreakerEnabled := true
  enrichment := false
  toolRenames := []
  toolGroups := []
  sandbox := none
  spec := none
  operations := []
  tokenIn := none

def confinedServer : ServerConfig :=
  { gitServer with
    sandbox := some
      { enabled := true
        allowNetwork := false
        allowRead := []
        allowWrite := []
        profilePath := some "git.sb" } }

def oneServer (server : ServerConfig) : Config where
  prefixDelimiter := "__"
  enablePrefix := true
  toolFilterEnabled := true
  toolDescriptionMaxChars := none
  toolSearchThreshold := 50
  metaToolMode := false
  lazyTools := { mode := .auto, clients := [] }
  priorityTools := []
  disabledTools := []
  secrets := []
  http :=
    { modernDownstreamEnabled := false
      bindAddress := "127.0.0.1"
      port := 3282
      allowedOrigins := []
      sessionTimeoutSecs := 1800
      maxSessions := 100
      sseChannelCapacity := 32 }
  modernUpstreamEnabled := false
  daemonGracePeriodSecs := 0
  servers := [("git", server)]
  serversDistinct := by simp

def plainHost : Host where
  macos := true
  loginPath := none
  resolveStdioCommand := id
  quote value := "\"" ++ value ++ "\""
  follow _ _ := .ok none

/-- Another command is applied. -/
theorem reload_covers_command :
    AppliedOrReported plainHost (oneServer gitServer)
      (oneServer { gitServer with command := some "/opt/git-mcp-next" }) "git" gitServer
      { gitServer with command := some "/opt/git-mcp-next" } :=
  (reload_covers plainHost (oneServer gitServer)
    (oneServer { gitServer with command := some "/opt/git-mcp-next" }) "git" gitServer
    { gitServer with command := some "/opt/git-mcp-next" } rfl rfl).mpr
      (Or.inl (by decide +kernel))

/-- The server goes on without the sandbox that the new configuration puts it in. -/
theorem sandbox_unapplied :
    ¬ AppliedOrReported plainHost (oneServer gitServer) (oneServer confinedServer) "git" gitServer
      confinedServer := by
  intro covered
  have unconfined : commandLine plainHost gitServer = some (.ok ⟨"/opt/git-mcp", [], none⟩) := rfl
  have confined : commandLine plainHost confinedServer =
      some (.ok ⟨"/usr/bin/sandbox-exec", ["-f", "git.sb", "/opt/git-mcp"], none⟩) := rfl
  have differs : startup plainHost (oneServer gitServer) gitServer ≠
      startup plainHost (oneServer confinedServer) confinedServer := by
    intro same
    have commands : commandLine plainHost gitServer = commandLine plainHost confinedServer :=
      congrArg Startup.commandLine same
    rw [unconfined, confined] at commands
    simp at commands
  have unlisted : "git" ∉ (diffConfigs (oneServer gitServer)
      (oneServer confinedServer)).changed.map Prod.fst := by decide +kernel
  exact (covered.started differs).elim unlisted not_reported_start

end Plug.Reload
