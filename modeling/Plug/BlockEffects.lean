import Plug.ClientBlocks

/-!
# What blocks keep a client from

A rule is followed from the settings it is written in to the answer for a tool. Blocks refuse a
tool one by one, beside what is said about its server and what a list of what is allowed has.
-/

namespace Plug.Access

open Text ToolNaming

/-! ### Blocks one by one -/

/-- The rule refuses the tool. -/
def ToolBlock.reaches (block : ToolBlock) (server tool listed delimiter : List Char) : Bool :=
  match block with
  | .of blockedServer blockedTool =>
    blockedServer == server && isDisabledTool [toAsciiLowercase blockedTool] tool
  | .named name =>
    (spellings server (some tool) listed delimiter).any (isDisabledTool [toAsciiLowercase name])

/-- The tool is on the list of what is allowed by itself. -/
def ClientAccess.allowsTool (access : ClientAccess) (server : List Char)
    (tool : Option (List Char)) : Bool :=
  tool.any fun tool => access.allowedTools.any fun allowed =>
    allowed.1 == server && allowed.2 == toAsciiLowercase tool

/-- The tool is refused whatever the blocks of tools are. -/
def ClientAccess.excludes (access : ClientAccess) (server : List Char)
    (tool : Option (List Char)) : Bool :=
  access.blockedServers.contains server ||
    (access.onlyAllowed && !access.allowedServers.contains server &&
      !access.allowsTool server tool)

/-- A rule about the tool refuses it. -/
def ClientAccess.blocks (access : ClientAccess) (server : List Char) (tool : Option (List Char))
    (listed delimiter : List Char) : Bool :=
  let byServer := access.blockedTools.filter fun blocked => blocked.1 == server
  (match tool with
    | some tool => byServer.any fun blocked => isDisabledTool [blocked.2] tool
    | none => !byServer.isEmpty) ||
    (spellings server tool listed delimiter).any (isDisabledTool access.namedTools)

/-- A server of which a tool is allowed is not kept from the client as a whole. -/
theorem allowsTool_server {access : ClientAccess} {server : List Char} {tool : Option (List Char)}
    (allows : access.allowsTool server tool = true) :
    (access.allowedTools.any fun allowed => allowed.1 == server) = true := by
  cases tool with
  | none => cases allows
  | some tool =>
    obtain ⟨allowed, member, same⟩ := List.any_eq_true.mp allows
    exact List.any_eq_true.mpr ⟨allowed, member, (Bool.and_eq_true_iff.mp same).1⟩

theorem keepsFrom_cases (access : ClientAccess) (server : List Char) (tool : Option (List Char))
    (listed delimiter : List Char) :
    access.keepsFrom server tool listed delimiter =
      (access.excludes server tool || access.blocks server tool listed delimiter) := by
  have unruled : access.namedTools.isEmpty = true →
      (spellings server tool listed delimiter).any (isDisabledTool access.namedTools) = false := by
    intro empty
    simp [isDisabledTool, empty]
  have alone := @allowsTool_server access server tool
  rw [ClientAccess.allowsTool] at alone
  unfold ClientAccess.keepsFrom ClientAccess.excludes ClientAccess.blocks
    ClientAccess.keepsFromServer ClientAccess.allowsTool
  cases empty : access.namedTools.isEmpty with
  | true => rw [unruled empty]; grind
  | false => grind

theorem isDisabledTool_any (patterns : List (List Char)) (name : List Char) :
    isDisabledTool patterns name = patterns.any fun pattern => isDisabledTool [pattern] name := by
  cases patterns with
  | nil => rfl
  | cons pattern rest => simp [isDisabledTool]

theorem any_isDisabledTool (patterns names : List (List Char)) :
    names.any (isDisabledTool patterns) =
      patterns.any fun pattern => names.any (isDisabledTool [pattern]) := by
  rw [Bool.eq_iff_iff]
  simp only [List.any_eq_true]
  constructor
  · rintro ⟨name, present, disabled⟩
    rw [isDisabledTool_any] at disabled
    obtain ⟨pattern, listed, matching⟩ := List.any_eq_true.mp disabled
    exact ⟨pattern, listed, name, present, matching⟩
  · rintro ⟨pattern, listed, name, present, matching⟩
    refine ⟨name, present, ?_⟩
    rw [isDisabledTool_any]
    exact List.any_eq_true.mpr ⟨pattern, listed, matching⟩

/-- The rules of a client, block by block. -/
theorem any_blocks (settings : ClientSettings) (server tool listed delimiter : List Char) :
    (((settings.access.blockedTools.filter fun blocked => blocked.1 == server).any
        fun blocked => isDisabledTool [blocked.2] tool) ||
      (spellings server (some tool) listed delimiter).any
        (isDisabledTool settings.access.namedTools)) =
    settings.blockedTools.any fun block => block.reaches server tool listed delimiter := by
  rw [any_isDisabledTool, ClientSettings.access]
  dsimp only
  induction settings.blockedTools with
  | nil => rfl
  | cons block rest ih =>
    rw [List.any_cons, ← ih]
    cases block with
    | of blockedServer blockedTool =>
      by_cases same : blockedServer = server
      · simp [ToolBlock.reaches, same, Bool.or_assoc]
      · simp [ToolBlock.reaches, same]
    | named name => simp [ToolBlock.reaches, Bool.or_left_comm]

/-- A tool is refused by what is said about its server, or by one of the blocks. -/
theorem keepsFrom_access (settings : ClientSettings) (server tool listed delimiter : List Char) :
    settings.access.keepsFrom server (some tool) listed delimiter =
      (settings.access.excludes server (some tool) ||
        settings.blockedTools.any fun block => block.reaches server tool listed delimiter) := by
  rw [keepsFrom_cases, ← any_blocks]
  rfl

/-! ### The rules of a client -/

/-- The client is kept from the tool. -/
def keptFrom (clients : List (List Char × ClientSettings)) (key server : List Char)
    (tool : Option (List Char)) (listed delimiter : List Char) : Bool :=
  ((clientAccessTable clients).lookup key).any fun access =>
    access.keepsFrom server tool listed delimiter

theorem keepsFrom_unrestricted {settings : ClientSettings} (free : settings.restricts = false)
    (server : List Char) (tool : Option (List Char)) (listed delimiter : List Char) :
    settings.access.keepsFrom server tool listed delimiter = false := by
  simp only [ClientSettings.restricts, Bool.or_eq_false_iff, Bool.not_eq_false',
    List.isEmpty_iff] at free
  obtain ⟨⟨servers, tools⟩, only⟩ := free
  cases tool with
  | none =>
    simp [ClientSettings.access, ClientAccess.keepsFrom, ClientAccess.keepsFromServer, servers,
      tools, only]
  | some tool =>
    simp [ClientSettings.access, ClientAccess.keepsFrom, ClientAccess.keepsFromServer, servers,
      tools, only]

theorem lookup_clientAccessTable {clients : List (List Char × ClientSettings)}
    (distinct : (clients.map Prod.fst).Nodup) (key : List Char) :
    (clientAccessTable clients).lookup key =
      ((clients.lookup key).filter ClientSettings.restricts).map ClientSettings.access := by
  induction clients with
  | nil => rfl
  | cons client rest ih =>
    obtain ⟨name, settings⟩ := client
    rw [List.map_cons, List.nodup_cons] at distinct
    have later := ih distinct.2
    by_cases own : key = name
    · subst own
      rw [Tables.lookup_absent distinct.1] at later
      cases restricts : settings.restricts with
      | true => simp [clientAccessTable, Option.filter, restricts]
      | false =>
        have skipped : clientAccessTable ((key, settings) :: rest) = clientAccessTable rest := by
          simp [clientAccessTable, restricts]
        rw [skipped, later]
        simp [Option.filter, restricts]
    · have apart : (key == name) = false := beq_false_of_ne own
      rw [List.lookup_cons, apart, ← later]
      cases restricts : settings.restricts with
      | true => simp [clientAccessTable, restricts, List.lookup_cons, apart]
      | false => simp [clientAccessTable, restricts]

/-- Settings that restrict nothing are left out of the table, and keep the client from nothing. -/
theorem keptFrom_settings (config : ClientConfig) (key server : List Char)
    (tool : Option (List Char)) (listed delimiter : List Char) :
    keptFrom config.clients key server tool listed delimiter =
      (config.settings key).access.keepsFrom server tool listed delimiter := by
  rw [keptFrom, lookup_clientAccessTable config.clientsDistinct, ClientConfig.settings]
  cases config.clients.lookup key with
  | none =>
    rw [Option.getD_none, keepsFrom_unrestricted rfl]
    rfl
  | some settings =>
    rw [Option.getD_some]
    cases restricts : settings.restricts with
    | true => simp [Option.filter, restricts]
    | false =>
      rw [keepsFrom_unrestricted restricts]
      simp [Option.filter, restricts]

theorem settings_put (config : ClientConfig) (key : List Char) (settings : ClientSettings)
    (server : List Char) (tool : Option (List Char)) (listed delimiter : List Char) :
    ((config.put key settings).settings key).access.keepsFrom server tool listed delimiter =
      settings.access.keepsFrom server tool listed delimiter := by
  unfold ClientConfig.put ClientConfig.settings
  dsimp only
  cases empty : settings.isEmpty with
  | false => simp
  | true =>
    have absent : key ∉ (config.clients.filter fun item => item.1 ≠ key).map Prod.fst := by
      intro member
      obtain ⟨item, kept, same⟩ := List.mem_map.mp member
      exact absurd same (of_decide_eq_true (List.mem_filter.mp kept).2)
    have free : settings.restricts = false := by
      simp only [ClientSettings.isEmpty, Bool.and_eq_true, Bool.not_eq_true'] at empty
      obtain ⟨⟨⟨⟨_, _⟩, servers⟩, tools⟩, only⟩ := empty
      simp [ClientSettings.restricts, servers, tools, only]
    rw [keepsFrom_unrestricted free, if_pos rfl]
    dsimp only
    rw [Tables.lookup_absent absent, Option.getD_none, keepsFrom_unrestricted rfl]

/-! ### Lists of what is allowed -/

/-- The tool is allowed alone: its server is neither on the list nor blocked, it is on the list by
itself, and no rule about the tool refuses it. -/
def ClientSettings.allowsAlone (settings : ClientSettings) (server : List Char)
    (tool : Option (List Char)) (listed delimiter : List Char) : Bool :=
  !settings.allowedServers.contains server && !settings.blockedServers.contains server &&
    settings.access.allowsTool server tool &&
    !settings.access.blocks server tool listed delimiter

section AllowList

variable {settings : ClientSettings} {servers : List (List Char)} {server : List Char}

theorem no_allow_list (ended : settings.hasAllowList = false) :
    settings.allowedServers = [] ∧ settings.allowedTools = [] := by
  simp only [ClientSettings.hasAllowList, Bool.or_eq_false_iff, Bool.not_eq_false',
    List.isEmpty_iff] at ended
  exact ⟨ended.1.2, ended.2⟩

/-- Starting a list leaves the client what it gets. -/
theorem excludes_started (configured : server ∈ servers) (tool : Option (List Char)) :
    (allowList servers settings true).access.excludes server tool =
      settings.access.excludes server tool := by
  rw [allowList, if_pos rfl]
  cases has : settings.hasAllowList with
  | true =>
    have still : { settings with onlyAllowed := true }.hasAllowList = true := rfl
    simp only [if_pos, ClientSettings.access, ClientAccess.excludes, still, has,
      ClientAccess.allowsTool]
  | false =>
    obtain ⟨_, tools⟩ := no_allow_list has
    have listed : (sortStrings (servers.filter fun name =>
        !settings.blockedServers.contains name)).contains server =
          !settings.blockedServers.contains server := by
      rw [Bool.eq_iff_iff, List.contains_iff_mem, sortStrings, List.mem_insertionSort,
        List.mem_filter]
      exact ⟨And.right, And.intro configured⟩
    have nothing : settings.access.onlyAllowed = false := has
    rw [if_neg Bool.false_ne_true, ClientAccess.excludes, ClientAccess.excludes, nothing]
    simp only [ClientSettings.access, ClientSettings.hasAllowList, ClientAccess.allowsTool, tools,
      listed]
    cases tool with
    | none => simp
    | some tool => simp

/-- Ending a list takes from the client the tools that were allowed alone. -/
theorem excludes_ended (configured : server ∈ servers) (has : settings.hasAllowList = true)
    (tool : Option (List Char)) :
    (allowList servers settings false).access.excludes server tool =
      (settings.access.excludes server tool ||
        (!settings.allowedServers.contains server && settings.access.allowsTool server tool)) := by
  rw [allowList, if_neg Bool.false_ne_true, if_pos has]
  have kept : (sortNames (settings.blockedServers ++ servers.filter fun name =>
      !settings.allowedServers.contains name)).contains server =
        (settings.blockedServers.contains server || !settings.allowedServers.contains server) := by
    rw [Bool.eq_iff_iff, List.contains_iff_mem, mem_sortNames, List.mem_append, List.mem_filter,
      Bool.or_eq_true, List.contains_iff_mem]
    exact or_congr Iff.rfl ⟨And.right, And.intro configured⟩
  have only : settings.access.onlyAllowed = true := has
  have ended : ClientSettings.access { settings with
      allowedServers := [], allowedTools := [], onlyAllowed := false
      blockedServers := sortNames (settings.blockedServers ++ servers.filter fun name =>
        !settings.allowedServers.contains name) } =
      { settings.access with
        allowedServers := [], allowedTools := [], onlyAllowed := false
        blockedServers := sortNames (settings.blockedServers ++ servers.filter fun name =>
          !settings.allowedServers.contains name) } := rfl
  rw [ended, ClientAccess.excludes, ClientAccess.excludes, only]
  dsimp only
  rw [kept]
  have blocked : settings.access.blockedServers = settings.blockedServers := rfl
  have allowed : settings.access.allowedServers = settings.allowedServers := rfl
  rw [blocked, allowed]
  cases settings.blockedServers.contains server <;>
    cases settings.allowedServers.contains server <;>
    cases settings.access.allowsTool server tool <;> rfl

/-- The rules about tools stay as they are. -/
theorem blocks_allowList (servers : List (List Char)) (settings : ClientSettings) (blocked : Bool)
    (server : List Char) (tool : Option (List Char)) (listed delimiter : List Char) :
    (allowList servers settings blocked).access.blocks server tool listed delimiter =
      settings.access.blocks server tool listed delimiter := by
  unfold allowList
  split
  · split <;> rfl
  · split <;> rfl

theorem allowList_keeps (configured : server ∈ servers) (blocked : Bool)
    (tool : Option (List Char)) (listed delimiter : List Char) :
    (allowList servers settings blocked).access.keepsFrom server tool listed delimiter =
        settings.access.keepsFrom server tool listed delimiter ↔
      ¬ (blocked = false ∧ settings.allowsAlone server tool listed delimiter = true) := by
  rw [keepsFrom_cases, keepsFrom_cases, blocks_allowList]
  cases blocked with
  | true => simp [excludes_started configured]
  | false =>
    cases has : settings.hasAllowList with
    | false =>
      have tools : settings.access.allowedTools = [] := by
        rw [ClientSettings.access, (no_allow_list has).2, List.map_nil]
      have none : settings.access.allowsTool server tool = false := by
        cases tool with
        | none => rfl
        | some tool => simp [ClientAccess.allowsTool, tools]
      simp [allowList, has, ClientSettings.allowsAlone, none]
    | true =>
      have only : settings.access.onlyAllowed = true := has
      have servers : settings.access.blockedServers = settings.blockedServers := rfl
      have allowed : settings.access.allowedServers = settings.allowedServers := rfl
      rw [excludes_ended configured has, ClientSettings.allowsAlone, ClientAccess.excludes, only,
        servers, allowed]
      cases settings.blockedServers.contains server <;>
        cases settings.allowedServers.contains server <;>
        cases settings.access.allowsTool server tool <;>
        cases settings.access.blocks server tool listed delimiter <;> decide

end AllowList

/-- Starting or ending a list of what is allowed leaves what a client is kept from, exactly unless
the list is ended and the tool was allowed alone. -/
theorem allow_list_toggle (config : ClientConfig) (key target : List Char) (blocked : Bool)
    (toolBehind : ToolBehind) (next : ClientConfig)
    (applied : setClientBlock config key .allowList target blocked toolBehind = .ok next)
    (server : List Char) (configured : server ∈ config.servers) (tool : Option (List Char))
    (listed delimiter : List Char) :
    keptFrom next.clients (trim key) server tool listed delimiter =
        keptFrom config.clients (trim key) server tool listed delimiter ↔
      ¬ (blocked = false ∧
        (config.settings (trim key)).allowsAlone server tool listed delimiter = true) := by
  have same : next = config.put (trim key)
      (allowList config.servers (config.settings (trim key)) blocked) := by
    unfold setClientBlock at applied
    dsimp only at applied
    split at applied
    · cases applied
    · split at applied
      · cases applied
      · split at applied
        · cases applied
        · exact (Except.ok.inj applied).symm
  rw [same, keptFrom_settings, keptFrom_settings, settings_put]
  exact allowList_keeps configured blocked tool listed delimiter

/-- One server, and a client that is allowed one tool of it. -/
def allowsSend : ClientConfig where
  servers := ["slack".toList]
  clients := [("client".toList, oneTool)]
  clientsDistinct := by simp

def unrestricted : ClientConfig where
  servers := ["slack".toList]
  clients := []
  clientsDistinct := by simp

/-- A client without rules gets the server's tools on the list that is started for it. -/
theorem allow_list_toggle_started :
    keptFrom (unrestricted.put "client".toList
        (allowList ["slack".toList] .unset true)).clients "client".toList "slack".toList
        (some "send_message".toList) "Slack__send_message".toList "__".toList =
      keptFrom unrestricted.clients "client".toList "slack".toList
        (some "send_message".toList) "Slack__send_message".toList "__".toList :=
  (allow_list_toggle unrestricted "client".toList "*".toList true (fun _ => none) _ rfl
    "slack".toList (by decide) (some "send_message".toList) "Slack__send_message".toList
    "__".toList).mpr (by decide)

/-- Ending the list takes the tool that was allowed alone from the client. -/
theorem allow_list_end_refuses :
    ∃ next, setClientBlock allowsSend "client".toList .allowList "*".toList false
        (fun _ => none) = .ok next ∧
      "slack".toList ∈ allowsSend.servers ∧
      keptFrom allowsSend.clients "client".toList "slack".toList (some "send_message".toList)
        "Slack__send_message".toList "__".toList = false ∧
      keptFrom next.clients "client".toList "slack".toList (some "send_message".toList)
        "Slack__send_message".toList "__".toList = true := by
  refine ⟨_, rfl, ?_⟩
  decide +kernel

end Plug.Access
