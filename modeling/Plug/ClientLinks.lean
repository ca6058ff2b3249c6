import Plug.JsonPaths

/-!
# Client links in JSON files

A client finds Plug through an entry in a file of its own. The export writes the entry as a
snippet, linking merges the snippet into the file, the reader looks in the file for the entry, and
unlinking takes it out again. Which clients are linked right is the subject here, for the clients
that keep their entries in JSON.
-/

namespace Plug.ClientLinks

open JsonValues

/-! ### The clients -/

inductive ExportTarget where
  | claudeDesktop
  | claudeCode
  | cursor
  | devin
  | vsCodeCopilot
  | copilotCli
  | geminiCli
  | codexCli
  | grokBuild
  | openCode
  | zed
  | cline
  | clineCli
  | rooCode
  | factory
  | nanobot
  | junie
  | kilo
  | pi
  | warp
  | kiro
  | kimiCode
  | qwenCode
  | antigravity
  | goose
  | hermes
  | amp
  | openClaw
  | lmStudio
  | museCode
deriving DecidableEq

def ExportTarget.targetName : ExportTarget → String
  | .claudeDesktop => "claude-desktop"
  | .claudeCode => "claude-code"
  | .cursor => "cursor"
  | .devin => "devin"
  | .vsCodeCopilot => "vscode"
  | .copilotCli => "copilot-cli"
  | .geminiCli => "gemini-cli"
  | .codexCli => "codex-cli"
  | .grokBuild => "grok-build"
  | .openCode => "opencode"
  | .zed => "zed"
  | .cline => "cline"
  | .clineCli => "cline-cli"
  | .rooCode => "roocode"
  | .factory => "factory"
  | .nanobot => "nanobot"
  | .junie => "junie"
  | .kilo => "kilo"
  | .pi => "pi"
  | .warp => "warp"
  | .kiro => "kiro"
  | .kimiCode => "kimi-code"
  | .qwenCode => "qwen-code"
  | .antigravity => "antigravity"
  | .goose => "goose"
  | .hermes => "hermes"
  | .amp => "amp"
  | .openClaw => "openclaw"
  | .lmStudio => "lm-studio"
  | .museCode => "muse-code"

inductive ExportTransport where
  | stdio
  | http
deriving DecidableEq

structure ExportOptions where
  target : ExportTarget
  transport : ExportTransport
  port : UInt16
  httpUrl : Option String
  command : String

def resolvedHttpUrl (options : ExportOptions) : String :=
  options.httpUrl.getD ("http://localhost:" ++ toString options.port.toNat ++ "/mcp")

def connectArgs (options : ExportOptions) : List String :=
  ["connect", "--client", options.target.targetName]

/-! ### Export -/

def commandMembers (options : ExportOptions) : Members :=
  [("command", .string options.command), ("args", .array ((connectArgs options).map .string))]

def urlMember (options : ExportOptions) : String × Value :=
  ("url", .string (resolvedHttpUrl options))

/-- The entry under its path, with the members of the transport that is asked for. -/
def exportEntry (path : List String) (stdio http : Members) (options : ExportOptions) : Value :=
  nest (.object (match options.transport with | .stdio => stdio | .http => http))
    (path ++ ["plug"])

def exportNanobot (options : ExportOptions) : Value :=
  exportEntry ["tools", "mcpServers"] (commandMembers options) [urlMember options] options

def exportQwenCode (options : ExportOptions) : Value :=
  exportEntry ["mcpServers"] (commandMembers options)
    [("httpUrl", .string (resolvedHttpUrl options))] options

def exportOpenclaw (options : ExportOptions) : Value :=
  exportEntry ["mcp", "servers"] (commandMembers options)
    [urlMember options, ("transport", .string "streamable-http")] options

def exportMuseCode (options : ExportOptions) : Value :=
  exportEntry ["mcp_servers"]
    (("transport", .string "stdio") :: commandMembers options ++ [("mode", .string "optional")])
    [("transport", .string "streamable_http"), urlMember options, ("mode", .string "optional")]
    options

def exportJsonMcpServers (options : ExportOptions) (key : String) : Value :=
  exportEntry [key] (commandMembers options) [urlMember options] options

def exportClaudeCode (options : ExportOptions) : Value :=
  exportEntry ["mcpServers"] (commandMembers options)
    [("type", .string "http"), urlMember options] options

def exportOpencode (options : ExportOptions) : Value :=
  exportEntry ["mcp"]
    [("type", .string "local"),
      ("command", .array ((options.command :: connectArgs options).map .string)),
      ("enabled", .bool true)]
    [("type", .string "remote"), urlMember options, ("enabled", .bool true)] options

def exportVscode (options : ExportOptions) : Value :=
  exportEntry ["servers"] (("type", .string "stdio") :: commandMembers options)
    [("type", .string "http"), urlMember options] options

def exportCopilotCli (options : ExportOptions) : Value :=
  exportEntry ["mcpServers"]
    (("type", .string "local") :: commandMembers options ++ [("tools", .array [.string "*"])])
    [("type", .string "http"), urlMember options, ("tools", .array [.string "*"])] options

/-- What the snippet says, for the clients whose file is JSON. -/
def exportValue (options : ExportOptions) : Option Value :=
  match options.target with
  | .claudeDesktop | .cursor | .devin | .geminiCli | .cline | .clineCli | .rooCode | .factory
  | .junie | .pi | .warp | .kiro | .kimiCode | .lmStudio | .antigravity =>
    some (exportJsonMcpServers options "mcpServers")
  | .claudeCode => some (exportClaudeCode options)
  | .openCode | .kilo => some (exportOpencode options)
  | .amp => some (exportJsonMcpServers options "amp.mcpServers")
  | .openClaw => some (exportOpenclaw options)
  | .museCode => some (exportMuseCode options)
  | .qwenCode => some (exportQwenCode options)
  | .vsCodeCopilot => some (exportVscode options)
  | .copilotCli => some (exportCopilotCli options)
  | .zed => some (exportJsonMcpServers options "context_servers")
  | .nanobot => some (exportNanobot options)
  -- Their files are YAML and TOML.
  | .goose | .hermes | .codexCli | .grokBuild => none

/-! ### Merging and taking out -/

def insertAll (members new : Members) : Members :=
  new.foldl (fun members member => insert member.1 member.2 members) members

def mergeNested (members : Members) (member : String × Value) : Members :=
  if member.1 = "plug" then insert member.1 member.2 members
  else
    match lookup member.1 members, member.2 with
    | some (.object deep), .object new => insert member.1 (.object (insertAll deep new)) members
    | _, value => insert member.1 value members

def mergeMember (members : Members) (member : String × Value) : Members :=
  match lookup member.1 members, member.2 with
  | some (.object inner), .object new =>
    if member.1 = "mcp" ∨ member.1 = "tools" then
      insert member.1 (.object (new.foldl mergeNested inner)) members
    else insert member.1 (.object (insertAll inner new)) members
  | _, value => insert member.1 value members

def mergeJson (existing snippet : Value) : Value :=
  match existing, snippet with
  | .object members, .object new => .object (new.foldl mergeMember members)
  | existing, _ => existing

/-- Removal goes through objects only, and leaves what is not one as it is. -/
def unmergeJson (json : Value) : Value :=
  [["mcpServers"], ["context_servers"], ["servers"], ["amp.mcpServers"], ["mcp_servers"], ["mcp"],
    ["mcp", "servers"], ["tools", "mcpServers"]].foldl
    (fun json path => removeAt (path ++ ["plug"]) json) json

/-! ### The reader -/

structure LinkedClientConfig where
  transport : ExportTransport
  endpoint : Option String
  command : Option String
  args : Option (List String)
deriving DecidableEq

def jsonStringArgs (value : Value) : Option (List String) :=
  value.asArray.bind fun items => items.mapM Value.asStr

def plugEntry (target : ExportTarget) (json : Value) : Option Value :=
  match target with
  | .nanobot => json.at? ["tools", "mcpServers", "plug"]
  | .vsCodeCopilot => json.at? ["servers", "plug"]
  | .amp => json.at? ["amp.mcpServers", "plug"]
  | .openClaw => json.at? ["mcp", "servers", "plug"]
  | .museCode => json.at? ["mcp_servers", "plug"]
  | .openCode | .kilo => json.at? ["mcp", "plug"]
  | _ => (json.at? ["mcpServers", "plug"]).or (json.at? ["context_servers", "plug"])

def readEntry (plug : Value) : Option LinkedClientConfig :=
  match ((plug.member? "url").bind Value.asStr).or ((plug.member? "uri").bind Value.asStr) with
  | some url => some ⟨.http, some url, none, none⟩
  | none =>
    match (plug.member? "command").bind jsonStringArgs with
    | some words => some ⟨.stdio, none, words.head?, some (words.drop 1)⟩
    | none =>
      (plug.member? "command").map fun command =>
        ⟨.stdio, none, command.asStr, (plug.member? "args").bind jsonStringArgs⟩

/-! ### Files -/

/-- How documents are read and printed, which is the work of another library. What is printed
reads as it was, and is not blank. -/
structure Serde (Text : Type) where
  fromStr : Text → Option Value
  toStringPretty : Value → Text
  isBlank : Text → Bool
  fromStr_toStringPretty : ∀ value, fromStr (toStringPretty value) = some value
  isBlank_toStringPretty : ∀ value, isBlank (toStringPretty value) = false

attribute [simp] Serde.fromStr_toStringPretty Serde.isBlank_toStringPretty

variable {Text : Type} (serde : Serde Text)

def exportConfig (options : ExportOptions) : Option Text :=
  (exportValue options).map serde.toStringPretty

/-- An empty file is an empty object. -/
def readClientJson (existing : Text) : Option Value :=
  if serde.isBlank existing then some (.object []) else serde.fromStr existing

def mergeJsonConfig (existing snippet : Text) : Option Text :=
  (readClientJson serde existing).bind fun existing =>
    (serde.fromStr snippet).map fun snippet => serde.toStringPretty (mergeJson existing snippet)

def unmergeJsonConfig (existing : Text) : Option Text :=
  (readClientJson serde existing).map fun json => serde.toStringPretty (unmergeJson json)

/-- For a file that is neither TOML nor YAML. -/
def linkedClientConfigFromContent (target : ExportTarget) (content : Text) :
    Option LinkedClientConfig :=
  (serde.fromStr content).bind fun json => (plugEntry target json).bind readEntry

/-! ### What a link says -/

/-- Where the entry is to be. -/
def ExportTarget.plugPath : ExportTarget → List String
  | .openCode | .kilo => ["mcp", "plug"]
  | .amp => ["amp.mcpServers", "plug"]
  | .openClaw => ["mcp", "servers", "plug"]
  | .museCode => ["mcp_servers", "plug"]
  | .vsCodeCopilot => ["servers", "plug"]
  | .zed => ["context_servers", "plug"]
  | .nanobot => ["tools", "mcpServers", "plug"]
  | _ => ["mcpServers", "plug"]

/-- What the link was asked to say. -/
def ExportOptions.linked (options : ExportOptions) : LinkedClientConfig :=
  match options.transport with
  | .stdio => ⟨.stdio, none, some options.command, some (connectArgs options)⟩
  | .http => ⟨.http, some (resolvedHttpUrl options), none, none⟩

/-- What lies on the way is an object where it is present. -/
def Passable (path : List String) (json : Value) : Prop :=
  ∀ place inner, place <+: path → place ≠ path → json.at? place = some inner →
    ∃ members, inner = .object members

/-- The Qwen Code entry names an address in its own way, which the reader does not know. The
reader of a Zed file takes an entry of the other clients first. -/
def ReadBack (options : ExportOptions) (existing : Value) : Prop :=
  ¬ (options.target = .qwenCode ∧ options.transport = .http) ∧
    (options.target = .zed → ∀ entry, existing.at? ["mcpServers", "plug"] = some entry →
      readEntry entry = some options.linked)

/-- What is to hold of a file after the snippet was merged into it. -/
structure LinkedAs (options : ExportOptions) (existing : Value) (snippet merged : Text) :
    Prop where
  reads : linkedClientConfigFromContent serde options.target merged = some options.linked
  others : ∃ json, serde.fromStr merged = some json ∧
    ∀ place, ¬ options.target.plugPath <+: place → ¬ place <+: options.target.plugPath →
      json.at? place = existing.at? place
  again : mergeJsonConfig serde merged snippet = some merged
  unlinks : ∃ unlinked, unmergeJsonConfig serde merged = some unlinked ∧
    linkedClientConfigFromContent serde options.target unlinked = none ∧
    ∃ json cleared, serde.fromStr merged = some json ∧ serde.fromStr unlinked = some cleared ∧
      ∀ place, "plug" ∉ place →
        (cleared.at? place).map outline = (json.at? place).map outline

/-! ### Reading an entry -/

variable {serde} {options : ExportOptions}

theorem mapM_asStr (texts : List String) :
    (texts.map Value.string).mapM Value.asStr = some texts := by
  induction texts with
  | nil => rfl
  | cons text rest ih =>
    rw [List.map_cons, List.mapM_cons, ih]
    rfl

@[simp] theorem jsonStringArgs_strings (texts : List String) :
    jsonStringArgs (.array (texts.map .string)) = some texts := by
  rw [jsonStringArgs, Value.asArray, Option.bind_some, mapM_asStr]

theorem readEntry_url {entry : Value} {url : String}
    (address : entry.member? "url" = some (.string url)) :
    readEntry entry = some ⟨.http, some url, none, none⟩ := by
  rw [readEntry, address]
  rfl

theorem readEntry_words {entry : Value} {command : String} {args : List String}
    (noUrl : entry.member? "url" = none) (noUri : entry.member? "uri" = none)
    (words : entry.member? "command" = some (.array ((command :: args).map .string))) :
    readEntry entry = some ⟨.stdio, none, some command, some args⟩ := by
  rw [readEntry, noUrl, noUri, words]
  simp only [Option.bind_none, Option.bind_some, Option.or_none, jsonStringArgs_strings,
    List.head?_cons, List.drop_one, List.tail_cons]

theorem readEntry_command {entry arguments : Value} {command : String} {args : List String}
    (noUrl : entry.member? "url" = none) (noUri : entry.member? "uri" = none)
    (given : entry.member? "command" = some (.string command))
    (followed : entry.member? "args" = some arguments)
    (strings : jsonStringArgs arguments = some args) :
    readEntry entry = some ⟨.stdio, none, some command, some args⟩ := by
  have single : jsonStringArgs (.string command) = none := rfl
  rw [readEntry, noUrl, noUri, given, followed]
  simp [single, strings, Value.asStr]

theorem readEntry_nothing {entry : Value} (noUrl : entry.member? "url" = none)
    (noUri : entry.member? "uri" = none) (noCommand : entry.member? "command" = none) :
    readEntry entry = none := by
  rw [readEntry, noUrl, noUri, noCommand]
  rfl

/-- The reader knows an entry with the members of the transport that is asked for. -/
theorem readEntry_linked {stdio http : Members}
    (overStdio : options.transport = .stdio →
      readEntry (.object stdio) = some ⟨.stdio, none, some options.command,
        some (connectArgs options)⟩)
    (overHttp : options.transport = .http →
      readEntry (.object http) = some ⟨.http, some (resolvedHttpUrl options), none, none⟩) :
    readEntry (.object (match options.transport with | .stdio => stdio | .http => http)) =
      some options.linked := by
  unfold ExportOptions.linked
  cases asked : options.transport with
  | stdio => exact overStdio asked
  | http => exact overHttp asked

theorem reads_command : readEntry (.object (commandMembers options)) =
    some ⟨.stdio, none, some options.command, some (connectArgs options)⟩ :=
  readEntry_command rfl rfl rfl rfl (jsonStringArgs_strings _)

/-- The snippet holds one entry, under the path of its client, and the reader knows it unless it
is the one of Qwen Code for an address. -/
theorem exportValue_shape {value : Value} (exported : exportValue options = some value) :
    ∃ entry, value = nest entry options.target.plugPath ∧
      readEntry entry = if options.target = .qwenCode ∧ options.transport = .http then none
        else some options.linked := by
  obtain ⟨target, transport, port, httpUrl, command⟩ := options
  cases target with
  | goose | hermes | codexCli | grokBuild => cases exported
  | qwenCode =>
    cases exported
    refine ⟨_, rfl, ?_⟩
    cases transport with
    | stdio =>
      rw [if_neg fun both => ExportTransport.noConfusion both.2]
      exact reads_command
    | http =>
      rw [if_pos ⟨rfl, rfl⟩]
      exact readEntry_nothing rfl rfl rfl
  | openCode | kilo =>
    cases exported
    refine ⟨_, rfl, ?_⟩
    rw [if_neg fun both => ExportTarget.noConfusion both.1]
    exact readEntry_linked (fun _ => readEntry_words rfl rfl rfl) fun _ => readEntry_url rfl
  | _ =>
    cases exported
    refine ⟨_, rfl, ?_⟩
    rw [if_neg fun both => ExportTarget.noConfusion both.1]
    exact readEntry_linked
      (fun _ => readEntry_command rfl rfl rfl rfl (jsonStringArgs_strings _))
      fun _ => readEntry_url rfl

/-! ### Merging -/

theorem Passable.members {path : List String} {json : Value} (passable : Passable path json)
    (further : path ≠ []) : ∃ members, json = .object members :=
  passable [] json List.nil_prefix further.symm (at?_nil json)

/-- What lies under a name on the way is passable as well. -/
theorem Passable.inner {key : String} {rest : List String} {json inner : Value}
    (passable : Passable (key :: rest) json) (present : json.member? key = some inner) :
    Passable rest inner := by
  intro place found ahead short reached
  apply passable (key :: place) found
  · exact List.cons_prefix_cons.mpr ⟨rfl, ahead⟩
  · exact fun same => short (List.cons.inj same).2
  · rw [at?_cons, present, Option.bind_some, reached]

theorem insertAll_single (members : Members) (key : String) (value : Value) :
    insertAll members [(key, value)] = insert key value members :=
  rfl

/-- A level of the merge that has one member to put in, where it is put into an object or a new
one. -/
theorem putAt_plug (entry : Value) (members : Members) :
    putAt entry ["plug"] (.object members) = .object (insert "plug" entry members) :=
  rfl

theorem merge_flat {key : String} (elsewhere : ¬ (key = "mcp" ∨ key = "tools")) (entry : Value)
    {members : Members} (passable : Passable [key, "plug"] (.object members)) :
    mergeJson (.object members) (nest entry [key, "plug"]) =
      putAt entry [key, "plug"] (.object members) := by
  change Value.object (mergeMember members (key, .object [("plug", entry)])) = _
  rw [putAt, member?_eq, Value.membersOrNone, mergeMember]
  cases present : lookup key members with
  | none => rfl
  | some inner =>
    obtain ⟨within, rfl⟩ := (passable.inner present).members (List.cons_ne_nil _ _)
    dsimp only
    rw [if_neg elsewhere, insertAll_single, Option.getD_some, putAt_plug]

theorem merge_nested {key : String} (nested : key = "mcp" ∨ key = "tools") (entry : Value)
    {members : Members} (passable : Passable [key, "plug"] (.object members)) :
    mergeJson (.object members) (nest entry [key, "plug"]) =
      putAt entry [key, "plug"] (.object members) := by
  change Value.object (mergeMember members (key, .object [("plug", entry)])) = _
  rw [putAt, member?_eq, Value.membersOrNone, mergeMember]
  cases present : lookup key members with
  | none => rfl
  | some inner =>
    obtain ⟨within, rfl⟩ := (passable.inner present).members (List.cons_ne_nil _ _)
    dsimp only
    rw [if_pos nested, Option.getD_some, putAt_plug]
    rfl

theorem merge_deep {key next : String} (nested : key = "mcp" ∨ key = "tools")
    (deeper : next ≠ "plug") (entry : Value) {members : Members}
    (passable : Passable [key, next, "plug"] (.object members)) :
    mergeJson (.object members) (nest entry [key, next, "plug"]) =
      putAt entry [key, next, "plug"] (.object members) := by
  change Value.object (mergeMember members
    (key, .object [(next, .object [("plug", entry)])])) = _
  rw [putAt, member?_eq, Value.membersOrNone, mergeMember]
  cases present : lookup key members with
  | none => rfl
  | some inner =>
    obtain ⟨within, rfl⟩ := (passable.inner present).members (List.cons_ne_nil _ _)
    dsimp only
    rw [if_pos nested, Option.getD_some, putAt, member?_eq, Value.membersOrNone]
    change Value.object (insert key (.object (mergeNested within
      (next, .object [("plug", entry)]))) members) = _
    rw [mergeNested, if_neg deeper]
    cases below : lookup next within with
    | none => rfl
    | some innermost =>
      obtain ⟨last, rfl⟩ :=
        ((passable.inner present).inner below).members (List.cons_ne_nil _ _)
      dsimp only
      rw [insertAll_single, Option.getD_some, putAt_plug]

/-- Merging puts the entry at the end of its path. -/
theorem mergeJson_nest (target : ExportTarget) (entry : Value) {members : Members}
    (passable : Passable target.plugPath (.object members)) :
    mergeJson (.object members) (nest entry target.plugPath) =
      putAt entry target.plugPath (.object members) := by
  cases target with
  | openCode | kilo => exact merge_nested (Or.inl rfl) entry passable
  | openClaw => exact merge_deep (Or.inl rfl) (by decide) entry passable
  | nanobot => exact merge_deep (Or.inr rfl) (by decide) entry passable
  | _ => exact merge_flat (by decide) entry passable

theorem passable_putAt (entry : Value) (path : List String) (json : Value) :
    Passable path (putAt entry path json) := by
  induction path generalizing json with
  | nil =>
    intro place inner ahead short reached
    exact absurd (List.prefix_nil.mp ahead) short
  | cons key rest ih =>
    intro place inner ahead short reached
    cases place with
    | nil =>
      rw [at?_nil] at reached
      cases reached
      exact ⟨_, rfl⟩
    | cons next further =>
      obtain ⟨rfl, onward⟩ := List.cons_prefix_cons.mp ahead
      rw [putAt, at?_cons, member?_eq, Value.membersOrNone, lookup_insert_self,
        Option.bind_some] at reached
      exact ih _ further inner onward (fun same => short (by rw [same])) reached

theorem plugPath_ne_nil (target : ExportTarget) : target.plugPath ≠ [] := by
  cases target <;> exact List.cons_ne_nil _ _

theorem mergeJson_again (target : ExportTarget) (entry json : Value) :
    mergeJson (putAt entry target.plugPath json) (nest entry target.plugPath) =
      putAt entry target.plugPath json := by
  have passable := passable_putAt entry target.plugPath json
  obtain ⟨members, object⟩ := passable.members (plugPath_ne_nil target)
  rw [object] at passable ⊢
  rw [mergeJson_nest target entry passable, ← object, putAt_putAt]

/-! ### The reader and the entry -/

/-- Where the reader looks before it looks where the entry is. -/
theorem plugEntry_putAt (target : ExportTarget) (entry json : Value) :
    plugEntry target (putAt entry target.plugPath json) =
      if target = .zed then (json.at? ["mcpServers", "plug"]).or (some entry) else some entry := by
  have there : (putAt entry target.plugPath json).at? target.plugPath = some entry :=
    at?_putAt entry target.plugPath json
  cases target with
  | zed =>
    have apart : (putAt entry ["context_servers", "plug"] json).at? ["mcpServers", "plug"] =
        json.at? ["mcpServers", "plug"] :=
      at?_putAt_apart entry json (by decide) (by decide)
    rw [if_pos rfl, ← apart, ← there]
    rfl
  | nanobot | vsCodeCopilot | amp | openClaw | museCode | openCode | kilo =>
    rw [if_neg ExportTarget.noConfusion]
    exact there
  | _ =>
    rw [if_neg ExportTarget.noConfusion]
    exact Option.or_eq_some_iff.mpr (Or.inl there)

theorem bind_readEntry_iff {entry json : Value}
    (understood : readEntry entry =
      if options.target = .qwenCode ∧ options.transport = .http then none
      else some options.linked) :
    (if options.target = .zed then (json.at? ["mcpServers", "plug"]).or (some entry)
      else some entry).bind readEntry = some options.linked ↔ ReadBack options json := by
  by_cases zed : options.target = .zed
  · have notQwen : ¬ (options.target = .qwenCode ∧ options.transport = .http) := by
      rintro ⟨qwen, _⟩
      rw [zed] at qwen
      cases qwen
    rw [if_neg notQwen] at understood
    rw [if_pos zed]
    cases other : json.at? ["mcpServers", "plug"] with
    | none =>
      rw [Option.none_or, Option.bind_some]
      refine ⟨fun _ => ⟨notQwen, fun _ first found => ?_⟩, fun _ => understood⟩
      rw [other] at found
      cases found
    | some first =>
      rw [Option.some_or, Option.bind_some]
      refine ⟨fun read => ⟨notQwen, fun _ found present => ?_⟩, fun back =>
        back.2 zed first other⟩
      rw [other, Option.some.injEq] at present
      rw [← present]
      exact read
  · rw [if_neg zed, Option.bind_some, understood]
    by_cases qwen : options.target = .qwenCode ∧ options.transport = .http
    · rw [if_pos qwen]
      refine ⟨fun read => ?_, fun back => absurd qwen back.1⟩
      cases read
    · rw [if_neg qwen]
      exact ⟨fun _ => ⟨qwen, fun same => absurd same zed⟩, fun _ => rfl⟩

/-! ### Taking out -/

theorem removals_at? (json : Value) {paths : List (List String)} {place : List String}
    (listed : place ∈ paths ∨ json.at? (place ++ ["plug"]) = none) :
    (paths.foldl (fun json path => removeAt (path ++ ["plug"]) json) json).at?
      (place ++ ["plug"]) = none := by
  induction paths generalizing json with
  | nil =>
    obtain listed | absent := listed
    · exact absurd listed List.not_mem_nil
    · exact absent
  | cons path rest ih =>
    rw [List.foldl_cons]
    apply ih
    obtain listed | absent := listed
    · obtain rfl | later := List.mem_cons.mp listed
      · exact Or.inr (at?_removeAt (List.concat_ne_nil _ _) json)
      · exact Or.inl later
    · exact Or.inr (at?_removeAt_none _ json absent)

theorem removals_outline (json : Value) (paths : List (List String)) {place : List String}
    (unnamed : "plug" ∉ place) :
    ((paths.foldl (fun json path => removeAt (path ++ ["plug"]) json) json).at? place).map
      outline = (json.at? place).map outline := by
  induction paths generalizing json with
  | nil => rfl
  | cons path rest ih =>
    rw [List.foldl_cons, ih, outline_removeAt path "plug" json unnamed]

theorem plugEntry_unmergeJson (target : ExportTarget) (json : Value) :
    plugEntry target (unmergeJson json) = none := by
  have cleared : ∀ place ∈ [["mcpServers"], ["context_servers"], ["servers"], ["amp.mcpServers"],
      ["mcp_servers"], ["mcp"], ["mcp", "servers"], ["tools", "mcpServers"]],
      (unmergeJson json).at? (place ++ ["plug"]) = none :=
    fun place listed => removals_at? json (Or.inl listed)
  cases target with
  | nanobot => exact cleared ["tools", "mcpServers"] (by decide)
  | vsCodeCopilot => exact cleared ["servers"] (by decide)
  | amp => exact cleared ["amp.mcpServers"] (by decide)
  | openClaw => exact cleared ["mcp", "servers"] (by decide)
  | museCode => exact cleared ["mcp_servers"] (by decide)
  | openCode | kilo => exact cleared ["mcp"] (by decide)
  | _ =>
    exact Option.or_eq_none_iff.mpr
      ⟨cleared ["mcpServers"] (by decide), cleared ["context_servers"] (by decide)⟩

/-! ### Links -/

/-- A client is linked as asked, with everything else as it was, exactly if the reader knows its
entry and finds no other one first. -/
theorem links_iff {existing snippet : Text} {members : Members}
    (exported : exportConfig serde options = some snippet)
    (before : readClientJson serde existing = some (.object members))
    (passable : Passable options.target.plugPath (.object members)) :
    (∃ merged, mergeJsonConfig serde existing snippet = some merged ∧
        LinkedAs serde options (.object members) snippet merged) ↔
      ReadBack options (.object members) := by
  obtain ⟨value, said, printed⟩ := Option.map_eq_some_iff.mp exported
  obtain ⟨entry, rfl, understood⟩ := exportValue_shape said
  have parsed : serde.fromStr snippet = some (nest entry options.target.plugPath) := by
    rw [← printed, serde.fromStr_toStringPretty]
  have merges : mergeJsonConfig serde existing snippet =
      some (serde.toStringPretty (putAt entry options.target.plugPath (.object members))) := by
    rw [mergeJsonConfig, before, parsed, ← mergeJson_nest options.target entry passable]
    rfl
  have reads : linkedClientConfigFromContent serde options.target
      (serde.toStringPretty (putAt entry options.target.plugPath (.object members))) =
        some options.linked ↔ ReadBack options (.object members) := by
    rw [linkedClientConfigFromContent, serde.fromStr_toStringPretty, Option.bind_some,
      plugEntry_putAt]
    exact bind_readEntry_iff understood
  constructor
  · rintro ⟨merged, done, linked⟩
    rw [merges, Option.some.injEq] at done
    rw [← done] at linked
    exact reads.mp linked.reads
  · intro back
    refine ⟨_, merges, reads.mpr back, ?_, ?_, ?_⟩
    · refine ⟨_, serde.fromStr_toStringPretty _, ?_⟩
      intro place outside beyond
      exact at?_putAt_apart entry (.object members) outside beyond
    · rw [mergeJsonConfig, readClientJson, serde.isBlank_toStringPretty, if_neg Bool.false_ne_true,
        serde.fromStr_toStringPretty, parsed, Option.bind_some, Option.map_some, mergeJson_again]
    · refine ⟨serde.toStringPretty (unmergeJson (putAt entry options.target.plugPath
        (.object members))), ?_, ?_, _, _, serde.fromStr_toStringPretty _,
        serde.fromStr_toStringPretty _, ?_⟩
      · rw [unmergeJsonConfig, readClientJson, serde.isBlank_toStringPretty,
          if_neg Bool.false_ne_true, serde.fromStr_toStringPretty, Option.map_some]
      · rw [linkedClientConfigFromContent, serde.fromStr_toStringPretty, Option.bind_some,
          plugEntry_unmergeJson, Option.bind_none]
      · intro place unnamed
        exact removals_outline _ _ unnamed

/-! ### Files that stand for their values -/

theorem value_read (value : Value) : id (some value) = some value := rfl

theorem value_not_blank (value : Value) : (some value).isNone = false := rfl

/-- A file is what it reads as, or blank. -/
def valueSerde : Serde (Option Value) where
  fromStr := id
  toStringPretty := some
  isBlank := Option.isNone
  fromStr_toStringPretty := value_read
  isBlank_toStringPretty := value_not_blank

def overHttp (target : ExportTarget) : ExportOptions where
  target := target
  transport := .http
  port := 3282
  httpUrl := some "http://localhost:3282/mcp"
  command := "plug"

theorem passable_empty (path : List String) : Passable path (.object []) := by
  intro place inner ahead short reached
  cases place with
  | nil =>
    rw [at?_nil] at reached
    cases reached
    exact ⟨[], rfl⟩
  | cons key rest =>
    rw [at?_empty (List.cons_ne_nil key rest)] at reached
    cases reached

theorem links_iff_claude_code : ∃ snippet, exportConfig valueSerde (overHttp .claudeCode) =
    some snippet ∧ ((∃ merged, mergeJsonConfig valueSerde none snippet = some merged ∧
        LinkedAs valueSerde (overHttp .claudeCode) (.object []) snippet merged) ↔
      ReadBack (overHttp .claudeCode) (.object [])) :=
  ⟨_, rfl, links_iff rfl rfl (passable_empty _)⟩

/-- The address that was written for Qwen Code is not read. -/
theorem qwen_address_unread : ∃ snippet merged,
    exportConfig valueSerde (overHttp .qwenCode) = some snippet ∧
      mergeJsonConfig valueSerde none snippet = some merged ∧
      linkedClientConfigFromContent valueSerde .qwenCode merged = none :=
  ⟨_, _, rfl, rfl, rfl⟩

end Plug.ClientLinks
