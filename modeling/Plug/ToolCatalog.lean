import Mathlib.Data.List.Dedup
import Mathlib.Data.List.Sort
import Plug.ClientAccess

/-!
# The catalog of tools

A refresh gives every tool of every connected server a wire name. A tool is renamed as the owner
says, brought into snake case, put under a group or under its server, and shortened by a word that
the group already says. Two servers that put a tool of one name under one group get prefixes of
their own, with a number where these clash. A name that is not unique after shortening is the
full one again; of two tools that still have one name the second is left out.

Which characters are letters of which case outside ASCII is left open (`Casing`), as are the
descriptors of the tools.
-/

namespace Plug.Catalog

open Text ToolNaming Access

/-- The character classes of the standard library. -/
structure Casing where
  isUppercase : Char → Bool
  isLowercase : Char → Bool
  toUppercase : Char → List Char

variable (casing : Casing)

/-! ### Snake case -/

/-- A new word starts at a capital with these neighbours. -/
def startsWord (previous : Option Char) (rest : List Char) : Bool :=
  match previous with
  | none => false
  | some character =>
    casing.isLowercase character || character.isDigit ||
      (casing.isUppercase character && rest.head?.any casing.isLowercase)

/-- Hyphens and dots as underscores, and words in lower case with underscores between. -/
def separateWords : Option Char → List Char → List Char
  | _, [] => []
  | previous, character :: rest =>
    if character = '-' ∨ character = '.' then '_' :: separateWords (some character) rest
    else if casing.isUppercase character then
      (if startsWord casing previous rest then ['_'] else []) ++
        character.toLower :: separateWords (some character) rest
    else character :: separateWords (some character) rest

/-- One underscore for several, and none in front; `previous` is whether the last character was
one, or there was none. -/
def collapse : Bool → List Char → List Char
  | _, [] => []
  | previous, character :: rest =>
    if character = '_' then
      if previous then collapse true rest else '_' :: collapse true rest
    else character :: collapse false rest

def sanitizeToolName (name : List Char) : List Char :=
  let collapsed := collapse true (separateWords casing none name)
  if collapsed.getLast? = some '_' then collapsed.dropLast else collapsed

/-! ### Groups -/

structure ToolGroupRule where
  wirePrefix : List Char
  contains : List (List Char)
  strip : List (List Char)
deriving DecidableEq

def classifyWithRules (toolName : List Char) (rules : List ToolGroupRule) :
    Option ToolGroupRule :=
  rules.find? fun rule => rule.contains.any fun keyword => Text.contains keyword toolName

/-- The words without the first run of others among them. -/
def removeRun (run : List (List Char)) : List (List Char) → Option (List (List Char))
  | [] => if run = [] then some [] else none
  | word :: rest =>
    if run.isPrefixOf (word :: rest) then some ((word :: rest).drop run.length)
    else (removeRun run rest).map (word :: ·)

def splitWords (text : List Char) : List (List Char) :=
  (text.splitOn '_').filter (· ≠ [])

/-- A keyword is taken out as whole words, unless nothing would be left. -/
def stripKeyword (toolName keyword : List Char) : List Char :=
  if toolName = keyword then toolName
  else
    match removeRun (splitWords keyword) (splitWords toolName) with
    | none => toolName
    | some remaining =>
      let result := List.intercalate ['_'] remaining
      if result = [] then toolName else result

/-- The first keyword that takes something out. -/
def stripKeywords (toolName : List Char) : List (List Char) → List Char
  | [] => toolName
  | keyword :: rest =>
    let stripped := stripKeyword toolName keyword
    if stripped ≠ toolName then stripped else stripKeywords toolName rest

def group (wirePrefix : String) (contains strip : List String) : ToolGroupRule :=
  ⟨wirePrefix.toList, contains.map String.toList, strip.map String.toList⟩

def defaultWorkspaceRules : List ToolGroupRule :=
  [group "Gmail" ["gmail"] ["gmail"],
    group "GoogleDrive" ["drive"] ["drive"],
    group "GoogleSheets" ["spreadsheet", "sheet", "conditional_formatting"]
      ["spreadsheet", "sheet"],
    group "GoogleSlides" ["presentation", "page_thumbnail", "get_page"] ["presentation"],
    group "GoogleDocs" ["_doc", "doc_", "document", "paragraph", "table_with_data",
      "table_structure", "find_and_replace"] ["doc", "document"],
    group "GoogleCalendar" ["event", "calendar", "freebusy"] ["calendar"],
    group "GoogleContacts" ["contact"] ["contact", "contacts"],
    group "GoogleTasks" ["task"] ["task", "tasks"],
    group "GoogleChat" ["spaces", "reaction", "chat_", "send_message", "get_messages",
      "search_messages"] ["chat"],
    group "GoogleForms" ["form"] ["form"],
    group "GoogleAppsScript" ["script", "deployment", "version", "trigger_code",
      "publish_settings"] ["script"],
    group "GoogleAuth" ["google_auth"] ["google_auth"],
    group "GoogleSearch" ["search_engine", "search_custom"] []]

/-- The rules for a server without rules of its own. -/
def builtinGroupRules (serverName : List Char) (reportedName : Option (List Char)) :
    Option (List ToolGroupRule) :=
  if serverName = "workspace".toList ∨ reportedName = some "google_workspace".toList then
    some defaultWorkspaceRules
  else none

/-! ### Prefixes -/

/-- The prefix of a server whose tools are not grouped. -/
def serverPrefix (serverName : List Char) : List Char :=
  if toAsciiLowercase serverName = "github".toList then "GitHub".toList
  else if toAsciiLowercase serverName = "imessage".toList then "IMessage".toList
  else
    match serverName with
    | [] => []
    | first :: rest => casing.toUppercase first ++ rest

/-- A tool of a server, under a prefix. -/
structure Claim where
  serverName : List Char
  wirePrefix : List Char
  name : List Char
deriving DecidableEq

/-- The prefixes under which two servers have a tool of the same name. -/
def sharedPrefixes (claims : List Claim) : List (List Char) :=
  (claims.filter fun claim => claims.any fun other =>
    decide (other.wirePrefix = claim.wirePrefix ∧ other.name = claim.name ∧
      other.serverName ≠ claim.serverName)).map Claim.wirePrefix

def numbered (unnumbered : List Char) (number : Nat) : List Char :=
  unnumbered ++ Nat.toDigits 10 number

/-- The first number, from `start` on, whose name is not used. -/
def firstFree (used : List (List Char)) (unnumbered : List Char) : Nat → Nat → Option Nat
  | 0, _ => none
  | fuel + 1, start =>
    if numbered unnumbered start ∈ used then firstFree used unnumbered fuel (start + 1)
    else some start

/-- A prefix that is not taken, and when numbered not that of another server. There is always a
free number among as many as there are names, and one more. -/
def qualify (taken unnumbereds : List (List Char)) (unnumbered : List Char) : List Char :=
  if unnumbered ∈ taken then
    let used := taken ++ unnumbereds
    match firstFree used unnumbered (used.length + 1) 2 with
    | some number => numbered unnumbered number
    | none => unnumbered
  else unnumbered

/-- The order of a `BTreeSet` of pairs of strings. -/
def before (first second : List Char × List Char) : Bool :=
  decide (first.1 < second.1) || (first.1 == second.1 && !decide (second.2 < first.2))

def assign (unnumbereds : List (List Char)) :
    List (List Char) → List (List Char × List Char) →
    List ((List Char × List Char) × List Char)
  | _, [] => []
  | taken, (wirePrefix, serverName) :: rest =>
    let qualified := qualify taken unnumbereds (prefixForServer wirePrefix serverName)
    ((wirePrefix, serverName), qualified) :: assign unnumbereds (qualified :: taken) rest

/-- The prefix each server gets for a prefix it shares, of pairs of both. -/
def prefixesForServers (claims : List (List Char × List Char)) (inUse : List (List Char)) :
    List ((List Char × List Char) × List Char) :=
  let claims := claims.dedup.insertionSort fun first second => before first second
  let unnumbereds := claims.map fun (wirePrefix, serverName) =>
    prefixForServer wirePrefix serverName
  assign unnumbereds inUse claims

/-! ### The passes -/

structure RouterConfig where
  enablePrefix : Bool
  prefixDelimiter : List Char
  disabledTools : List (List Char)
  priorityTools : List (List Char)
  toolSearchThreshold : Nat
deriving DecidableEq

structure UpstreamServer where
  toolRenames : List (List Char × List Char)
  toolGroups : List ToolGroupRule
deriving DecidableEq

/-- What the server manager knows: the connected servers, and the names they report. -/
structure ServerManager where
  getUpstream : List Char → Option UpstreamServer
  reportedName : List Char → Option (List Char)

variable {Details : Type}

structure Tool (Details : Type) where
  name : List Char
  details : Details
deriving DecidableEq

structure Classified (Details : Type) where
  serverName : List Char
  tool : Tool Details
  wirePrefix : List Char
  strippedName : List Char
  fullName : List Char
deriving DecidableEq

def toolGroupRules (manager : ServerManager) (serverName : List Char) :
    Option (List ToolGroupRule) :=
  (manager.getUpstream serverName).bind fun upstream =>
    if upstream.toolGroups ≠ [] then some upstream.toolGroups
    else builtinGroupRules serverName (manager.reportedName serverName)

def isSeparator (character : Char) : Bool := character = '_' ∨ character = '-'

/-- A name without the server's in front of it. -/
def dropServerFront (serverName name : List Char) : List Char :=
  if serverName.isPrefixOf name ∧ serverName.length < name.length then
    match name.drop serverName.length with
    | first :: rest => if isSeparator first then rest else name
    | [] => name
  else name

/-- A name without the server's at its end. -/
def dropServerEnd (serverName name : List Char) : List Char :=
  if serverName.isSuffixOf name ∧ serverName.length < name.length then
    let rest := name.take (name.length - serverName.length)
    if rest.getLast?.any isSeparator then rest.dropLast else name
  else name

/-- The first pass, for one tool. -/
def classify (manager : ServerManager) (serverName : List Char) (tool : Tool Details) :
    Classified Details :=
  let exposed := ((manager.getUpstream serverName).bind fun upstream =>
    upstream.toolRenames.lookup tool.name).getD tool.name
  let sanitized := sanitizeToolName casing exposed
  match toolGroupRules manager serverName with
  | some rules =>
    match classifyWithRules sanitized rules with
    | some rule => ⟨serverName, tool, rule.wirePrefix, stripKeywords sanitized rule.strip, sanitized⟩
    | none => ⟨serverName, tool, serverPrefix casing serverName, sanitized, sanitized⟩
  | none =>
    let name := dropServerEnd serverName (dropServerFront serverName sanitized)
    ⟨serverName, tool, serverPrefix casing serverName, name, name⟩

def Classified.claims (entry : Classified Details) : List Claim :=
  [⟨entry.serverName, entry.wirePrefix, entry.strippedName⟩,
    ⟨entry.serverName, entry.wirePrefix, entry.fullName⟩]

/-- Servers that share a prefix get one of their own. -/
def separateServers (classified : List (Classified Details)) : List (Classified Details) :=
  let shared := sharedPrefixes (classified.flatMap Classified.claims)
  let qualified := prefixesForServers
    ((classified.filter fun entry => entry.wirePrefix ∈ shared).map fun entry =>
      (entry.wirePrefix, entry.serverName))
    ((classified.filter fun entry => entry.wirePrefix ∉ shared).map Classified.wirePrefix)
  classified.map fun entry =>
    match qualified.lookup (entry.wirePrefix, entry.serverName) with
    | some wirePrefix => { entry with wirePrefix := wirePrefix }
    | none => entry

def sharedIn (classified : List (Classified Details)) : List (List Char) :=
  sharedPrefixes (classified.flatMap Classified.claims)

/-- The prefixes that the servers get for those they share. -/
def ownPrefixes (classified : List (Classified Details)) :
    List ((List Char × List Char) × List Char) :=
  prefixesForServers
    ((classified.filter fun entry => entry.wirePrefix ∈ sharedIn classified).map fun entry =>
      (entry.wirePrefix, entry.serverName))
    ((classified.filter fun entry => entry.wirePrefix ∉ sharedIn classified).map
      Classified.wirePrefix)

def Classified.withOwnPrefix (classified : List (Classified Details))
    (entry : Classified Details) : Classified Details :=
  match (ownPrefixes classified).lookup (entry.wirePrefix, entry.serverName) with
  | some wirePrefix => { entry with wirePrefix := wirePrefix }
  | none => entry

theorem separateServers_eq (classified : List (Classified Details)) :
    separateServers classified = classified.map (Classified.withOwnPrefix classified) :=
  rfl

def buildWireName (wirePrefix toolName delimiter : List Char) : List Char :=
  wirePrefix ++ delimiter ++ toolName

def Classified.strippedWire (config : RouterConfig) (entry : Classified Details) : List Char :=
  if config.enablePrefix then
    buildWireName entry.wirePrefix entry.strippedName config.prefixDelimiter
  else entry.strippedName

/-- The name of a tool whose shortened one is not unique. -/
def Classified.fullWire (config : RouterConfig) (entry : Classified Details) : List Char :=
  buildWireName entry.wirePrefix entry.fullName config.prefixDelimiter

/-- The shortened wire name is that of one tool. -/
def useStripped (config : RouterConfig) (classified : List (Classified Details))
    (entry : Classified Details) : Bool :=
  classified.countP (fun other => other.strippedWire config = entry.strippedWire config) = 1

def prefixedName (config : RouterConfig) (classified : List (Classified Details))
    (entry : Classified Details) : List Char :=
  if useStripped config classified entry then entry.strippedWire config
  else entry.fullWire config

/-- The tool is switched off under one of its names. -/
def switchedOff (config : RouterConfig) (wireName serverName : List Char) : Bool :=
  !config.disabledTools.isEmpty &&
    (isDisabledTool config.disabledTools wireName ||
      (otherNames wireName serverName config.prefixDelimiter).any fun name =>
        isDisabledTool config.disabledTools name)

/-- A tool that is listed, and where it routes. -/
structure Listed (Details : Type) where
  tool : Tool Details
  route : Route
deriving DecidableEq

/-- The third pass: of two tools with one name the second is left out. -/
def listTools (config : RouterConfig) (classified : List (Classified Details)) :
    List (Classified Details) → List (Listed Details) → List (Listed Details)
  | [], listed => listed
  | entry :: rest, listed =>
    let name := prefixedName config classified entry
    if switchedOff config name entry.serverName ||
        listed.any (fun other => other.tool.name = name) then
      listTools config classified rest listed
    else
      listTools config classified rest
        (listed ++ [⟨⟨name, entry.tool.details⟩, (entry.serverName, entry.tool.name)⟩])

/-- The tools of all servers with the names and routes that the passes give them. -/
def namingPasses (config : RouterConfig) (manager : ServerManager)
    (upstreamTools : List (List Char × Tool Details)) : List (Listed Details) :=
  let classified := separateServers (upstreamTools.map fun (serverName, tool) =>
    classify casing manager serverName tool)
  listTools config classified classified []

end Plug.Catalog
