import Plug.AccessChanges

/-!
# The owner's blocks

The owner keeps a client from a server or a tool, or gives it a list of what it is allowed. A block
of a tool is written under the name the tool is listed by, and stored by its server and that
server's name for it. Starting a list of what is allowed puts on it what the client gets, and
ending it keeps the client from what was not on it.
-/

namespace Plug.Access

open Text ToolNaming

inductive ClientBlockKind where
  | server
  | tool
  | allowedServer
  | allowedTool
  | allowList
deriving DecidableEq

/-- The part of the configuration that blocks are in. A client has its settings once. -/
structure ClientConfig where
  servers : List (List Char)
  clients : List (List Char × ClientSettings)
  clientsDistinct : (clients.map Prod.fst).Nodup

def ClientSettings.unset : ClientSettings where
  name := none
  place := none
  blockedServers := []
  blockedTools := []
  onlyAllowed := false
  allowedServers := []
  allowedTools := []

def ClientSettings.isEmpty (settings : ClientSettings) : Bool :=
  settings.name.isNone && settings.place.isNone && settings.blockedServers.isEmpty &&
    settings.blockedTools.isEmpty && !settings.hasAllowList

def ClientConfig.settings (config : ClientConfig) (key : List Char) : ClientSettings :=
  (config.clients.lookup key).getD .unset

/-! ### Orders -/

/-- The order of pairs of strings. -/
def pairNotAfter (first second : List Char × List Char) : Bool :=
  decide (first.1 < second.1) || (first.1 == second.1 && notAfter first.2 second.2)

/-- Blocks by server and tool before rules over listed names. -/
def ToolBlock.notAfter : ToolBlock → ToolBlock → Bool
  | .of server tool, .of other otherTool => pairNotAfter (server, tool) (other, otherTool)
  | .of _ _, .named _ => true
  | .named _, .of _ _ => false
  | .named name, .named other => Access.notAfter name other

def sortStrings (names : List (List Char)) : List (List Char) :=
  names.insertionSort fun first second => notAfter first second

def sortBlocks (blocks : List ToolBlock) : List ToolBlock :=
  blocks.insertionSort fun first second => first.notAfter second

def sortAllowed (tools : List AllowedTool) : List AllowedTool :=
  tools.insertionSort fun first second =>
    pairNotAfter (first.server, first.tool) (second.server, second.tool)

/-! ### Blocks by server and tool -/

/-- The server and the server's own name behind a listed name. -/
def RouterSnapshot.toolBehind (snapshot : RouterSnapshot) (listed : List Char) : Option Route :=
  ((snapshot.routes.lookup listed).or
    (snapshot.routesLower.lookup (toAsciiLowercase listed))).filter fun route =>
      route.1 ≠ plugInternal

abbrev ToolBehind := List Char → Option Route

/-- The block of a plain name, by the tool that is listed under it. -/
def pinned (block : ToolBlock) (toolBehind : ToolBehind) : Option ToolBlock :=
  match block with
  | .of _ _ => none
  | .named name =>
    if '*' ∈ name then none
    else (toolBehind name).map fun (server, tool) => .of server tool

/-- The blocks of one client, by server and tool where these are known. -/
def ClientSettings.pin (settings : ClientSettings) (toolBehind : ToolBehind) : ClientSettings :=
  let blocks := settings.blockedTools.map fun block => (pinned block toolBehind).getD block
  let changed := settings.blockedTools.any fun block => (pinned block toolBehind).isSome
  { settings with blockedTools := if changed then sortBlocks blocks.dedup else blocks }

theorem map_second_keys {Value Other : Type} (change : Value → Other)
    (table : List (List Char × Value)) :
    (table.map fun item => (item.1, change item.2)).map Prod.fst = table.map Prod.fst := by
  rw [List.map_map]
  rfl

def ClientConfig.pinToolBlocks (config : ClientConfig) (toolBehind : ToolBehind) : ClientConfig :=
  { config with
    clients := config.clients.map fun item => (item.1, item.2.pin toolBehind)
    clientsDistinct := by
      rw [map_second_keys fun settings : ClientSettings => settings.pin toolBehind]
      exact config.clientsDistinct }

/-! ### One block -/

def blockServer (settings : ClientSettings) (target : List Char) (blocked : Bool) :
    ClientSettings :=
  let rest := settings.blockedServers.filter (· ≠ target)
  { settings with
    blockedServers := if blocked then sortStrings (rest ++ [target]) else rest }

/-- A tool is unblocked whichever way its block is written. -/
def blockTool (settings : ClientSettings) (target : List Char) (blocked : Bool)
    (toolBehind : ToolBehind) : ClientSettings :=
  let named := ToolBlock.named target
  let block := (pinned named toolBehind).getD named
  let rest := settings.blockedTools.filter fun existing => existing ≠ block ∧ existing ≠ named
  { settings with blockedTools := if blocked then sortBlocks (rest ++ [block]) else rest }

def allowServer (settings : ClientSettings) (target : List Char) (blocked : Bool) :
    ClientSettings :=
  let rest := settings.allowedServers.filter (· ≠ target)
  if blocked then
    { settings with
      allowedServers := sortStrings (rest ++ [target])
      blockedServers := settings.blockedServers.filter (· ≠ target) }
  else
    { settings with
      allowedServers := rest
      allowedTools := settings.allowedTools.filter fun allowed => allowed.server ≠ target
      onlyAllowed := settings.hasAllowList }

/-- The list of what is allowed is started with the servers the client gets, or ended by keeping
it from those that were not on it. -/
def allowList (servers : List (List Char)) (settings : ClientSettings) (blocked : Bool) :
    ClientSettings :=
  if blocked then
    if settings.hasAllowList then { settings with onlyAllowed := true }
    else
      { settings with
        allowedServers := sortStrings (servers.filter fun server =>
          !settings.blockedServers.contains server)
        blockedServers := []
        onlyAllowed := true }
  else if settings.hasAllowList then
    { settings with
      allowedServers := []
      allowedTools := []
      onlyAllowed := false
      blockedServers := sortNames (settings.blockedServers ++ servers.filter fun server =>
        !settings.allowedServers.contains server) }
  else settings

/-- A tool is put on the list once it is known, and taken off by either of its names. -/
def allowTool (settings : ClientSettings) (target : List Char) (blocked : Bool)
    (toolBehind : ToolBehind) : Except (List Char) ClientSettings :=
  let found := (toolBehind target).or ((splitOnce ['/'] target).filter fun _ => !blocked)
  match found with
  | none => .error ("Plug lists no tool called `".toList ++ target ++
      "`; run `plug tools -v` to see their names".toList)
  | some (server, tool) =>
    let allowed : AllowedTool := ⟨server, tool⟩
    let rest := settings.allowedTools.filter (· ≠ allowed)
    .ok (if blocked then { settings with allowedTools := sortAllowed (rest ++ [allowed]) }
      else { settings with allowedTools := rest, onlyAllowed := settings.hasAllowList })

def changeSettings (servers : List (List Char)) (settings : ClientSettings)
    (kind : ClientBlockKind) (target : List Char) (blocked : Bool) (toolBehind : ToolBehind) :
    Except (List Char) ClientSettings :=
  match kind with
  | .server => .ok (blockServer settings target blocked)
  | .tool => .ok (blockTool settings target blocked toolBehind)
  | .allowedServer => .ok (allowServer settings target blocked)
  | .allowList => .ok (allowList servers settings blocked)
  | .allowedTool => allowTool settings target blocked toolBehind

/-- The settings of a client in place of what it had; empty ones are not kept. -/
def ClientConfig.put (config : ClientConfig) (key : List Char) (settings : ClientSettings) :
    ClientConfig :=
  let others := config.clients.filter fun item => item.1 ≠ key
  have distinct : (others.map Prod.fst).Nodup :=
    config.clientsDistinct.sublist (List.filter_sublist.map _)
  if settings.isEmpty then
    { config with clients := others, clientsDistinct := distinct }
  else
    { config with
      clients := (key, settings) :: others
      clientsDistinct := by
        rw [List.map_cons, List.nodup_cons]
        refine ⟨?_, distinct⟩
        intro member
        obtain ⟨item, kept, same⟩ := List.mem_map.mp member
        exact absurd same (of_decide_eq_true (List.mem_filter.mp kept).2) }

def setClientBlock (config : ClientConfig) (key : List Char) (kind : ClientBlockKind)
    (target : List Char) (blocked : Bool) (toolBehind : ToolBehind) :
    Except (List Char) ClientConfig :=
  let key := trim key
  let target := trim target
  if key = [] then .error "client key is required".toList
  else if target = [] ∨ target.any isControl then
    .error "name the server or tool to block".toList
  else if blocked ∧ (kind = .server ∨ kind = .allowedServer) ∧ !config.servers.contains target then
    .error ("no server is called `".toList ++ target ++
      "`; run `plug servers` to see their names".toList)
  else
    (changeSettings config.servers (config.settings key) kind target blocked toolBehind).map
      (config.put key)

end Plug.Access
