import Plug.ToolNaming

/-!
# What a client is kept from

The router accepts a tool under the name it is listed as, under that name in any
ASCII case, and under the server's own name for it where only one listed tool has
it. A client's rules are of two kinds: rules about a route (its server, or the
server and the server's own tool name), and rules about the names Plug lists
tools under. The second kind is checked against the name in the request and the
spellings derived from it, so the answer can depend on the name that was used.
-/

namespace Plug.Access

open Text ToolNaming

/-- The server name under which the router lists its own tools. -/
def plugInternal : List Char :=
  "__plug_internal__".toList

/-- A server and its own name for a tool. -/
abbrev Route := List Char × List Char

/-- The routes of the merged catalog and their case-folded index. Listed names
are the keys of a map, so no two routes share one. -/
structure RouterSnapshot where
  routes : List (List Char × Route)
  routesLower : List (List Char × Route)
  routesDistinct : (routes.map Prod.fst).Nodup

/-- The snapshot with its index over `routes` filled in. Of two names that fold
alike, the one visited last is kept; the visiting order is that of the list. -/
def RouterSnapshot.withIndexes (snapshot : RouterSnapshot) : RouterSnapshot :=
  { snapshot with
    routesLower := (snapshot.routes.map fun (name, route) =>
      (toAsciiLowercase name, route)).reverse }

/-- The route whose server's own name is `toolName`, if there is exactly one. -/
def RouterSnapshot.routeByUpstreamName (snapshot : RouterSnapshot) (toolName : List Char) :
    Option Route :=
  match (snapshot.routes.map Prod.snd).filter fun route => route.2 = toolName with
  | [route] => some route
  | _ => none

def RouterSnapshot.resolveRoute (snapshot : RouterSnapshot) (toolName : List Char) :
    Option Route :=
  ((snapshot.routes.lookup toolName).or
    (snapshot.routesLower.lookup (toAsciiLowercase toolName))).or
    (snapshot.routeByUpstreamName toolName)

/-- What one client is kept from, in the form the request path reads. Patterns
and allowed tool names are held in lower case. -/
structure ClientAccess where
  blockedServers : List (List Char)
  blockedTools : List (List Char × List Char)
  namedTools : List (List Char)
  onlyAllowed : Bool
  allowedServers : List (List Char)
  allowedTools : List (List Char × List Char)

/-- Whether the client gets nothing of the server. -/
def ClientAccess.keepsFromServer (access : ClientAccess) (server : List Char) : Bool :=
  access.blockedServers.contains server ||
    (access.onlyAllowed && !access.allowedServers.contains server &&
      !access.allowedTools.any fun allowed => allowed.1 == server)

/-- The spellings a rule over listed names is checked against: the name itself,
its names under the other naming of the server, and each of those with the
server's own name for the tool in place of a renamed one. -/
def spellings (server : List Char) (tool : Option (List Char)) (listed delimiter : List Char) :
    List (List Char) :=
  let names := listed :: otherNames listed server delimiter
  match tool with
  | none => names
  | some tool => names ++ names.filterMap fun name =>
      (splitOnce delimiter name).map fun (shared, _) => shared ++ delimiter ++ tool

/-- Whether the client is kept from `tool` on `server`, which is listed as
`listed`. -/
def ClientAccess.keepsFrom (access : ClientAccess) (server : List Char)
    (tool : Option (List Char)) (listed delimiter : List Char) : Bool :=
  if access.keepsFromServer server then true
  else if access.onlyAllowed && !access.allowedServers.contains server &&
      !(tool.any fun tool =>
        access.allowedTools.any fun allowed =>
          allowed.1 == server && allowed.2 == toAsciiLowercase tool) then true
  else
    let byServer := access.blockedTools.filter fun blocked => blocked.1 == server
    let blocked := match tool with
      | some tool => byServer.any fun blocked => isDisabledTool [blocked.2] tool
      | none => !byServer.isEmpty
    if blocked then true
    else if access.namedTools.isEmpty then false
    else (spellings server tool listed delimiter).any (isDisabledTool access.namedTools)

/-- The part of the router a permission check reads. -/
structure ToolRouter where
  cache : RouterSnapshot
  clientAccess : List (List Char × ClientAccess)
  prefixDelimiter : List Char

/-- Whether the client behind `clientKey` may see and call `toolName`. A request
without a key is the router's own. -/
def ToolRouter.clientMayUseTool (router : ToolRouter) (clientKey : Option (List Char))
    (toolName : List Char) : Bool :=
  match clientKey with
  | none => true
  | some clientKey =>
    match router.clientAccess.lookup clientKey with
    | none => true
    | some access =>
      if isDisabledTool access.namedTools toolName then false
      else
        match router.cache.resolveRoute toolName with
        | none => true
        | some (serverId, ownName) =>
          if serverId = plugInternal then true
          else !access.keepsFrom serverId (some ownName) toolName router.prefixDelimiter

/-- Whether a rule about the route itself keeps the client from it. These rules
do not read the name in the request. -/
def ClientAccess.keepsFromRoute (access : ClientAccess) (route : Route) : Bool :=
  access.keepsFromServer route.1 ||
    (access.onlyAllowed && !access.allowedServers.contains route.1 &&
      !access.allowedTools.any fun allowed =>
        allowed.1 == route.1 && allowed.2 == toAsciiLowercase route.2) ||
    (access.blockedTools.filter fun blocked => blocked.1 == route.1).any
      fun blocked => isDisabledTool [blocked.2] route.2

/-- Whether a rule over listed names reaches a name of the route. The router's
own tools have no other spelling. -/
def ClientAccess.namesReach (access : ClientAccess) (route : Route)
    (toolName delimiter : List Char) : Bool :=
  if route.1 = plugInternal then isDisabledTool access.namedTools toolName
  else (spellings route.1 (some route.2) toolName delimiter).any
    (isDisabledTool access.namedTools)

/-- A tool is kept from a client by its route or by the spellings of its name. -/
theorem keepsFrom_some (access : ClientAccess) (server tool listed delimiter : List Char) :
    access.keepsFrom server (some tool) listed delimiter =
      (access.keepsFromRoute (server, tool) ||
        (spellings server (some tool) listed delimiter).any
          (isDisabledTool access.namedTools)) := by
  have unruled : access.namedTools.isEmpty = true →
      (spellings server (some tool) listed delimiter).any
        (isDisabledTool access.namedTools) = false := by
    intro empty
    simp [isDisabledTool, empty]
  unfold ClientAccess.keepsFrom ClientAccess.keepsFromRoute
  by_cases byServer : access.keepsFromServer server = true
  · simp [byServer]
  · cases empty : access.namedTools.isEmpty with
    | true => simp [byServer, unruled empty]
    | false => simp [byServer]; grind

/-- The answer for a routed name, given the rules of the client: no rule reaches
the name, and none about the route keeps the client from it. -/
theorem clientMayUseTool_routed (router : ToolRouter) (clientKey toolName : List Char)
    (access : ClientAccess) (route : Route)
    (ruled : router.clientAccess.lookup clientKey = some access)
    (routed : router.cache.resolveRoute toolName = some route) :
    router.clientMayUseTool (some clientKey) toolName =
      !(access.namesReach route toolName router.prefixDelimiter ||
        (route.1 != plugInternal && access.keepsFromRoute route)) := by
  obtain ⟨server, tool⟩ := route
  unfold ToolRouter.clientMayUseTool ClientAccess.namesReach
  simp only [ruled, routed]
  by_cases own : server = plugInternal
  · simp [own]
  · have first : isDisabledTool access.namedTools toolName = true →
        (spellings server (some tool) toolName router.prefixDelimiter).any
          (isDisabledTool access.namedTools) = true := by
      intro disabled
      refine List.any_eq_true.mpr ⟨toolName, ?_, disabled⟩
      simp [spellings]
    have other : (server != plugInternal) = true := by simpa using own
    rw [keepsFrom_some]
    by_cases disabled : isDisabledTool access.namedTools toolName = true
    · simp [disabled, first disabled, own]
    · simp [disabled, own, other, Bool.or_comm]

/-- The two names get one answer whatever the client's rules are: the client has
none, a rule about the route itself decides, or its rules over listed names reach
both names or neither. -/
def ToolRouter.spellingIrrelevant (router : ToolRouter) (clientKey : Option (List Char))
    (route : Route) (first second : List Char) : Bool :=
  match clientKey.bind fun clientKey => router.clientAccess.lookup clientKey with
  | none => true
  | some access =>
    (route.1 != plugInternal && access.keepsFromRoute route) ||
      access.namesReach route first router.prefixDelimiter ==
        access.namesReach route second router.prefixDelimiter

/-- Two names of one route get the same answer exactly if no rule over listed
names tells them apart where no rule about the route decides. -/
theorem clientMayUseTool_spelling (router : ToolRouter) (clientKey : Option (List Char))
    (first second : List Char) (route : Route)
    (firstRouted : router.cache.resolveRoute first = some route)
    (secondRouted : router.cache.resolveRoute second = some route) :
    router.clientMayUseTool clientKey first = router.clientMayUseTool clientKey second ↔
      router.spellingIrrelevant clientKey route first second = true := by
  cases clientKey with
  | none => simp [ToolRouter.clientMayUseTool, ToolRouter.spellingIrrelevant]
  | some clientKey =>
    cases ruled : router.clientAccess.lookup clientKey with
    | none => simp [ToolRouter.clientMayUseTool, ToolRouter.spellingIrrelevant, ruled]
    | some access =>
      rw [clientMayUseTool_routed router clientKey first access route ruled firstRouted,
        clientMayUseTool_routed router clientKey second access route ruled secondRouted]
      simp only [ToolRouter.spellingIrrelevant, Option.bind_some, ruled]
      generalize access.namesReach route first router.prefixDelimiter = reachesFirst
      generalize access.namesReach route second router.prefixDelimiter = reachesSecond
      generalize (route.1 != plugInternal && access.keepsFromRoute route) = kept
      revert reachesFirst reachesSecond kept
      decide

/-- One server, one tool, and a client for which that tool is switched off under
the name it is listed as. -/
def blockedSend : ToolRouter where
  cache := RouterSnapshot.withIndexes
    { routes := [("Slack__send_message".toList, "slack".toList, "send_message".toList)]
      routesLower := []
      routesDistinct := by simp }
  clientAccess := [("client".toList,
    { blockedServers := [], blockedTools := [], namedTools := ["slack__send_message".toList]
      onlyAllowed := false, allowedServers := [], allowedTools := [] })]
  prefixDelimiter := "__".toList

/-- Another ASCII case of the listed name gets the same answer there. -/
theorem clientMayUseTool_spelling_folded :
    blockedSend.clientMayUseTool (some "client".toList) "Slack__send_message".toList =
      blockedSend.clientMayUseTool (some "client".toList) "SLACK__SEND_MESSAGE".toList :=
  (clientMayUseTool_spelling blockedSend (some "client".toList) "Slack__send_message".toList
    "SLACK__SEND_MESSAGE".toList ("slack".toList, "send_message".toList) (by decide +kernel)
    (by decide +kernel)).mpr (by decide +kernel)

/-- The server's own name reaches the tool and escapes the rule. -/
theorem own_name_escapes_named_rule :
    blockedSend.cache.resolveRoute "Slack__send_message".toList =
        blockedSend.cache.resolveRoute "send_message".toList ∧
      blockedSend.cache.resolveRoute "send_message".toList =
        some ("slack".toList, "send_message".toList) ∧
      blockedSend.clientMayUseTool (some "client".toList) "Slack__send_message".toList = false ∧
      blockedSend.clientMayUseTool (some "client".toList) "send_message".toList = true := by
  decide +kernel

end Plug.Access
