import Plug.AccessChanges

/-!
# Rules and tools that are not listed

A watch of a tool goes on while the tool is renamed or not listed at all, and a result of it is
kept. The watch is asked for under the name the tool has now, and a result under the name it had.
Of a tool that is not listed there is no name to ask for, so only the rules about its server and
about the server's own name for it are left.
-/

namespace Plug.Access

open Text ToolNaming

def ClientAccess.blocksAnyTool (access : ClientAccess) : Bool :=
  !access.blockedTools.isEmpty || !access.namedTools.isEmpty || access.onlyAllowed

/-- Whether the client may read a result that `tool` on `server` gave when it was listed as
`listed`. -/
def ToolRouter.clientMayReadResultOf (router : ToolRouter) (clientKey server tool : Option (List Char))
    (listed : List Char) : Bool :=
  match clientKey with
  | none => true
  | some clientKey =>
    match router.clientAccess.lookup clientKey with
    | none => true
    | some access =>
      if !access.blocksAnyTool && !access.keepsFromAServer then true
      else
        match server with
        | none => false
        | some server => !access.keepsFrom server tool listed router.prefixDelimiter

def ToolRouter.clientMayUseServer (router : ToolRouter) (clientKey : Option (List Char))
    (server : List Char) : Bool :=
  match clientKey with
  | none => true
  | some clientKey =>
    (router.clientAccess.lookup clientKey).all fun access => !access.keepsFromServer server

/-- A name that the tool is listed under. -/
def ToolRouter.watchedTool (router : ToolRouter) (server tool : List Char) : Option (List Char) :=
  (router.cache.routes.find? fun item => item.2.1 == server && item.2.2 == tool).map Prod.fst

def ToolRouter.clientMayWatch (router : ToolRouter) (clientKey : Option (List Char))
    (server tool : List Char) : Bool :=
  router.clientMayUseServer clientKey server &&
    match router.watchedTool server tool with
    | some name => router.clientMayUseTool clientKey name
    | none => router.clientMayReadResultOf clientKey (some server) (some tool) []

/-- A rule about the server or about the server's own name for the tool keeps the client from it,
or one over listed names matches where there is no name. -/
def ToolRouter.ruledUnlisted (router : ToolRouter) (clientKey : Option (List Char))
    (route : Route) : Bool :=
  (clientKey.bind fun clientKey => router.clientAccess.lookup clientKey).any fun access =>
    access.keepsFromRoute route ||
      (spellings route.1 (some route.2) [] router.prefixDelimiter).any
        (isDisabledTool access.namedTools)

/-! ### Results -/

/-- Without rules nothing is kept from the client. -/
theorem keepsFrom_unruled {access : ClientAccess} (free : access.blocksAnyTool = false)
    (reaching : access.keepsFromAServer = false) (server : List Char) (tool : Option (List Char))
    (listed delimiter : List Char) : access.keepsFrom server tool listed delimiter = false := by
  simp only [ClientAccess.blocksAnyTool, ClientAccess.keepsFromAServer, Bool.or_eq_false_iff,
    Bool.not_eq_false', List.isEmpty_iff] at free reaching
  obtain ⟨⟨blocked, named⟩, only⟩ := free
  cases tool with
  | none =>
    simp [ClientAccess.keepsFrom, ClientAccess.keepsFromServer, blocked, named, only, reaching.1]
  | some tool =>
    simp [ClientAccess.keepsFrom, ClientAccess.keepsFromServer, blocked, named, only, reaching.1]

section Router

variable {router : ToolRouter} {key server : List Char} {access : ClientAccess}

theorem clientMayReadResultOf_ruled (ruled : router.clientAccess.lookup key = some access)
    (server : List Char) (tool : Option (List Char)) (listed : List Char) :
    router.clientMayReadResultOf (some key) (some server) tool listed =
      !access.keepsFrom server tool listed router.prefixDelimiter := by
  simp only [ToolRouter.clientMayReadResultOf, ruled]
  split
  · rename_i unruled
    rw [Bool.and_eq_true, Bool.not_eq_true', Bool.not_eq_true'] at unruled
    rw [keepsFrom_unruled unruled.1 unruled.2]
    rfl
  · rfl

theorem clientMayUseServer_ruled (ruled : router.clientAccess.lookup key = some access)
    (server : List Char) :
    router.clientMayUseServer (some key) server = !access.keepsFromServer server := by
  simp [ToolRouter.clientMayUseServer, ruled]

theorem resolveRoute_exact {cache : RouterSnapshot} {name : List Char} {route : Route}
    (listed : (name, route) ∈ cache.routes) : cache.resolveRoute name = some route := by
  simp [RouterSnapshot.resolveRoute, Tables.lookup_of_mem cache.routesDistinct listed]

/-- A client that may not use a tool under a name may not read what it gave under that name. -/
theorem keepsFrom_of_refused (ruled : router.clientAccess.lookup key = some access)
    {route : Route} {listed : List Char} (lists : (listed, route) ∈ router.cache.routes)
    (refused : router.clientMayUseTool (some key) listed = false) :
    access.keepsFrom route.1 (some route.2) listed router.prefixDelimiter = true := by
  rw [clientMayUseTool_routed router key listed access route ruled (resolveRoute_exact lists),
    Bool.not_eq_false', Bool.or_eq_true] at refused
  rw [keepsFrom_some, Bool.or_eq_true]
  cases refused with
  | inl reached =>
    right
    rw [ClientAccess.namesReach] at reached
    split at reached
    · exact List.any_eq_true.mpr ⟨listed, by simp [spellings], reached⟩
    · exact reached
  | inr kept => exact Or.inl (Bool.and_eq_true_iff.mp kept).2

theorem watchedTool_none {tool : List Char} (unlisted : router.watchedTool server tool = none)
    (name : List Char) : (name, (server, tool)) ∉ router.cache.routes := by
  intro listed
  rw [ToolRouter.watchedTool, Option.map_eq_none_iff, List.find?_eq_none] at unlisted
  exact unlisted _ listed (by simp)

theorem watchedTool_some {tool name : List Char}
    (watched : router.watchedTool server tool = some name) :
    (name, (server, tool)) ∈ router.cache.routes := by
  obtain ⟨⟨found, route⟩, present, rfl⟩ := Option.map_eq_some_iff.mp watched
  have same := List.find?_some present
  rw [Bool.and_eq_true, beq_iff_eq, beq_iff_eq] at same
  obtain rfl : route = (server, tool) := Prod.ext same.1 same.2
  exact List.mem_of_find?_eq_some present

/-- Of a tool that is not listed, a client may be told unless a rule holds without a name. -/
theorem clientMayWatch_unlisted (ruled : router.clientAccess.lookup key = some access)
    {tool : List Char} (unlisted : router.watchedTool server tool = none) :
    router.clientMayWatch (some key) server tool =
      !router.ruledUnlisted (some key) (server, tool) := by
  have kept := keepsFrom_some access server tool [] router.prefixDelimiter
  have byServer : access.keepsFromServer server = true →
      access.keepsFromRoute (server, tool) = true := by
    intro keeps
    simp [ClientAccess.keepsFromRoute, keeps]
  rw [ToolRouter.clientMayWatch, unlisted, clientMayUseServer_ruled ruled]
  dsimp only
  rw [clientMayReadResultOf_ruled ruled, kept]
  simp only [ToolRouter.ruledUnlisted, Option.bind_some, ruled, Option.any_some]
  cases keeps : access.keepsFromServer server with
  | true => simp [byServer keeps]
  | false => simp

end Router

/-! ### A refusal and what becomes of the tool -/

/-- A client that is refused a listed tool is refused a watch of it under every later catalog that
lists it under no name the client may use, and every result it gave under the former name, exactly
if the tool is still listed or a rule holds without a name. -/
theorem refusal_outlasts_listing (router : ToolRouter) (clientKey : Option (List Char))
    (server tool listed : List Char) (lists : (listed, (server, tool)) ∈ router.cache.routes)
    (refused : router.clientMayUseTool clientKey listed = false) (later : RouterSnapshot) :
    (((∀ name, (name, (server, tool)) ∈ later.routes →
          { router with cache := later }.clientMayUseTool clientKey name = false) →
        { router with cache := later }.clientMayWatch clientKey server tool = false) ∧
      { router with cache := later }.clientMayReadResultOf clientKey (some server) (some tool)
        listed = false) ↔
    (∃ name, (name, (server, tool)) ∈ later.routes) ∨
      router.ruledUnlisted clientKey (server, tool) = true := by
  cases clientKey with
  | none => cases refused
  | some key =>
    cases ruled : router.clientAccess.lookup key with
    | none => simp [ToolRouter.clientMayUseTool, ruled] at refused
    | some access =>
      have ruledLater : { router with cache := later }.clientAccess.lookup key = some access :=
        ruled
      have read : { router with cache := later }.clientMayReadResultOf (some key) (some server)
          (some tool) listed = false := by
        rw [clientMayReadResultOf_ruled ruledLater, keepsFrom_of_refused ruled lists refused]
        rfl
      cases watched : { router with cache := later }.watchedTool server tool with
      | none =>
        have unlisted := watchedTool_none watched
        have told := clientMayWatch_unlisted ruledLater watched
        constructor
        · rintro ⟨watches, _⟩
          right
          have silent := watches fun name listedLater => absurd listedLater (unlisted name)
          rw [told, Bool.not_eq_false'] at silent
          exact silent
        · rintro (⟨name, listedLater⟩ | unruled)
          · exact absurd listedLater (unlisted name)
          · refine ⟨fun _ => ?_, read⟩
            rw [told, Bool.not_eq_false']
            exact unruled
      | some name =>
        have listedLater := watchedTool_some watched
        constructor
        · exact fun _ => Or.inl ⟨name, listedLater⟩
        · refine fun _ => ⟨fun unusable => ?_, read⟩
          rw [ToolRouter.clientMayWatch, watched]
          dsimp only
          rw [unusable name listedLater, Bool.and_false]

/-- A catalog in which the tool has another name. -/
def renamedSend : RouterSnapshot :=
  RouterSnapshot.withIndexes
    { routes := [("Slack__post_message".toList, "slack".toList, "send_message".toList)]
      routesLower := []
      routesDistinct := by simp }

/-- While the tool is listed under a name that the client may not use, it is told nothing. -/
theorem refusal_outlasts_listing_renamed :
    ((∀ name, (name, ("slack".toList, "send_message".toList)) ∈ renamedSend.routes →
          { blockedSend with cache := renamedSend }.clientMayUseTool (some "client".toList) name =
            false) →
        { blockedSend with cache := renamedSend }.clientMayWatch (some "client".toList)
          "slack".toList "send_message".toList = false) ∧
      { blockedSend with cache := renamedSend }.clientMayReadResultOf (some "client".toList)
        (some "slack".toList) (some "send_message".toList) "Slack__send_message".toList = false :=
  (refusal_outlasts_listing blockedSend (some "client".toList) "slack".toList
    "send_message".toList "Slack__send_message".toList (by decide +kernel) (by decide +kernel)
    renamedSend).mpr (Or.inl ⟨"Slack__post_message".toList, by decide +kernel⟩)

def emptyCatalog : RouterSnapshot :=
  RouterSnapshot.withIndexes { routes := [], routesLower := [], routesDistinct := List.nodup_nil }

/-- A rule over a listed name refuses the client the tool, and lets it watch the tool once no
tool is listed. -/
theorem named_rule_lapses :
    ("Slack__send_message".toList, ("slack".toList, "send_message".toList)) ∈
        blockedSend.cache.routes ∧
      blockedSend.clientMayUseTool (some "client".toList) "Slack__send_message".toList = false ∧
      emptyCatalog.routes = [] ∧
      { blockedSend with cache := emptyCatalog }.clientMayWatch (some "client".toList)
        "slack".toList "send_message".toList = true := by
  decide +kernel

end Plug.Access
