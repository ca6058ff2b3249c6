import Mathlib.Data.List.Perm.Basic
import Plug.Tables
import Plug.ToolCatalog

/-!
# The published catalog

A refresh publishes the listed tools in order, a table of their routes, and indexes of both: by
name, and by name without regard to ASCII case. The index of tools is filled from the ordered
list, and that of routes from a table that is walked in no particular order. Of names that fold
alike each index keeps the one it meets last.
-/

namespace Plug.Catalog

open Text ToolNaming Access

variable {Details : Type} (casing : Casing)

/-! ### The order of the tools -/

/-- The first priority word that a name contains. -/
def priorityOf (priorityTools : List (List Char)) (name : List Char) : Option Nat :=
  priorityTools.findIdx? fun word => Text.contains word name

/-- Tools of priority first, then by name. -/
def prioritySort (priorityTools : List (List Char)) (first second : List Char) : Bool :=
  match priorityOf priorityTools first, priorityOf priorityTools second with
  | some one, some other =>
    decide (one < other) || (one == other && !decide (second < first))
  | some _, none => true
  | none, some _ => false
  | none, none => !decide (second < first)

def searchToolName : List Char := "plug__search_tools".toList

/-- Whether Plug's own search is listed. -/
def searchListed (config : RouterConfig) (listed : List (Listed Details)) : Bool :=
  decide (config.toolSearchThreshold ≤ listed.length) &&
    !isDisabledTool config.disabledTools searchToolName

/-- The tools that are published, Plug's own in front. -/
def publishedTools (config : RouterConfig) (searchDetails : Details)
    (listed : List (Listed Details)) : List (Tool Details) :=
  let tools := (listed.map Listed.tool).insertionSort fun first second =>
    prioritySort config.priorityTools first.name second.name
  if searchListed config listed then ⟨searchToolName, searchDetails⟩ :: tools else tools

/-- The routes that are published. Plug's own search takes the place of a tool of its name. -/
def publishedRoutes (config : RouterConfig) (listed : List (Listed Details)) :
    List (List Char × Route) :=
  let routes := listed.map fun entry => (entry.tool.name, entry.route)
  if searchListed config listed then
    (searchToolName, (plugInternal, searchToolName)) ::
      routes.filter fun item => item.1 ≠ searchToolName
  else routes

/-! ### Indexes -/

structure Snapshot (Details : Type) where
  router : RouterSnapshot
  toolsAll : List (Tool Details)
  toolsByName : List (List Char × Nat)
  toolsByNameLower : List (List Char × Nat)

/-- The places of the tools by what `key` makes of their names. A later tool takes the place of
an earlier one. -/
def indexBy (key : List Char → List Char) (tools : List (Tool Details)) : List (List Char × Nat) :=
  (tools.zipIdx.map fun (tool, index) => (key tool.name, index)).reverse

def Snapshot.withIndexes (snapshot : Snapshot Details) : Snapshot Details :=
  { snapshot with
    router := snapshot.router.withIndexes
    toolsByName := indexBy id snapshot.toolsAll
    toolsByNameLower := indexBy toAsciiLowercase snapshot.toolsAll }

def Snapshot.toolByName (snapshot : Snapshot Details) (name : List Char) : Option (Tool Details) :=
  ((snapshot.toolsByName.lookup name).or
    (snapshot.toolsByNameLower.lookup (toAsciiLowercase name))).bind fun index =>
      snapshot.toolsAll[index]?

/-- The tools that a refresh makes of those of the servers. -/
def refreshedTools (config : RouterConfig) (manager : ServerManager) (searchDetails : Details)
    (upstreamTools : List (List Char × Tool Details)) : List (Tool Details) :=
  publishedTools config searchDetails (namingPasses casing config manager upstreamTools)

def refreshedRoutes (config : RouterConfig) (manager : ServerManager)
    (upstreamTools : List (List Char × Tool Details)) : List (List Char × Route) :=
  publishedRoutes config (namingPasses casing config manager upstreamTools)

/-- A refresh can publish the snapshot: its indexes are filled in from the tools and the routes,
which are walked in some order. -/
def Refreshed (config : RouterConfig) (manager : ServerManager) (searchDetails : Details)
    (upstreamTools : List (List Char × Tool Details)) (snapshot : Snapshot Details) : Prop :=
  ∃ finalized : Snapshot Details,
    finalized.router.routes.Perm (refreshedRoutes casing config manager upstreamTools) ∧
    finalized.toolsAll = refreshedTools casing config manager searchDetails upstreamTools ∧
    snapshot = finalized.withIndexes

/-! ### What the indexes find -/

section Indexes

variable {key : List Char → List Char} {tools : List (Tool Details)} {name : List Char}
  {index : Nat}

theorem indexBy_sound (found : (indexBy key tools).lookup name = some index) :
    ∃ tool, tools[index]? = some tool ∧ key tool.name = name := by
  have member := Tables.mem_of_lookup found
  rw [indexBy, List.mem_reverse, List.mem_map] at member
  obtain ⟨⟨tool, place⟩, present, same⟩ := member
  cases same
  exact ⟨tool, List.mem_zipIdx_iff_getElem?.mp present, rfl⟩

theorem indexBy_complete (key : List Char → List Char) {tool : Tool Details}
    (member : tool ∈ tools) :
    ∃ index, (indexBy key tools).lookup (key tool.name) = some index := by
  obtain ⟨index, found⟩ := List.mem_iff_getElem?.mp member
  have indexed : (key tool.name, index) ∈ indexBy key tools := by
    rw [indexBy, List.mem_reverse, List.mem_map]
    exact ⟨(tool, index), List.mem_zipIdx_iff_getElem?.mpr found, rfl⟩
  exact Tables.lookup_exists indexed

variable {snapshot : Snapshot Details} {tool : Tool Details}

/-- A tool is found under its own name, and under one that folds alike where no tool has it. -/
theorem toolByName_sound (found : snapshot.withIndexes.toolByName name = some tool) :
    tool ∈ snapshot.toolsAll ∧ (tool.name = name ∨
      (name ∉ snapshot.toolsAll.map Tool.name ∧
        toAsciiLowercase tool.name = toAsciiLowercase name)) := by
  obtain ⟨index, indexed, present⟩ := Option.bind_eq_some_iff.mp found
  change snapshot.toolsAll[index]? = some tool at present
  refine ⟨List.mem_of_getElem? present, ?_⟩
  cases exact : (indexBy id snapshot.toolsAll).lookup name with
  | some first =>
    have same : first = index := by
      simpa [Snapshot.withIndexes, exact] using indexed
    obtain ⟨other, again, named⟩ := indexBy_sound exact
    rw [same, present] at again
    cases again
    exact Or.inl named
  | none =>
    have folded : (indexBy toAsciiLowercase snapshot.toolsAll).lookup (toAsciiLowercase name) =
        some index := by
      simpa [Snapshot.withIndexes, exact] using indexed
    obtain ⟨other, again, named⟩ := indexBy_sound folded
    rw [present] at again
    cases again
    refine Or.inr ⟨?_, named⟩
    intro listed
    obtain ⟨same, member, rfl⟩ := List.mem_map.mp listed
    obtain ⟨place, met⟩ := indexBy_complete id member
    rw [id, exact] at met
    cases met

/-- Where a tool's name folds alike, some tool is found. -/
theorem toolByName_exists (snapshot : Snapshot Details) (member : tool ∈ snapshot.toolsAll)
    (folded : toAsciiLowercase tool.name = toAsciiLowercase name) :
    ∃ found, snapshot.withIndexes.toolByName name = some found := by
  obtain ⟨index, met⟩ := indexBy_complete toAsciiLowercase member
  rw [folded] at met
  cases exact : (indexBy id snapshot.toolsAll).lookup name with
  | some first =>
    obtain ⟨other, present, _⟩ := indexBy_sound exact
    exact ⟨other, by simp [Snapshot.toolByName, Snapshot.withIndexes, exact, present]⟩
  | none =>
    obtain ⟨other, present, _⟩ := indexBy_sound met
    exact ⟨other, by simp [Snapshot.toolByName, Snapshot.withIndexes, exact, met, present]⟩

end Indexes

section Routes

variable {router : RouterSnapshot} {name listedName : List Char} {route : Route}

theorem resolveRoute_listed (listed : (name, route) ∈ router.routes) :
    router.withIndexes.resolveRoute name = some route := by
  have found := Tables.lookup_of_mem router.routesDistinct listed
  simp [RouterSnapshot.resolveRoute, RouterSnapshot.withIndexes, found]

/-- A name that is not listed goes to one that folds alike. -/
theorem resolveRoute_folded (unlisted : name ∉ router.routes.map Prod.fst)
    (listed : (listedName, route) ∈ router.routes)
    (folded : toAsciiLowercase listedName = toAsciiLowercase name) :
    ∃ item ∈ router.routes, toAsciiLowercase item.1 = toAsciiLowercase name ∧
      router.withIndexes.resolveRoute name = some item.2 := by
  have lower : (toAsciiLowercase name, route) ∈ router.withIndexes.routesLower := by
    simp only [RouterSnapshot.withIndexes, List.mem_reverse, List.mem_map]
    exact ⟨(listedName, route), listed, Prod.ext folded rfl⟩
  obtain ⟨found, met⟩ := Tables.lookup_exists lower
  have member := Tables.mem_of_lookup met
  simp only [RouterSnapshot.withIndexes, List.mem_reverse, List.mem_map] at member
  obtain ⟨item, present, same⟩ := member
  obtain ⟨alike, rfl⟩ := Prod.mk.inj same
  refine ⟨item, present, alike, ?_⟩
  have missed : router.withIndexes.routes.lookup name = none := Tables.lookup_absent unlisted
  rw [RouterSnapshot.resolveRoute, missed, met]
  rfl

/-- The route that is met last is the one a name that is not listed goes to. -/
theorem resolveRoute_last {front : List (List Char × Route)} {last : List Char × Route}
    (walked : router.routes = front ++ [last]) (unlisted : name ∉ router.routes.map Prod.fst)
    (folded : toAsciiLowercase last.1 = toAsciiLowercase name) :
    router.withIndexes.resolveRoute name = some last.2 := by
  have missed : router.withIndexes.routes.lookup name = none := Tables.lookup_absent unlisted
  have met : router.withIndexes.routesLower.lookup (toAsciiLowercase name) = some last.2 := by
    simp [RouterSnapshot.withIndexes, walked, folded]
  rw [RouterSnapshot.resolveRoute, missed, met]
  rfl

end Routes

/-! ### Names of the published tools -/

theorem listTools_distinct {config : RouterConfig} {classified : List (Classified Details)}
    (entries : List (Classified Details)) {listed : List (Listed Details)}
    (distinct : (listed.map fun entry => entry.tool.name).Nodup) :
    ((listTools config classified entries listed).map fun entry => entry.tool.name).Nodup := by
  induction entries generalizing listed with
  | nil => exact distinct
  | cons entry rest ih =>
    rw [listTools]
    split
    · exact ih distinct
    · rename_i free
      apply ih
      simp only [Bool.or_eq_true, List.any_eq_true, decide_eq_true_eq, not_or, not_exists,
        not_and] at free
      rw [List.map_append, List.nodup_append]
      refine ⟨distinct, List.nodup_singleton _, ?_⟩
      intro name member other single
      obtain ⟨met, present, rfl⟩ := List.mem_map.mp member
      rw [List.mem_singleton.mp single]
      exact free.2 met present

theorem publishedRoutes_distinct {config : RouterConfig} {listed : List (Listed Details)}
    (distinct : (listed.map fun entry => entry.tool.name).Nodup) :
    ((publishedRoutes config listed).map Prod.fst).Nodup := by
  have routed : ((listed.map fun entry => (entry.tool.name, entry.route)).map Prod.fst).Nodup := by
    rw [List.map_map]
    exact distinct
  rw [publishedRoutes]
  split
  · rw [List.map_cons, List.nodup_cons]
    refine ⟨?_, routed.sublist (List.filter_sublist.map _)⟩
    intro member
    obtain ⟨item, kept, same⟩ := List.mem_map.mp member
    exact absurd same (of_decide_eq_true (List.mem_filter.mp kept).2)
  · exact routed

/-- Every published tool has a route, and no other name has one. -/
theorem published_names (config : RouterConfig) (searchDetails : Details)
    (listed : List (Listed Details)) (name : List Char) :
    name ∈ (publishedRoutes config listed).map Prod.fst ↔
      name ∈ (publishedTools config searchDetails listed).map Tool.name := by
  have sorted : ∀ tool, tool ∈ ((listed.map Listed.tool).insertionSort fun first second =>
      prioritySort config.priorityTools first.name second.name) ↔
        tool ∈ listed.map Listed.tool := fun tool => List.mem_insertionSort _
  unfold publishedRoutes publishedTools
  dsimp only
  split
  · by_cases own : name = searchToolName
    · simp [own]
    · simp [own, sorted]
  · simp [sorted]

/-! ### Agreement -/

section Agreement

variable {casing : Casing} {config : RouterConfig} {manager : ServerManager}
  {searchDetails : Details} {upstreamTools : List (List Char × Tool Details)}

/-- The routes of a refresh can be walked in any order. -/
theorem refreshed_exists (searchDetails : Details) {routes : List (List Char × Route)}
    (order : routes.Perm (refreshedRoutes casing config manager upstreamTools)) :
    ∃ finalized : Snapshot Details, finalized.router.routes = routes ∧
      finalized.toolsAll = refreshedTools casing config manager searchDetails upstreamTools ∧
      Refreshed casing config manager searchDetails upstreamTools finalized.withIndexes := by
  have distinct : (routes.map Prod.fst).Nodup :=
    (order.map Prod.fst).nodup_iff.mpr
      (publishedRoutes_distinct (listTools_distinct _ List.nodup_nil))
  exact ⟨⟨⟨routes, [], distinct⟩,
    refreshedTools casing config manager searchDetails upstreamTools, [], []⟩,
    rfl, rfl, _, order, rfl, rfl⟩

/-- The tool that a name finds does not depend on the routes. -/
theorem toolByName_congr {first second : Snapshot Details}
    (same : first.toolsAll = second.toolsAll) (name : List Char) :
    first.withIndexes.toolByName name = second.withIndexes.toolByName name := by
  simp [Snapshot.toolByName, Snapshot.withIndexes, same]

/-- A walk can meet any route last. -/
theorem perm_last {routes : List (List Char × Route)} {item : List Char × Route}
    (member : item ∈ routes) : (routes.erase item ++ [item]).Perm routes :=
  List.perm_append_comm.trans (List.perm_cons_erase member).symm

/-- The tool and the route that a name finds belong together in every order of the routes, exactly
if the name is listed or the listed names that fold like it have one route. -/
theorem indexes_agree (casing : Casing) (config : RouterConfig) (manager : ServerManager)
    (searchDetails : Details) (upstreamTools : List (List Char × Tool Details))
    (name : List Char) :
    (∀ snapshot, Refreshed casing config manager searchDetails upstreamTools snapshot →
      ∀ tool route, snapshot.toolByName name = some tool →
        snapshot.router.resolveRoute name = some route →
        snapshot.router.routes.lookup tool.name = some route) ↔
    (name ∈ (refreshedRoutes casing config manager upstreamTools).map Prod.fst ∨
      ∀ first ∈ refreshedRoutes casing config manager upstreamTools,
        toAsciiLowercase first.1 = toAsciiLowercase name →
        ∀ second ∈ refreshedRoutes casing config manager upstreamTools,
          toAsciiLowercase second.1 = toAsciiLowercase name → first.2 = second.2) := by
  have names : ∀ other, other ∈ (refreshedRoutes casing config manager upstreamTools).map Prod.fst ↔
      other ∈ (refreshedTools casing config manager searchDetails upstreamTools).map Tool.name :=
    published_names config searchDetails (namingPasses casing config manager upstreamTools)
  constructor
  · intro agree
    by_cases listed : name ∈ (refreshedRoutes casing config manager upstreamTools).map Prod.fst
    · exact Or.inl listed
    · refine Or.inr fun first firstListed firstFolded second secondListed secondFolded => ?_
      obtain ⟨finalized, _, tools, _⟩ := refreshed_exists searchDetails
        (List.Perm.refl (refreshedRoutes casing config manager upstreamTools))
      obtain ⟨firstTool, present, same⟩ := List.mem_map.mp
        ((names first.1).mp (List.mem_map_of_mem firstListed))
      obtain ⟨tool, found⟩ := toolByName_exists finalized (tools ▸ present)
        ((congrArg toAsciiLowercase same).trans firstFolded)
      obtain ⟨member, named⟩ := toolByName_sound found
      have toolListed : tool.name ∈
          (refreshedRoutes casing config manager upstreamTools).map Prod.fst :=
        (names tool.name).mpr (List.mem_map_of_mem (tools ▸ member))
      obtain ⟨own, ownListed, ownName⟩ := List.mem_map.mp toolListed
      -- A walk that meets a route last sends the name there, and every walk finds the same tool.
      have whichever : ∀ item ∈ refreshedRoutes casing config manager upstreamTools,
          toAsciiLowercase item.1 = toAsciiLowercase name → item.2 = own.2 := by
        intro item itemListed itemFolded
        have order := perm_last itemListed
        obtain ⟨walked, walk, walkedTools, refreshed⟩ :=
          refreshed_exists searchDetails order
        have foundAgain : walked.withIndexes.toolByName name = some tool :=
          (toolByName_congr (walkedTools.trans tools.symm) name).trans found
        have unlisted : name ∉ walked.router.routes.map Prod.fst := by
          rw [walk, (order.map Prod.fst).mem_iff]
          exact listed
        have resolved := resolveRoute_last walk unlisted itemFolded
        have recorded := agree _ refreshed tool item.2 foundAgain resolved
        have ownThere : (tool.name, own.2) ∈ walked.router.routes := by
          rw [walk, order.mem_iff, ← ownName]
          exact ownListed
        have ownRecorded := Tables.lookup_of_mem walked.router.routesDistinct ownThere
        exact Option.some.inj (recorded.symm.trans ownRecorded)
      rw [whichever first firstListed firstFolded, whichever second secondListed secondFolded]
  · rintro condition _ ⟨finalized, order, tools, rfl⟩ tool route found resolved
    obtain ⟨member, named⟩ := toolByName_sound found
    have toolListed : tool.name ∈ finalized.router.routes.map Prod.fst := by
      rw [(order.map Prod.fst).mem_iff, names, ← tools]
      exact List.mem_map_of_mem member
    obtain ⟨⟨_, own⟩, ownListed, rfl⟩ := List.mem_map.mp toolListed
    have ownRecorded := Tables.lookup_of_mem finalized.router.routesDistinct ownListed
    suffices same : own = route from same ▸ ownRecorded
    cases named with
    | inl exact =>
      rw [exact] at ownListed
      exact Option.some.inj ((resolveRoute_listed ownListed).symm.trans resolved)
    | inr folded =>
      obtain ⟨unlisted, alike⟩ := folded
      have absent : name ∉ finalized.router.routes.map Prod.fst := by
        rw [(order.map Prod.fst).mem_iff, names, ← tools]
        exact unlisted
      obtain ⟨item, itemListed, itemFolded, met⟩ := resolveRoute_folded absent ownListed alike
      have routed : item.2 = route := Option.some.inj (met.symm.trans resolved)
      cases condition with
      | inl listed =>
        exact absurd ((order.map Prod.fst).mem_iff.mpr listed) absent
      | inr one =>
        rw [← routed]
        exact one _ (order.mem_iff.mp ownListed) alike _ (order.mem_iff.mp itemListed) itemFolded

/-- The letters of ASCII, as the standard library has them. -/
def asciiCasing : Casing where
  isUppercase := Char.isUpper
  isLowercase := Char.isLower
  toUppercase character := [character.toUpper]

/-- Two servers whose names fold alike, without rules of their own. -/
def twoWorkspaces : ServerManager where
  getUpstream _ := some { toolRenames := [], toolGroups := [] }
  reportedName _ := none

def plainConfig : RouterConfig where
  enablePrefix := true
  prefixDelimiter := "__".toList
  disabledTools := []
  priorityTools := []
  toolSearchThreshold := 50

/-- Both list the same tool. -/
def twoSends : Snapshot Unit :=
  Snapshot.withIndexes
    { router :=
        { routes := [("Slack__send".toList, ("slack".toList, "send".toList)),
            ("SLACK__send".toList, ("SLACK".toList, "send".toList))]
          routesLower := []
          routesDistinct := by decide +kernel }
      toolsAll := [⟨"SLACK__send".toList, ()⟩, ⟨"Slack__send".toList, ()⟩]
      toolsByName := []
      toolsByNameLower := [] }

/-- A client asks for that tool in lower case: what it reads is the tool of one server, and the
call goes to the other. -/
theorem indexes_disagree :
    Refreshed asciiCasing plainConfig twoWorkspaces ()
        [("slack".toList, ⟨"send".toList, ()⟩), ("SLACK".toList, ⟨"send".toList, ()⟩)] twoSends ∧
      twoSends.toolByName "slack__send".toList = some ⟨"Slack__send".toList, ()⟩ ∧
      twoSends.router.resolveRoute "slack__send".toList =
        some ("SLACK".toList, "send".toList) ∧
      twoSends.router.routes.lookup "Slack__send".toList =
        some ("slack".toList, "send".toList) := by
  refine ⟨⟨_, ?_, ?_, rfl⟩, ?_⟩
  · decide +kernel
  · decide +kernel
  · decide +kernel

end Agreement

end Plug.Catalog
