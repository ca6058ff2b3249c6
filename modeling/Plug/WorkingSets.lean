import Plug.ActiveCalls
import Plug.CatalogSnapshot
import Plug.RecencyLists

/-!
# The tools that a session has loaded

A session that sees tools by search alone has a list of tools it may call: those that its searches
found and that it called since, the last used at the end, and no more than a limit. What falls off
the front is what was not used for the longest.
-/

namespace Plug.WorkingSets

open ActiveCalls (DownstreamTransport)
open Catalog (Snapshot Tool)
open Access (ToolRouter plugInternal)
open RecencyLists (UsedLater touch touchAll)
open Text (contains isWhitespace toAsciiLowercase trim)

def bridgeWorkingSetMaxTools : Nat := 20

def bridgeSearchResultMax : Nat := 10

/-! ### Searching -/

section Search

variable {Details : Type} (title description : Tool Details → List Char)

def tokenizeSearchQuery (query : List Char) : List (List Char) :=
  ((query.splitOnP fun character => !character.isAlphanum).filter (· ≠ [])).map toAsciiLowercase

def normalizeSearchText (text : List Char) : List Char :=
  let mapped := text.map fun character =>
    if character.isAlphanum then character.toLower else ' '
  List.intercalate [' '] ((mapped.splitOnP isWhitespace).filter (· ≠ []))

structure NormalizedToolText where
  name : List Char
  title : List Char
  server : List Char
  description : List Char

structure ToolSearchEntry where
  serverId : List Char
  toolName : List Char
  text : NormalizedToolText

/-- An entry for each tool that has a route to a server. -/
def searchIndex (snapshot : Snapshot Details) : List ToolSearchEntry :=
  snapshot.toolsAll.filterMap fun tool =>
    (snapshot.router.routes.lookup tool.name).bind fun (serverId, _) =>
      if serverId = plugInternal then none
      else some ⟨serverId, tool.name, normalizeSearchText tool.name,
        normalizeSearchText (title tool), normalizeSearchText serverId,
        normalizeSearchText (description tool)⟩

/-- What a token adds to the score. It is nothing if the token is in none of the texts. -/
def tokenScore (text : NormalizedToolText) (token : List Char) : Nat :=
  (if contains token text.name then 40 else 0) + (if contains token text.title then 30 else 0) +
    (if contains token text.server then 25 else 0) +
    if contains token text.description then 10 else 0

def scoreNormalizedMatch (text : NormalizedToolText) (phrase : List Char)
    (tokens : List (List Char)) : Option Nat :=
  let score := (if contains phrase text.name then 120 else 0) +
    (if contains phrase text.title then 100 else 0) +
    (if contains phrase text.description then 60 else 0) + (tokens.map (tokenScore text)).sum +
    if tokens.all fun token => tokenScore text token ≠ 0 then 50 else 0
  if 0 < score then some score else none

/-- The arguments of a search that the code can read. -/
structure SearchArguments where
  query : Option (List Char)
  limit : Option Nat

structure Match where
  name : List Char
  serverId : List Char
  description : List Char
  score : Nat

/-- The tools that are found, the best first, of those that the client may use. -/
def ranked (snapshot : Snapshot Details) (router : ToolRouter) (clientKey : Option (List Char))
    (tokens : List (List Char)) (limit : Nat) : List (Nat × List Char × List Char) :=
  let phrase := List.intercalate [' '] tokens
  let scored := (searchIndex title description snapshot).filterMap fun entry =>
    (scoreNormalizedMatch entry.text phrase tokens).bind fun score =>
      if router.clientMayUseTool clientKey entry.toolName then
        some (score, entry.serverId, entry.toolName)
      else none
  (scored.insertionSort fun first second =>
    decide (second.1 < first.1) ||
      (first.1 == second.1 && !decide (second.2.2 < first.2.2))).take limit

def found (snapshot : Snapshot Details) (router : ToolRouter) (clientKey : Option (List Char))
    (tokens : List (List Char)) (limit : Nat) : List (Match × Tool Details) :=
  (ranked title description snapshot router clientKey tokens limit).filterMap
    fun (score, serverId, toolName) =>
      (snapshot.toolByName toolName).map fun tool =>
        (⟨tool.name, serverId, description tool, score⟩, tool)

/-! ### Working sets -/

inductive LazyToolSurface where
  | standard
  | native
  | bridge
  | legacyMeta
deriving DecidableEq

/-- The surface is what the configuration says for the client's type. -/
structure DownstreamCallContext where
  clientKey : Option (List Char)
  transport : DownstreamTransport
  clientId : String
  surface : LazyToolSurface

def lazySessionKey (transport : DownstreamTransport) (clientId : String) : String :=
  match transport with
  | .stdio => "stdio:" ++ clientId
  | .http => "http:" ++ clientId
  | .ipc => "ipc:" ++ clientId

def DownstreamCallContext.sessionKey (context : DownstreamCallContext) : String :=
  lazySessionKey context.transport context.clientId

/-- For each session the tools it has loaded, the last used at the end. -/
abbrev LazyWorkingSets : Type := List (String × List (List Char))

def LazyWorkingSets.loaded (sets : LazyWorkingSets) (sessionKey : String) : List (List Char) :=
  (Tables.get sets sessionKey).getD []

/-- What a search makes of a working set. -/
structure Loading where
  loaded : List (List Char)
  newlyLoaded : List (List Char)
  evicted : List (List Char)

/-- Each tool in turn comes to the end. Then as many are dropped from the front as are too many. -/
def loadTools (loaded availableTools : List (List Char)) : Loading :=
  let (extended, newlyLoaded) := availableTools.foldl (fun (loaded, newly) toolName =>
    if toolName ∈ loaded then (loaded.erase toolName ++ [toolName], newly)
    else (loaded ++ [toolName], newly ++ [toolName])) (loaded, ([] : List (List Char)))
  let excess := extended.length - bridgeWorkingSetMaxTools
  { loaded := extended.drop excess
    newlyLoaded := newlyLoaded
    evicted := extended.take excess }

inductive SearchReply (Details : Type) where
  | refused (error : String)
  | found (results : List (Match × Tool Details)) (newlyLoaded evicted : List (List Char))
    (visibleSetChanged : Bool)

def handleSearchTools (snapshot : Snapshot Details) (router : ToolRouter)
    (arguments : SearchArguments) (downstream : Option DownstreamCallContext)
    (sets : LazyWorkingSets) : SearchReply Details × LazyWorkingSets :=
  let query := trim (arguments.query.getD [])
  if query = [] then (.refused "query is required", sets)
  else
    let tokens := tokenizeSearchQuery query
    if tokens = [] then (.refused "query must include searchable text", sets)
    else
      let limit := (arguments.limit.map (min · bridgeSearchResultMax)).getD 5
      let clientKey := downstream.bind DownstreamCallContext.clientKey
      let results := found title description snapshot router clientKey tokens limit
      let availableTools := results.map fun result => result.1.name
      match downstream with
      | none => (.found results [] [] false, sets)
      | some context =>
        if context.surface = .bridge ∧ availableTools ≠ [] then
          let before := sets.loaded context.sessionKey
          let loading := loadTools before availableTools
          (.found results loading.newlyLoaded loading.evicted (decide (before ≠ loading.loaded)),
            Tables.insert sets context.sessionKey loading.loaded)
        else (.found results [] [] false, sets)

end Search

def hiddenTool (toolName : List Char) : List Char :=
  toolName ++ (" is hidden in this lazy tool session; " ++
    "call plug__search_tools first").toList

def ensureLazyToolLoadedForDirectCall (downstream : Option DownstreamCallContext)
    (toolName : List Char) (sets : LazyWorkingSets) : Except (List Char) Unit × LazyWorkingSets :=
  match downstream with
  | none => (.ok (), sets)
  | some context =>
    if context.surface ≠ .bridge then (.ok (), sets)
    else
      match Tables.get sets context.sessionKey with
      | none => (.error (hiddenTool toolName), sets)
      | some loaded =>
        match loaded.find? fun name => toAsciiLowercase name = toAsciiLowercase toolName with
        | none => (.error (hiddenTool toolName), sets)
        | some name =>
          (.ok (), Tables.insert sets context.sessionKey (loaded.erase name ++ [name]))

/-! ### Runs -/

inductive Operation (Details : Type) where
  | search (snapshot : Snapshot Details) (router : ToolRouter) (arguments : SearchArguments)
      (downstream : Option DownstreamCallContext)
  | directCall (downstream : Option DownstreamCallContext) (toolName : List Char)

def onBridge (sessionKey : String) : Option DownstreamCallContext → Bool
  | none => false
  | some context => decide (context.surface = .bridge) && context.sessionKey == sessionKey

def SearchReply.availableTools {Details : Type} : SearchReply Details → List (List Char)
  | .refused _ => []
  | .found results _ _ _ => results.map fun result => result.1.name

section Runs

variable {Details : Type} (title description : Tool Details → List Char)

def perform (sets : LazyWorkingSets) : Operation Details → LazyWorkingSets
  | .search snapshot router arguments downstream =>
    (handleSearchTools title description snapshot router arguments downstream sets).2
  | .directCall downstream toolName =>
    (ensureLazyToolLoadedForDirectCall downstream toolName sets).2

/-- The tools that an operation uses in a session: those that a search answers, or the one that is
called. -/
def usedIn (sessionKey : String) (sets : LazyWorkingSets) : Operation Details → List (List Char)
  | .search snapshot router arguments downstream =>
    if onBridge sessionKey downstream then
      (handleSearchTools title description snapshot router arguments downstream
        sets).1.availableTools
    else []
  | .directCall downstream toolName =>
    if onBridge sessionKey downstream then
      ((sets.loaded sessionKey).find? fun name =>
        toAsciiLowercase name = toAsciiLowercase toolName).toList
    else []

def run (sets : LazyWorkingSets) (operations : List (Operation Details)) : LazyWorkingSets :=
  operations.foldl (perform title description) sets

/-- Everything that was used in a session. -/
def uses (sessionKey : String) : LazyWorkingSets → List (Operation Details) → List (List Char)
  | _, [] => []
  | sets, operation :: operations =>
    usedIn title description sessionKey sets operation ++
      uses sessionKey (perform title description sets operation) operations

end Runs

/-! ### Single working sets -/

theorem loadTools_loaded (loaded availableTools : List (List Char)) :
    (loadTools loaded availableTools).loaded =
      (touchAll loaded availableTools).rtake bridgeWorkingSetMaxTools := by
  have extended : ∀ newly, (availableTools.foldl (fun (loaded, newly) toolName =>
      if toolName ∈ loaded then (loaded.erase toolName ++ [toolName], newly)
      else (loaded ++ [toolName], newly ++ [toolName])) (loaded, newly)).1 =
        touchAll loaded availableTools := by
    induction availableTools generalizing loaded with
    | nil => exact fun newly => rfl
    | cons toolName availableTools ih =>
      intro newly
      rw [List.foldl_cons, touchAll, List.foldl_cons]
      dsimp only
      by_cases present : toolName ∈ loaded
      · rw [if_pos present]
        exact ih _ _
      · rw [if_neg present, ih, touch, List.erase_of_not_mem present]
        rfl
  unfold loadTools
  dsimp only
  rw [extended]
  rfl

/-- No name twice, and not too many. -/
structure WellFormed (loaded : List (List Char)) : Prop where
  nodup : loaded.Nodup
  short : loaded.length ≤ bridgeWorkingSetMaxTools

theorem WellFormed.after {loaded : List (List Char)} (wellFormed : WellFormed loaded)
    (used : List (List Char)) :
    WellFormed ((touchAll loaded used).rtake bridgeWorkingSetMaxTools) where
  nodup := (RecencyLists.touchAll_nodup wellFormed.nodup used).sublist
    (RecencyLists.rtake_suffix _ _).sublist
  short := RecencyLists.rtake_length _ _

/-- A tool that is loaded comes to the end, and the list is no longer than before. -/
theorem touch_loaded {loaded : List (List Char)} (wellFormed : WellFormed loaded)
    {name : List Char} (member : name ∈ loaded) :
    loaded.erase name ++ [name] = (touchAll loaded [name]).rtake bridgeWorkingSetMaxTools := by
  have size := List.length_erase_of_mem member
  have some := List.length_pos_of_mem member
  have short := wellFormed.short
  have kept : (touch loaded name).length ≤ bridgeWorkingSetMaxTools := by
    rw [touch, List.length_append, size, List.length_singleton]
    omega
  exact (RecencyLists.rtake_of_length_le kept).symm

theorem loaded_insert (sets : LazyWorkingSets) (sessionKey other : String)
    (loaded : List (List Char)) :
    LazyWorkingSets.loaded (Tables.insert sets other loaded) sessionKey =
      if other = sessionKey then loaded else sets.loaded sessionKey := by
  unfold LazyWorkingSets.loaded
  split
  · rename_i same
    rw [same, Tables.get_insert_self]
    rfl
  · rename_i apart
    rw [Tables.get_insert_of_ne (Ne.symm apart)]

theorem loaded_insert_apart {downstream : DownstreamCallContext} {sessionKey : String}
    (apart : onBridge sessionKey (some downstream) = false) (bridge : downstream.surface = .bridge)
    (sets : LazyWorkingSets) (loaded : List (List Char)) :
    LazyWorkingSets.loaded (Tables.insert sets downstream.sessionKey loaded) sessionKey =
      sets.loaded sessionKey := by
  rw [loaded_insert, if_neg]
  intro same
  simp [onBridge, bridge, same] at apart

section Steps

variable {Details : Type} (title description : Tool Details → List Char)
  {sessionKey : String} {sets : LazyWorkingSets}

/-- A search changes the list of one session at most, by what it answers. -/
theorem search_cases (snapshot : Snapshot Details) (router : ToolRouter)
    (arguments : SearchArguments) (downstream : Option DownstreamCallContext)
    (sets : LazyWorkingSets) :
    let (reply, next) :=
      handleSearchTools title description snapshot router arguments downstream sets
    (next = sets ∧ ∀ sessionKey, onBridge sessionKey downstream = true →
      reply.availableTools = []) ∨
    ∃ context, downstream = some context ∧ context.surface = .bridge ∧
      next = Tables.insert sets context.sessionKey
        (loadTools (sets.loaded context.sessionKey) reply.availableTools).loaded := by
  unfold handleSearchTools
  dsimp only
  split
  · exact Or.inl ⟨rfl, fun _ _ => rfl⟩
  · split
    · exact Or.inl ⟨rfl, fun _ _ => rfl⟩
    · cases downstream with
      | none => exact Or.inl ⟨rfl, fun _ bridge => absurd bridge Bool.false_ne_true⟩
      | some context =>
        dsimp only
        split
        · rename_i loads
          exact Or.inr ⟨context, rfl, loads.1, rfl⟩
        · rename_i idle
          refine Or.inl ⟨rfl, fun sessionKey bridge => ?_⟩
          rw [onBridge, Bool.and_eq_true, decide_eq_true_eq] at bridge
          exact not_ne_iff.mp fun some => idle ⟨bridge.1, some⟩

/-- A direct call changes the list of one session at most, by the tool that it finds there. -/
theorem directCall_cases (downstream : Option DownstreamCallContext) (toolName : List Char)
    (sets : LazyWorkingSets) :
    let next := (ensureLazyToolLoadedForDirectCall downstream toolName sets).2
    let loadedName (sessionKey : String) := (sets.loaded sessionKey).find? fun name =>
      toAsciiLowercase name = toAsciiLowercase toolName
    (next = sets ∧ ∀ sessionKey, onBridge sessionKey downstream = true →
      loadedName sessionKey = none) ∨
    ∃ context name, downstream = some context ∧ context.surface = .bridge ∧
      loadedName context.sessionKey = some name ∧
      next = Tables.insert sets context.sessionKey
        ((sets.loaded context.sessionKey).erase name ++ [name]) := by
  unfold ensureLazyToolLoadedForDirectCall
  dsimp only
  cases downstream with
  | none => exact Or.inl ⟨rfl, fun _ bridge => absurd bridge Bool.false_ne_true⟩
  | some context =>
    dsimp only
    split
    · rename_i surface
      refine Or.inl ⟨rfl, fun sessionKey bridge => ?_⟩
      rw [onBridge, Bool.and_eq_true, decide_eq_true_eq] at bridge
      exact absurd bridge.1 surface
    · rename_i surface
      split
      · rename_i absent
        refine Or.inl ⟨rfl, fun sessionKey bridge => ?_⟩
        rw [onBridge, Bool.and_eq_true, beq_iff_eq] at bridge
        rw [← bridge.2, LazyWorkingSets.loaded, absent]
        rfl
      · rename_i loaded present
        have own : sets.loaded context.sessionKey = loaded := by
          rw [LazyWorkingSets.loaded, present]
          rfl
        split
        · rename_i hidden
          refine Or.inl ⟨rfl, fun sessionKey bridge => ?_⟩
          rw [onBridge, Bool.and_eq_true, beq_iff_eq] at bridge
          rw [← bridge.2, own]
          exact hidden
        · rename_i name found
          refine Or.inr ⟨context, name, rfl, not_ne_iff.mp surface, ?_, ?_⟩
          · rw [own]
            exact found
          · rw [own]

/-- An operation puts what it uses behind what the session has loaded. -/
theorem perform_loaded (wellFormed : WellFormed (sets.loaded sessionKey))
    (operation : Operation Details) :
    (perform title description sets operation).loaded sessionKey =
      (touchAll (sets.loaded sessionKey)
        (usedIn title description sessionKey sets operation)).rtake bridgeWorkingSetMaxTools := by
  have idle : sets.loaded sessionKey =
      (touchAll (sets.loaded sessionKey) []).rtake bridgeWorkingSetMaxTools :=
    (RecencyLists.rtake_of_length_le wellFormed.short).symm
  cases operation with
  | search snapshot router arguments downstream =>
    have cases := search_cases title description snapshot router arguments downstream sets
    unfold perform usedIn
    dsimp only at cases ⊢
    obtain ⟨same, unused⟩ | ⟨context, rfl, bridge, next⟩ := cases
    · rw [same]
      split
      · rename_i here
        rw [unused sessionKey here]
        exact idle
      · exact idle
    · split
      · rename_i here
        rw [onBridge, Bool.and_eq_true, beq_iff_eq] at here
        rw [next, loaded_insert, if_pos here.2, here.2, loadTools_loaded]
      · rename_i elsewhere
        rw [next, loaded_insert_apart (Bool.eq_false_iff.mpr elsewhere) bridge]
        exact idle
  | directCall downstream toolName =>
    have cases := directCall_cases downstream toolName sets
    unfold perform usedIn
    dsimp only at cases ⊢
    obtain ⟨same, unused⟩ | ⟨context, name, rfl, bridge, found, next⟩ := cases
    · rw [same]
      split
      · rename_i here
        rw [unused sessionKey here]
        exact idle
      · exact idle
    · split
      · rename_i here
        rw [onBridge, Bool.and_eq_true, beq_iff_eq] at here
        obtain ⟨_, rfl⟩ := here
        rw [next, loaded_insert, if_pos rfl, found]
        exact touch_loaded wellFormed (List.mem_of_find?_eq_some found)
      · rename_i elsewhere
        rw [next, loaded_insert_apart (Bool.eq_false_iff.mpr elsewhere) bridge]
        exact idle

theorem perform_wellFormed (wellFormed : WellFormed (sets.loaded sessionKey))
    (operation : Operation Details) :
    WellFormed ((perform title description sets operation).loaded sessionKey) := by
  rw [perform_loaded title description wellFormed]
  exact wellFormed.after _

/-- The list is the end of all that was ever used, in the order of use. -/
theorem run_loaded (wellFormed : WellFormed (sets.loaded sessionKey))
    (operations : List (Operation Details)) :
    (run title description sets operations).loaded sessionKey =
      (touchAll (sets.loaded sessionKey)
        (uses title description sessionKey sets operations)).rtake bridgeWorkingSetMaxTools := by
  induction operations generalizing sets with
  | nil => exact (RecencyLists.rtake_of_length_le wellFormed.short).symm
  | cons operation operations ih =>
    have later := ih (perform_wellFormed title description wellFormed operation)
    have ends := RecencyLists.rtake_touchAll (RecencyLists.touchAll_nodup wellFormed.nodup
      (usedIn title description sessionKey sets operation)) 19
        (uses title description sessionKey (perform title description sets operation) operations)
    rw [run, List.foldl_cons, uses, RecencyLists.touchAll_append]
    rw [perform_loaded title description wellFormed] at later
    exact later.trans ends.symm

theorem usedIn_length (sessionKey : String) (sets : LazyWorkingSets)
    (operation : Operation Details) :
    (usedIn title description sessionKey sets operation).length ≤ bridgeWorkingSetMaxTools := by
  cases operation with
  | search snapshot router arguments downstream =>
    have capped : (arguments.limit.map (min · bridgeSearchResultMax)).getD 5 ≤
        bridgeWorkingSetMaxTools := by
      cases arguments.limit with
      | none => decide
      | some limit => exact (Nat.min_le_right limit bridgeSearchResultMax).trans (by decide)
    have results : ∀ router clientKey tokens limit,
        (found title description snapshot router clientKey tokens limit).length ≤ limit :=
      fun _ _ _ _ => (List.length_filterMap_le _ _).trans (List.length_take_le _ _)
    unfold usedIn handleSearchTools
    dsimp only
    split
    · split
      · exact Nat.zero_le _
      · split
        · exact Nat.zero_le _
        · split
          · simpa [SearchReply.availableTools] using (results _ _ _ _).trans capped
          · split
            · simpa [SearchReply.availableTools] using (results _ _ _ _).trans capped
            · simpa [SearchReply.availableTools] using (results _ _ _ _).trans capped
    · exact Nat.zero_le _
  | directCall downstream toolName =>
    have single : ∀ name : Option (List Char), name.toList.length ≤ bridgeWorkingSetMaxTools := by
      rintro (_ | name)
      · exact Nat.zero_le _
      · exact Nat.succ_le_succ (Nat.zero_le 19)
    unfold usedIn
    dsimp only
    split
    · exact single _
    · exact Nat.zero_le _

theorem run_concat (sets : LazyWorkingSets) (operations : List (Operation Details))
    (operation : Operation Details) : run title description sets (operations ++ [operation]) =
      perform title description (run title description sets operations) operation :=
  List.foldl_concat ..

/-- Over every run of searches and direct calls: a session's list has no tool twice and no more than
its limit, and holds what the last operation used. It is in the order of the last uses, and what was
used and is not in it was last used before all that is. What an operation leaves in the list and
does not use keeps its order. -/
theorem working_set_kept (sessionKey : String) (operations : List (Operation Details))
    (operation : Operation Details) :
    let sets := run title description [] operations
    let loaded := (perform title description sets operation).loaded sessionKey
    let used := usedIn title description sessionKey sets operation
    let allUses := uses title description sessionKey [] (operations ++ [operation])
    loaded.Nodup ∧ loaded.length ≤ bridgeWorkingSetMaxTools ∧
      (∀ tool ∈ used, tool ∈ loaded) ∧ (∀ tool ∈ loaded, tool ∈ allUses) ∧
      loaded.Pairwise (UsedLater allUses) ∧
      (∀ dropped ∈ allUses, dropped ∉ loaded → ∀ tool ∈ loaded, UsedLater allUses dropped tool) ∧
      loaded.filter (· ∉ used) <:+ (sets.loaded sessionKey).filter (· ∉ used) := by
  intro sets loaded used allUses
  have empty : WellFormed (LazyWorkingSets.loaded [] sessionKey) :=
    ⟨List.nodup_nil, Nat.zero_le _⟩
  have whole : loaded = (touchAll [] allUses).rtake bridgeWorkingSetMaxTools := by
    have all := run_loaded title description empty (operations ++ [operation])
    rw [run_concat] at all
    exact all
  have before : WellFormed (sets.loaded sessionKey) := by
    have all := run_loaded title description empty operations
    rw [show sets = run title description [] operations from rfl, all]
    exact empty.after _
  have step : loaded = (touchAll (sets.loaded sessionKey) used).rtake bridgeWorkingSetMaxTools :=
    perform_loaded title description before operation
  have after : WellFormed loaded := by
    rw [step]
    exact before.after used
  obtain ⟨dropped, parts⟩ := RecencyLists.rtake_suffix bridgeWorkingSetMaxTools (touchAll [] allUses)
  have ordered := RecencyLists.touchAll_ordered allUses
  rw [← parts, ← whole, List.pairwise_append] at ordered
  rw [← whole] at parts
  refine ⟨after.nodup, after.short, ?_, ?_, ordered.2.1, ?_, ?_⟩
  · intro tool member
    rw [step]
    exact RecencyLists.mem_rtake_touchAll before.nodup
      (usedIn_length title description sessionKey sets operation) member
  · intro tool member
    apply RecencyLists.mem_touchAll.mp
    rw [← parts]
    exact List.mem_append_right dropped member
  · intro tool used absent
    have inside := RecencyLists.mem_touchAll.mpr used
    rw [← parts] at inside
    exact ordered.2.2 tool ((List.mem_append.mp inside).resolve_right absent)
  · rw [step]
    exact RecencyLists.rtake_unused before.nodup _ used

end Steps

end Plug.WorkingSets
