import Mathlib.Data.List.Dedup
import Plug.ClientAccess
import Plug.Tables

/-!
# Changed rules

The owner's settings for the clients become the table that requests are checked against. When the
table changes, the clients are told to read their tools again; whether resources and prompts are
to be read again too is told from the servers that the rules of a client name. A client with a
list of what is allowed gets the resources of a server only if the list has the whole server,
and its tools also if the list has these alone; both name the server.
-/

namespace Plug.Access

open Text ToolNaming

structure AllowedTool where
  server : List Char
  tool : List Char
deriving DecidableEq

inductive ToolBlock where
  | of (server tool : List Char)
  | named (name : List Char)
deriving DecidableEq

structure ClientSettings where
  name : Option (List Char)
  place : Option (List Char)
  blockedServers : List (List Char)
  blockedTools : List ToolBlock
  onlyAllowed : Bool
  allowedServers : List (List Char)
  allowedTools : List AllowedTool

def ClientSettings.hasAllowList (settings : ClientSettings) : Bool :=
  settings.onlyAllowed || !settings.allowedServers.isEmpty || !settings.allowedTools.isEmpty

/-- The settings keep the client from something. -/
def ClientSettings.restricts (settings : ClientSettings) : Bool :=
  !settings.blockedServers.isEmpty || !settings.blockedTools.isEmpty || settings.hasAllowList

def ClientSettings.access (settings : ClientSettings) : ClientAccess where
  onlyAllowed := settings.hasAllowList
  allowedServers := settings.allowedServers
  allowedTools := settings.allowedTools.map fun allowed =>
    (allowed.server, toAsciiLowercase allowed.tool)
  blockedServers := settings.blockedServers
  blockedTools := settings.blockedTools.filterMap fun
    | .of server tool => some (server, toAsciiLowercase tool)
    | .named _ => none
  namedTools := settings.blockedTools.filterMap fun
    | .named name => some (toAsciiLowercase name)
    | .of _ _ => none

/-! ### Comparing -/

def notAfter (first second : List Char) : Bool := !decide (second < first)

/-- The names of a set in order. -/
def sortNames (names : List (List Char)) : List (List Char) :=
  names.dedup.insertionSort fun first second => notAfter first second

def sameNames (first second : List (List Char)) : Bool :=
  first.all second.contains && second.all first.contains

/-- Servers are compared as sets, and rules about tools as lists. -/
def ClientAccess.same (access other : ClientAccess) : Bool :=
  sameNames access.blockedServers other.blockedServers &&
    access.blockedTools == other.blockedTools && access.namedTools == other.namedTools &&
    access.onlyAllowed == other.onlyAllowed &&
    sameNames access.allowedServers other.allowedServers &&
    access.allowedTools == other.allowedTools

abbrev AccessTable := List (List Char × ClientAccess)

def sameTable (current next : AccessTable) : Bool :=
  (current.map Prod.fst ++ next.map Prod.fst).all fun key =>
    match current.lookup key, next.lookup key with
    | some access, some other => access.same other
    | none, none => true
    | _, _ => false

def ClientAccess.keepsFromAServer (access : ClientAccess) : Bool :=
  !access.blockedServers.isEmpty || access.onlyAllowed

def ClientAccess.serversInReach (access : ClientAccess) :
    Bool × List (List Char) × List (List Char) :=
  (access.onlyAllowed, sortNames access.blockedServers,
    sortNames (access.allowedServers ++ access.allowedTools.map Prod.fst))

/-- The rules of a client that keep it from a server. -/
def serverRules (table : AccessTable) (key : List Char) : Option ClientAccess :=
  (table.lookup key).filter ClientAccess.keepsFromAServer

def serverBlocks (table : AccessTable) (key : List Char) :
    Option (Bool × List (List Char) × List (List Char)) :=
  (serverRules table key).map ClientAccess.serversInReach

def serversChanged (current next : AccessTable) : Bool :=
  (current.map Prod.fst ++ next.map Prod.fst).any fun key =>
    serverBlocks current key != serverBlocks next key

/-! ### The change -/

inductive ProtocolNotification where
  | toolListChanged
  | resourceListChanged
  | promptListChanged
deriving DecidableEq

def clientAccessTable (clients : List (List Char × ClientSettings)) : AccessTable :=
  (clients.filter fun client => client.2.restricts).map fun (key, settings) =>
    (key, settings.access)

/-- The router with the new rules, and what is published. -/
def ToolRouter.setClientAccess (router : ToolRouter) (clients : List (List Char × ClientSettings)) :
    ToolRouter × List ProtocolNotification :=
  let next := clientAccessTable clients
  if sameTable router.clientAccess next then (router, [])
  else
    ({ router with clientAccess := next },
      .toolListChanged ::
        if serversChanged router.clientAccess next then [.resourceListChanged, .promptListChanged]
        else [])

/-- The rules leave the client what a server has besides tools. -/
def ClientAccess.mayUseAll (access : ClientAccess) (server : List Char) : Bool :=
  !access.keepsFromServer server &&
    (!access.onlyAllowed || access.allowedServers.contains server)

def ToolRouter.clientMayUseAllOfServer (router : ToolRouter) (clientKey : Option (List Char))
    (server : List Char) : Bool :=
  match clientKey with
  | none => true
  | some clientKey => (router.clientAccess.lookup clientKey).all fun access =>
      access.mayUseAll server

/-! ### Sets of names -/

theorem sameNames_iff {first second : List (List Char)} :
    sameNames first second = true ↔ ∀ name, name ∈ first ↔ name ∈ second := by
  simp only [sameNames, Bool.and_eq_true, List.all_eq_true, List.contains_iff_mem]
  constructor
  · rintro ⟨forth, back⟩ name
    exact ⟨forth name, back name⟩
  · intro same
    exact ⟨fun name => (same name).mp, fun name => (same name).mpr⟩

theorem notAfter_iff {first second : List Char} :
    notAfter first second = true ↔ ¬ second < first := by
  simp [notAfter]

theorem sortNames_ordered (names : List (List Char)) :
    (sortNames names).Pairwise fun first second => notAfter first second = true := by
  have total : Std.Total fun first second : List Char => notAfter first second = true :=
    ⟨fun first second => by
      rw [notAfter_iff, notAfter_iff]
      exact List.le_total first second⟩
  have transitive : IsTrans (List Char) fun first second => notAfter first second = true :=
    ⟨fun first second third => by
      rw [notAfter_iff, notAfter_iff, notAfter_iff]
      intro forth further
      exact List.le_trans forth further⟩
  exact List.pairwise_insertionSort _ _

theorem mem_sortNames {names : List (List Char)} {name : List Char} :
    name ∈ sortNames names ↔ name ∈ names := by
  rw [sortNames, List.mem_insertionSort, List.mem_dedup]

/-- Sorted, two sets are equal if they have the same names. -/
theorem sortNames_eq_iff {first second : List (List Char)} :
    sortNames first = sortNames second ↔ ∀ name, name ∈ first ↔ name ∈ second := by
  constructor
  · intro same name
    rw [← mem_sortNames, same, mem_sortNames]
  · intro same
    have sets : first.dedup.Perm second.dedup := by
      apply (List.perm_ext_iff_of_nodup first.nodup_dedup second.nodup_dedup).mpr
      intro name
      rw [List.mem_dedup, List.mem_dedup]
      exact same name
    have sorted : (sortNames first).Perm (sortNames second) :=
      ((List.perm_insertionSort _ _).trans sets).trans (List.perm_insertionSort _ _).symm
    apply sorted.eq_of_pairwise _ (sortNames_ordered first) (sortNames_ordered second)
    intro name other _ _ forth back
    exact List.le_antisymm (notAfter_iff.mp forth) (notAfter_iff.mp back)

/-! ### Rules that stay the same -/

section Same

variable {access other : ClientAccess}

theorem ClientAccess.same_iff : access.same other = true ↔
    (∀ server, server ∈ access.blockedServers ↔ server ∈ other.blockedServers) ∧
      access.blockedTools = other.blockedTools ∧ access.namedTools = other.namedTools ∧
      access.onlyAllowed = other.onlyAllowed ∧
      (∀ server, server ∈ access.allowedServers ↔ server ∈ other.allowedServers) ∧
      access.allowedTools = other.allowedTools := by
  simp only [ClientAccess.same, Bool.and_eq_true, beq_iff_eq, sameNames_iff, and_assoc]

variable {current next : AccessTable}

/-- Under each key there are the same rules, or none. -/
theorem sameTable_cases (same : sameTable current next = true) (key : List Char) :
    (current.lookup key = none ∧ next.lookup key = none) ∨
      ∃ access other, current.lookup key = some access ∧ next.lookup key = some other ∧
        access.same other = true := by
  by_cases listed : key ∈ current.map Prod.fst ++ next.map Prod.fst
  · have here := List.all_eq_true.mp same key listed
    cases first : current.lookup key with
    | none =>
      cases second : next.lookup key with
      | none => exact Or.inl ⟨rfl, rfl⟩
      | some other => simp [first, second] at here
    | some access =>
      cases second : next.lookup key with
      | none => simp [first, second] at here
      | some other =>
        rw [first, second] at here
        exact Or.inr ⟨access, other, rfl, rfl, here⟩
  · rw [List.mem_append, not_or] at listed
    exact Or.inl ⟨Tables.lookup_absent listed.1, Tables.lookup_absent listed.2⟩

end Same

/-! ### What the comparison of servers sees -/

/-- The list of what is allowed names the server, or a tool of it. -/
def ClientAccess.names (access : ClientAccess) (server : List Char) : Prop :=
  server ∈ access.allowedServers ∨ ∃ tool ∈ access.allowedTools, tool.1 = server

/-- The rules name the same servers. -/
def SameReach : Option ClientAccess → Option ClientAccess → Prop
  | none, none => True
  | some access, some other =>
    access.onlyAllowed = other.onlyAllowed ∧
      (∀ server, server ∈ access.blockedServers ↔ server ∈ other.blockedServers) ∧
      ∀ server, access.names server ↔ other.names server
  | _, _ => False

theorem serversInReach_eq_iff {access other : ClientAccess} :
    access.serversInReach = other.serversInReach ↔ SameReach (some access) (some other) := by
  have named : ∀ rules : ClientAccess, ∀ server,
      server ∈ rules.allowedServers ++ rules.allowedTools.map Prod.fst ↔ rules.names server := by
    intro rules server
    rw [List.mem_append, List.mem_map, ClientAccess.names]
  simp only [ClientAccess.serversInReach, Prod.mk.injEq, sortNames_eq_iff, SameReach, named]

theorem serverBlocks_eq_iff {current next : AccessTable} {key : List Char} :
    serverBlocks current key = serverBlocks next key ↔
      SameReach (serverRules current key) (serverRules next key) := by
  unfold serverBlocks
  cases serverRules current key with
  | none =>
    cases serverRules next key with
    | none => simp [SameReach]
    | some other => simp [SameReach]
  | some access =>
    cases serverRules next key with
    | none => simp [SameReach]
    | some other =>
      rw [Option.map_some, Option.map_some, Option.some.injEq]
      exact serversInReach_eq_iff

theorem serversChanged_iff {current next : AccessTable} :
    serversChanged current next = true ↔
      ∃ key, ¬ SameReach (serverRules current key) (serverRules next key) := by
  simp only [serversChanged, List.any_eq_true, bne_iff_ne, ne_eq, serverBlocks_eq_iff]
  constructor
  · rintro ⟨key, _, differs⟩
    exact ⟨key, differs⟩
  · rintro ⟨key, differs⟩
    refine ⟨key, ?_, differs⟩
    -- Under any other key neither table has rules.
    by_contra unlisted
    rw [List.mem_append, not_or] at unlisted
    apply differs
    rw [serverRules, serverRules, Tables.lookup_absent unlisted.1, Tables.lookup_absent unlisted.2]
    trivial

/-! ### What is left of a server -/

def allOfServer (rules : Option ClientAccess) (server : List Char) : Bool :=
  rules.all fun access => access.mayUseAll server

theorem mayUseAll_iff {access : ClientAccess} {server : List Char} :
    access.mayUseAll server = true ↔ server ∉ access.blockedServers ∧
      (access.onlyAllowed = true → server ∈ access.allowedServers) := by
  by_cases blocked : server ∈ access.blockedServers
  · simp [ClientAccess.mayUseAll, ClientAccess.keepsFromServer, blocked]
  · by_cases allowed : server ∈ access.allowedServers
    · simp [ClientAccess.mayUseAll, ClientAccess.keepsFromServer, blocked, allowed]
    · simp [ClientAccess.mayUseAll, ClientAccess.keepsFromServer, blocked, allowed]
      exact Or.inl

/-- Only rules that keep a client from some server take anything of a server. -/
theorem allOfServer_serverRules (table : AccessTable) (key server : List Char) :
    allOfServer (table.lookup key) server = allOfServer (serverRules table key) server := by
  rw [serverRules]
  cases table.lookup key with
  | none => rfl
  | some access =>
    by_cases keeps : access.keepsFromAServer = true
    · simp [Option.filter, keeps]
    · have nothing : access.blockedServers = [] ∧ access.onlyAllowed = false := by
        simpa [ClientAccess.keepsFromAServer] using keeps
      have all : access.mayUseAll server = true := by
        rw [mayUseAll_iff, nothing.1, nothing.2]
        simp
      simp [Option.filter, keeps, allOfServer, all]

theorem lookup_of_serverRules {table : AccessTable} {key : List Char} {access : ClientAccess}
    (found : serverRules table key = some access) : table.lookup key = some access :=
  (Option.filter_eq_some_iff.mp found).1

/-- Under rules that name the same servers, what is left of a server differs where one list of
what is allowed has the server and the other has only tools of it. -/
theorem allOfServer_differs {access other : ClientAccess} {server : List Char}
    (reach : SameReach (some access) (some other)) :
    access.mayUseAll server ≠ other.mayUseAll server ↔
      access.onlyAllowed = true ∧ server ∉ access.blockedServers ∧
        ¬ (server ∈ access.allowedServers ↔ server ∈ other.allowedServers) := by
  obtain ⟨only, blocked, _⟩ := reach
  rw [Ne, Bool.eq_iff_iff, mayUseAll_iff, mayUseAll_iff, ← blocked server, ← only]
  tauto

/-! ### What is announced -/

section Announced

variable (router : ToolRouter) (clients : List (List Char × ClientSettings))

theorem clientMayUseAllOfServer_key (key server : List Char) :
    router.clientMayUseAllOfServer (some key) server =
      allOfServer (router.clientAccess.lookup key) server :=
  rfl

/-- Equal rules are left in place, and a client may use the same as before. -/
theorem setClientAccess_same (same : sameTable router.clientAccess (clientAccessTable clients) = true) :
    router.setClientAccess clients = (router, []) := by
  simp [ToolRouter.setClientAccess, same]

theorem setClientAccess_changed
    (changed : sameTable router.clientAccess (clientAccessTable clients) = false) :
    router.setClientAccess clients =
      ({ router with clientAccess := clientAccessTable clients },
        .toolListChanged ::
          if serversChanged router.clientAccess (clientAccessTable clients) then
            [.resourceListChanged, .promptListChanged]
          else []) := by
  simp [ToolRouter.setClientAccess, changed]

/-- A change of what a client may see is announced, exactly if the rules of some client name
other servers than before, or no list of what is allowed gains or loses a whole server. -/
theorem access_changes_announced :
    (∀ client,
      ((∃ server, router.clientMayUseAllOfServer client server ≠
          (router.setClientAccess clients).1.clientMayUseAllOfServer client server) →
        .resourceListChanged ∈ (router.setClientAccess clients).2 ∧
          .promptListChanged ∈ (router.setClientAccess clients).2) ∧
      ((∃ name, router.clientMayUseTool client name ≠
          (router.setClientAccess clients).1.clientMayUseTool client name) →
        .toolListChanged ∈ (router.setClientAccess clients).2)) ↔
    (∃ key, ¬ SameReach (serverRules router.clientAccess key)
      (serverRules (clientAccessTable clients) key)) ∨
    ∀ key access other, router.clientAccess.lookup key = some access →
      (clientAccessTable clients).lookup key = some other →
      access.onlyAllowed = true → other.onlyAllowed = true →
      ∀ server, server ∉ access.blockedServers → server ∉ other.blockedServers →
        (server ∈ access.allowedServers ↔ server ∈ other.allowedServers) := by
  cases same : sameTable router.clientAccess (clientAccessTable clients) with
  | true =>
    rw [setClientAccess_same router clients same]
    constructor
    · intro _
      refine Or.inr fun key access other found foundNext _ _ server _ _ => ?_
      rcases sameTable_cases same key with ⟨absent, _⟩ | ⟨first, second, here, there, equal⟩
      · rw [found] at absent
        cases absent
      · obtain rfl := Option.some.inj (found.symm.trans here)
        obtain rfl := Option.some.inj (foundNext.symm.trans there)
        obtain ⟨_, _, _, _, allowed, _⟩ := ClientAccess.same_iff.mp equal
        exact allowed server
    · intro _ client
      exact ⟨fun ⟨_, differs⟩ => absurd rfl differs, fun ⟨_, differs⟩ => absurd rfl differs⟩
  | false =>
    rw [setClientAccess_changed router clients same, ← serversChanged_iff]
    cases changed : serversChanged router.clientAccess (clientAccessTable clients) with
    | true => simp
    | false =>
      have reach : ∀ key, SameReach (serverRules router.clientAccess key)
          (serverRules (clientAccessTable clients) key) := by
        intro key
        by_contra differs
        have found := serversChanged_iff.mpr ⟨key, differs⟩
        rw [changed] at found
        cases found
      constructor
      · intro announced
        refine Or.inr fun key access other found foundNext only onlyNext server free freeNext => ?_
        by_contra differs
        have rules : serverRules router.clientAccess key = some access := by
          simp [serverRules, found, Option.filter, ClientAccess.keepsFromAServer, only]
        have rulesNext : serverRules (clientAccessTable clients) key = some other := by
          simp [serverRules, foundNext, Option.filter, ClientAccess.keepsFromAServer, onlyNext]
        have both := reach key
        rw [rules, rulesNext] at both
        have visible := (allOfServer_differs both).mpr ⟨only, free, differs⟩
        have told := (announced (some key)).1 ⟨server, by
          rw [clientMayUseAllOfServer_key, clientMayUseAllOfServer_key, found, foundNext]
          exact visible⟩
        simp at told
      · rintro condition client
        refine ⟨?_, fun _ => List.mem_cons_self ..⟩
        rintro ⟨server, differs⟩
        exfalso
        cases client with
        | none => exact differs rfl
        | some key =>
          rw [clientMayUseAllOfServer_key, clientMayUseAllOfServer_key, allOfServer_serverRules,
            allOfServer_serverRules] at differs
          have both := reach key
          cases rules : serverRules router.clientAccess key with
          | none =>
            cases rulesNext : serverRules (clientAccessTable clients) key with
            | none => exact differs (by rw [rules, rulesNext])
            | some other =>
              rw [rules, rulesNext] at both
              exact both
          | some access =>
            cases rulesNext : serverRules (clientAccessTable clients) key with
            | none =>
              rw [rules, rulesNext] at both
              exact both
            | some other =>
              rw [rules, rulesNext] at both differs
              obtain ⟨only, free, apart⟩ := (allOfServer_differs both).mp differs
              exact apart ((condition.resolve_left Bool.false_ne_true) key access other
                (lookup_of_serverRules rules) (lookup_of_serverRules rulesNext) only
                (both.1 ▸ only) server free fun blocked => free ((both.2.1 server).mpr blocked))

/-- The list of what is allowed has one tool of a server, and then the whole server. -/
def oneTool : ClientSettings where
  name := none
  place := none
  blockedServers := []
  blockedTools := []
  onlyAllowed := false
  allowedServers := []
  allowedTools := [⟨"slack".toList, "send_message".toList⟩]

def wholeServer : ClientSettings where
  name := none
  place := none
  blockedServers := []
  blockedTools := []
  onlyAllowed := false
  allowedServers := ["slack".toList]
  allowedTools := []

def unruled : ToolRouter := { blockedSend with clientAccess := [] }

/-- The client gets the resources of the server, and is told to read its tools again only. -/
theorem whole_server_unannounced :
    let before := (unruled.setClientAccess [("client".toList, oneTool)]).1
    let after := before.setClientAccess [("client".toList, wholeServer)]
    before.clientMayUseAllOfServer (some "client".toList) "slack".toList = false ∧
      after.1.clientMayUseAllOfServer (some "client".toList) "slack".toList = true ∧
      after.2 = [.toolListChanged] := by
  decide +kernel

end Announced

end Plug.Access
