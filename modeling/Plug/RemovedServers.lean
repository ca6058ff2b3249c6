import Plug.OperatorMutations
import Plug.PinnedBlocks

/-!
# Names of removed servers

A client with a list of what is allowed gets what the list names. Removing a server takes its
name off every list, and a list that this empties stays a list. A change keeps the list of a
client and adds no server to it, except for the one it is told to allow; so a server added later
under the name of one that was removed is a new one to every client that had a list.
-/

namespace Plug.Operator

open Text Access

/-! ### What a list names -/

/-- The list lets in the server, or a tool of it. -/
def names (settings : ClientSettings) (server : List Char) : Prop :=
  server ∈ settings.allowedServers ∨ ∃ tool ∈ settings.allowedTools, tool.server = server

/-- The list stays, and names what it named before and what was granted. -/
structure KeepsList (granted : List Char → Prop) (settings next : ClientSettings) : Prop where
  list : settings.hasAllowList = true → next.hasAllowList = true
  named : settings.hasAllowList = true → ∀ server, names next server →
    names settings server ∨ granted server

namespace KeepsList

variable {granted : List Char → Prop} {settings next : ClientSettings}

theorem refl (settings : ClientSettings) : KeepsList granted settings settings :=
  ⟨id, fun _ _ named => Or.inl named⟩

/-- The same list under other labels and blocks. -/
theorem of_same (list : next.hasAllowList = settings.hasAllowList)
    (servers : next.allowedServers = settings.allowedServers)
    (tools : next.allowedTools = settings.allowedTools) : KeepsList granted settings next := by
  constructor
  · intro has
    rw [list]
    exact has
  · intro _ server named
    rw [names, servers, tools] at named
    exact Or.inl named

/-- There was no list to keep. -/
theorem of_none (absent : settings.hasAllowList = false) : KeepsList granted settings next := by
  constructor
  · intro has
    rw [absent] at has
    cases has
  · intro has
    rw [absent] at has
    cases has

/-- Entries were taken off, and the flag says that there is a list. -/
theorem of_fewer (flag : settings.hasAllowList = true → next.onlyAllowed = true)
    (servers : ∀ server ∈ next.allowedServers, server ∈ settings.allowedServers)
    (tools : ∀ tool ∈ next.allowedTools, tool ∈ settings.allowedTools) :
    KeepsList granted settings next := by
  constructor
  · intro has
    simp [ClientSettings.hasAllowList, flag has]
  · rintro _ server (whole | ⟨tool, member, same⟩)
    · exact Or.inl (Or.inl (servers server whole))
    · exact Or.inl (Or.inr ⟨tool, tools tool member, same⟩)

end KeepsList

/-- What is not named by a list is kept from the client, whatever it is called. -/
theorem keepsFrom_unnamed {settings : ClientSettings} (list : settings.hasAllowList = true)
    {server : List Char} (unnamed : ¬ names settings server) (tool : Option (List Char))
    (listed delimiter : List Char) :
    settings.access.keepsFrom server tool listed delimiter = true := by
  simp only [names, not_or, not_exists, not_and] at unnamed
  have whole : settings.allowedServers.contains server = false := by
    simpa using unnamed.1
  have tools : (settings.allowedTools.map fun allowed =>
      (allowed.server, toAsciiLowercase allowed.tool)).any (fun allowed => allowed.1 == server) =
        false := by
    rw [List.any_map, List.any_eq_false]
    intro allowed member
    simpa using unnamed.2 allowed member
  have kept : settings.access.keepsFromServer server = true := by
    simp only [ClientAccess.keepsFromServer, ClientSettings.access, list, whole, tools]
    simp
  unfold ClientAccess.keepsFrom
  rw [if_pos kept]

/-! ### One block -/

theorem mem_sortStrings {names : List (List Char)} {name : List Char} :
    name ∈ sortStrings names ↔ name ∈ names :=
  List.mem_insertionSort _

theorem mem_sortAllowed {tools : List AllowedTool} {tool : AllowedTool} :
    tool ∈ sortAllowed tools ↔ tool ∈ tools :=
  List.mem_insertionSort _

/-- A list that names anything is a list. -/
theorem hasAllowList_of_names {settings : ClientSettings} {server : List Char}
    (named : names settings server) : settings.hasAllowList = true := by
  rcases named with whole | ⟨tool, member, _⟩
  · have nonempty := List.isEmpty_eq_false_iff.mpr (List.ne_nil_of_mem whole)
    simp [ClientSettings.hasAllowList, nonempty]
  · have nonempty := List.isEmpty_eq_false_iff.mpr (List.ne_nil_of_mem member)
    simp [ClientSettings.hasAllowList, nonempty]

/-- The server, or the server of the tool, that a block lets in. -/
def blockGrants (toolBehind : ToolBehind) (kind : ClientBlockKind) (target : List Char)
    (blocked : Bool) (server : List Char) : Bool :=
  blocked &&
    match kind with
    | .allowedServer => target == server
    | .allowedTool => (toolBehind target).any fun route => route.1 == server
    | .server | .tool | .allowList => false

theorem blockServer_keeps (granted : List Char → Prop) (settings : ClientSettings)
    (target : List Char) (blocked : Bool) :
    KeepsList granted settings (blockServer settings target blocked) :=
  .of_same rfl rfl rfl

theorem blockTool_keeps (granted : List Char → Prop) (settings : ClientSettings)
    (target : List Char) (blocked : Bool) (toolBehind : ToolBehind) :
    KeepsList granted settings (blockTool settings target blocked toolBehind) :=
  .of_same rfl rfl rfl

theorem allowServer_keeps (toolBehind : ToolBehind) (settings : ClientSettings)
    (target : List Char) (blocked : Bool) :
    KeepsList (fun server => blockGrants toolBehind .allowedServer target blocked server = true)
      settings (allowServer settings target blocked) := by
  cases blocked with
  | false =>
    refine .of_fewer id ?_ ?_
    · intro server member
      exact List.mem_of_mem_filter member
    · intro tool member
      exact List.mem_of_mem_filter member
  | true =>
    have added : ∀ server, server ∈ (allowServer settings target true).allowedServers ↔
        (server ∈ settings.allowedServers ∧ server ≠ target) ∨ server = target := by
      intro server
      simp [allowServer, mem_sortStrings]
    constructor
    · intro _
      exact hasAllowList_of_names (Or.inl ((added target).mpr (Or.inr rfl)))
    · rintro _ server (whole | byTool)
      · rcases (added server).mp whole with ⟨before, _⟩ | same
        · exact Or.inl (Or.inl before)
        · exact Or.inr (by simp [blockGrants, same])
      · exact Or.inl (Or.inr byTool)

theorem allowTool_keeps {toolBehind : ToolBehind} {settings next : ClientSettings}
    {target : List Char} {blocked : Bool}
    (allowed : allowTool settings target blocked toolBehind = .ok next) :
    KeepsList (fun server => blockGrants toolBehind .allowedTool target blocked server = true)
      settings next := by
  unfold allowTool at allowed
  dsimp only at allowed
  split at allowed
  · cases allowed
  · rename_i server tool found
    cases blocked with
    | false =>
      cases allowed
      refine .of_fewer id ?_ ?_
      · intro server member
        exact member
      · intro tool member
        exact List.mem_of_mem_filter member
    | true =>
      cases allowed
      have behind : toolBehind target = some (server, tool) := by
        have unsplit : ((splitOnce ['/'] target).filter fun _ => !true) = none := by
          cases splitOnce ['/'] target with
          | none => rfl
          | some parts => rfl
        rw [unsplit, Option.or_none] at found
        exact found
      have added : ∀ other : AllowedTool,
          other ∈ sortAllowed (settings.allowedTools.filter (· ≠ ⟨server, tool⟩) ++
            [⟨server, tool⟩]) ↔
          (other ∈ settings.allowedTools ∧ other ≠ ⟨server, tool⟩) ∨ other = ⟨server, tool⟩ := by
        intro other
        simp [mem_sortAllowed]
      constructor
      · intro _
        exact hasAllowList_of_names (Or.inr ⟨⟨server, tool⟩, (added _).mpr (Or.inr rfl), rfl⟩)
      · rintro _ other (whole | ⟨item, member, same⟩)
        · exact Or.inl (Or.inl whole)
        · rcases (added item).mp member with ⟨before, _⟩ | equal
          · exact Or.inl (Or.inr ⟨item, before, same⟩)
          · have own : server = other := by rw [← same, equal]
            exact Or.inr (by simp [blockGrants, behind, own])

theorem allowList_keeps_started (granted : List Char → Prop) (servers : List (List Char))
    (settings : ClientSettings) : KeepsList granted settings (allowList servers settings true) := by
  cases has : settings.hasAllowList with
  | true =>
    have kept : allowList servers settings true = { settings with onlyAllowed := true } := by
      simp [allowList, has]
    rw [kept]
    exact .of_fewer (fun _ => rfl) (fun _ member => member) (fun _ member => member)
  | false => exact .of_none has

/-- A block keeps the list, unless it ends it. -/
theorem changeSettings_keeps {toolBehind : ToolBehind} {servers : List (List Char)}
    {settings next : ClientSettings} {kind : ClientBlockKind} {target : List Char} {blocked : Bool}
    (changed : changeSettings servers settings kind target blocked toolBehind = .ok next)
    (unended : ¬ (kind = .allowList ∧ blocked = false)) :
    KeepsList (fun server => blockGrants toolBehind kind target blocked server = true)
      settings next := by
  cases kind with
  | server =>
    cases changed
    exact blockServer_keeps _ settings target blocked
  | tool =>
    cases changed
    exact blockTool_keeps _ settings target blocked toolBehind
  | allowedServer =>
    cases changed
    exact allowServer_keeps toolBehind settings target blocked
  | allowedTool => exact allowTool_keeps changed
  | allowList =>
    cases changed
    cases blocked with
    | true => exact allowList_keeps_started _ servers settings
    | false => exact absurd ⟨rfl, rfl⟩ unended

/-! ### Settings of one client -/

def OperatorConfig.settings (config : OperatorConfig) (key : List Char) : ClientSettings :=
  (config.clients.lookup key).getD .unset

section Lookups

variable {Value : Type}

theorem lookup_without {table : List (List Char × Value)} {key other : List Char} :
    (without table key).lookup other = if other = key then none else table.lookup other := by
  induction table with
  | nil => simp [without]
  | cons item rest ih =>
    obtain ⟨name, value⟩ := item
    have later : without ((name, value) :: rest) key =
        if name = key then without rest key else (name, value) :: without rest key := by
      by_cases own : name = key
      · simp [without, own]
      · simp [without, own]
    rw [later, List.lookup_cons]
    by_cases own : name = key
    · rw [if_pos own, ih]
      by_cases same : other = key
      · rw [if_pos same, if_pos same]
      · have apart : (other == name) = false := beq_false_of_ne (fun equal => same (equal.trans own))
        rw [if_neg same, if_neg same, apart]
    · rw [if_neg own, List.lookup_cons, ih]
      by_cases same : other = key
      · have apart : (other == name) = false := beq_false_of_ne (fun equal => own (equal ▸ same))
        rw [if_pos same, if_pos same, apart]
      · rw [if_neg same, if_neg same]

theorem lookup_replaced {table : List (List Char × Value)} {key other : List Char} {value : Value} :
    ((key, value) :: without table key).lookup other =
      if other = key then some value else table.lookup other := by
  rw [List.lookup_cons, lookup_without]
  by_cases same : other = key
  · simp [same]
  · simp [same, beq_false_of_ne same]

end Lookups

theorem settings_dropClient (config : OperatorConfig) (key other : List Char) :
    (config.dropClient key).settings other =
      if other = key then .unset else config.settings other := by
  simp only [OperatorConfig.settings, OperatorConfig.dropClient, lookup_without]
  split
  · rfl
  · rfl

theorem settings_insertClient (config : OperatorConfig) (key other : List Char)
    (settings : ClientSettings) :
    (config.insertClient key settings).settings other =
      if other = key then settings else config.settings other := by
  simp only [OperatorConfig.settings, OperatorConfig.insertClient, lookup_replaced]
  split
  · rfl
  · rfl

theorem settings_mapClients (config : OperatorConfig) (change : ClientSettings → ClientSettings)
    (unset : change .unset = .unset) (key : List Char) :
    (config.mapClients change).settings key = change (config.settings key) := by
  simp only [OperatorConfig.settings, OperatorConfig.mapClients, lookup_map_second]
  cases config.clients.lookup key with
  | none => exact unset.symm
  | some settings => rfl

theorem settings_empty {settings : ClientSettings} (empty : settings.isEmpty = true) :
    settings.hasAllowList = false := by
  simp only [ClientSettings.isEmpty, Bool.and_eq_true, Bool.not_eq_true'] at empty
  exact empty.2

/-- Empty settings have no list that a client could lose with them. -/
theorem settings_put_keeps {granted : List Char → Prop} (config : ClientConfig) (key : List Char)
    (settings next : ClientSettings) (kept : KeepsList granted settings next) :
    KeepsList granted settings (((config.put key next).clients.lookup key).getD .unset) := by
  unfold ClientConfig.put
  cases empty : next.isEmpty with
  | false => simpa using kept
  | true =>
    refine .of_none (Bool.eq_false_iff.mpr ?_)
    intro has
    have still := kept.list has
    rw [settings_empty empty] at still
    cases still

theorem lookup_put_other (config : ClientConfig) {key other : List Char} (apart : other ≠ key)
    (settings : ClientSettings) :
    (config.put key settings).clients.lookup other = config.clients.lookup other := by
  have rest : (config.clients.filter fun item => item.1 ≠ key).lookup other =
      config.clients.lookup other := by
    rw [show (config.clients.filter fun item => item.1 ≠ key) = without config.clients key from rfl,
      lookup_without, if_neg apart]
  unfold ClientConfig.put
  cases settings.isEmpty with
  | true => exact rest
  | false =>
    rw [if_neg (by simp), List.lookup_cons, beq_false_of_ne apart]
    exact rest

theorem settings_putClient_self {granted : List Char → Prop} {config : OperatorConfig}
    {key : List Char} {next : ClientSettings} (kept : KeepsList granted (config.settings key) next) :
    KeepsList granted (config.settings key)
      ((config.withClients (config.clientConfig.put key next)).settings key) :=
  settings_put_keeps config.clientConfig key (config.settings key) next kept

theorem settings_putClient_other (config : OperatorConfig) {key other : List Char}
    (apart : other ≠ key) (next : ClientSettings) :
    (config.withClients (config.clientConfig.put key next)).settings other =
      config.settings other :=
  congrArg (fun found => found.getD ClientSettings.unset)
    (lookup_put_other config.clientConfig apart next)

/-! ### One change -/

/-- The change lets the client have the server, or a tool of it. -/
def OperatorMutation.grants (mutation : OperatorMutation) (toolBehind : ToolBehind)
    (key server : List Char) : Bool :=
  match mutation with
  | .setClientBlock other kind target blocked =>
    trim other == key && blockGrants toolBehind kind (trim target) blocked server
  | _ => false

/-- The change ends the client's list, or puts other settings in place of it. -/
def OperatorMutation.ends (mutation : OperatorMutation) (key : List Char) : Bool :=
  match mutation with
  | .setClientBlock other kind _ blocked => trim other == key && kind == .allowList && !blocked
  | .moveClientSettings source target => trim source == key || trim target == key
  | _ => false

theorem forgetServer_keeps (granted : List Char → Prop) (settings : ClientSettings)
    (name : List Char) : KeepsList granted settings (ClientSettings.forgetServer settings name) := by
  refine .of_fewer id ?_ ?_
  · intro server member
    exact List.mem_of_mem_filter member
  · intro tool member
    exact List.mem_of_mem_filter member

theorem names_forgetServer {settings : ClientSettings} {name : List Char} :
    ¬ names (ClientSettings.forgetServer settings name) name := by
  rintro (whole | ⟨tool, member, same⟩)
  · exact absurd rfl (of_decide_eq_true (List.mem_filter.mp whole).2)
  · exact absurd same (of_decide_eq_true (List.mem_filter.mp member).2)

theorem labelClient_keeps {granted : List Char → Prop} {config next : OperatorConfig}
    {key text other : List Char} {label : ClientLabel}
    (labelled : labelClient config key text label = .ok next) :
    KeepsList granted (config.settings other) (next.settings other) := by
  have relabelled : ∀ settings text,
      KeepsList granted settings (ClientSettings.setLabel settings label text) := by
    intro settings text
    cases label with
    | name => exact .of_same rfl rfl rfl
    | place => exact .of_same rfl rfl rfl
  unfold labelClient at labelled
  dsimp only at labelled
  split at labelled
  · cases labelled
  split at labelled
  · cases labelled
  split at labelled
  · cases labelled
  split at labelled
  · split at labelled
    · cases labelled
      exact .refl _
    · rename_i settings found
      cases labelled
      have stored : config.settings (trim key) = settings := by
        rw [OperatorConfig.settings, found, Option.getD_some]
      split
      · rename_i empty
        rw [settings_dropClient]
        split
        · rename_i same
          rw [same, stored]
          refine .of_none (Bool.eq_false_iff.mpr ?_)
          intro has
          have still := (relabelled settings none).list has
          rw [settings_empty empty] at still
          cases still
        · exact .refl _
      · rw [settings_insertClient]
        split
        · rename_i same
          rw [same, stored]
          exact relabelled settings none
        · exact .refl _
  · cases labelled
    rw [settings_insertClient]
    split
    · rename_i same
      rw [same]
      exact relabelled _ _
    · exact .refl _

theorem pin_keeps (granted : List Char → Prop) (config : OperatorConfig) (toolBehind : ToolBehind)
    (key : List Char) :
    KeepsList granted (config.settings key)
      ((config.withClients (config.clientConfig.pinToolBlocks toolBehind)).settings key) := by
  have pinned : (config.withClients (config.clientConfig.pinToolBlocks toolBehind)).settings key =
      (config.settings key).pin toolBehind :=
    settings_pinToolBlocks config.clientConfig toolBehind key
  rw [pinned]
  exact .of_same rfl rfl rfl

/-- A change keeps the list of a client and grants nothing else, unless it ends the list. -/
theorem mutate_keeps {validate : Validate} {toolBehind : ToolBehind} {config next : OperatorConfig}
    {mutation : OperatorMutation} {result : OperatorMutationResult} {key : List Char}
    (mutated : mutate validate toolBehind config mutation = .ok (next, result))
    (unended : mutation.ends key = false) :
    KeepsList (fun server => mutation.grants toolBehind key server = true) (config.settings key)
      (next.settings key) := by
  cases mutation with
  | addServer name server =>
    simp only [mutate] at mutated
    split at mutated
    · cases mutated
    · cases mutated
      exact .refl _
  | updateServer name server =>
    simp only [mutate] at mutated
    split at mutated
    · cases mutated
    · cases mutated
      exact .refl _
  | removeServer name =>
    simp only [mutate] at mutated
    split at mutated
    · cases mutated
    · cases mutated
      rw [settings_mapClients _ _ rfl]
      exact forgetServer_keeps _ _ name
  | addAccount server account =>
    obtain ⟨copy, _, same⟩ := map_eq_ok mutated
    cases same
    exact .refl _
  | setServerEnabled name enabled =>
    simp only [mutate] at mutated
    split at mutated
    · cases mutated
    · cases mutated
      exact .refl _
  | setToolEnabled tool enabled =>
    obtain ⟨disabled, _, same⟩ := map_eq_ok mutated
    cases same
    exact .refl _
  | renameClient other name =>
    obtain ⟨changed, labelled, same⟩ := map_eq_ok mutated
    cases same
    exact labelClient_keeps labelled
  | setClientPlace other place =>
    obtain ⟨changed, labelled, same⟩ := map_eq_ok mutated
    cases same
    exact labelClient_keeps labelled
  | moveClientSettings source target =>
    obtain ⟨changed, moved, same⟩ := map_eq_ok mutated
    cases same
    simp only [OperatorMutation.ends, Bool.or_eq_false_iff, beq_eq_false_iff_ne] at unended
    have fromOther : key ≠ trim source := fun equal => unended.1 equal.symm
    have toOther : key ≠ trim target := fun equal => unended.2 equal.symm
    unfold moveClientSettings at moved
    dsimp only at moved
    split at moved
    · cases moved
    split at moved
    · cases moved
    split at moved
    · cases moved
      rw [settings_insertClient, if_neg toOther, settings_dropClient, if_neg fromOther]
      exact .refl _
    · cases moved
      rw [settings_dropClient, if_neg toOther]
      exact .refl _
  | setClientBlock other kind target blocked =>
    obtain ⟨changed, set, same⟩ := map_eq_ok mutated
    cases same
    unfold setClientBlock at set
    dsimp only at set
    split at set
    · cases set
    split at set
    · cases set
    split at set
    · cases set
    obtain ⟨settings, chosen, put⟩ := map_eq_ok set
    subst put
    by_cases own : key = trim other
    · have kept : KeepsList (fun server => blockGrants toolBehind kind (trim target) blocked server =
          true) (config.settings key) settings := by
        refine changeSettings_keeps (own ▸ chosen) ?_
        rintro ⟨rfl, rfl⟩
        simp [OperatorMutation.ends, own] at unended
      rw [← own]
      have still := settings_putClient_self kept
      refine ⟨still.list, fun has server named => (still.named has server named).imp id ?_⟩
      intro granted
      simp [OperatorMutation.grants, own, granted]
    · rw [settings_putClient_other config own]
      exact .refl _
  | pinToolBlocks =>
    cases mutated
    exact .refl _
  | addWatch watch =>
    simp only [mutate] at mutated
    split at mutated
    · cases mutated
      exact .refl _
    · cases mutated
  | removeWatch event =>
    simp only [mutate] at mutated
    split at mutated
    · cases mutated
    · cases mutated
      exact .refl _

theorem removeServer_forgets {validate : Validate} {toolBehind : ToolBehind}
    {config next : OperatorConfig} {name : List Char} {result : OperatorMutationResult}
    (mutated : mutate validate toolBehind config (.removeServer name) = .ok (next, result))
    (key : List Char) : ¬ names (next.settings key) name := by
  simp only [mutate] at mutated
  split at mutated
  · cases mutated
  · cases mutated
    rw [settings_mapClients _ _ rfl]
    exact names_forgetServer

/-! ### Runs of changes -/

structure Change where
  mutation : OperatorMutation
  toolBehind : ToolBehind
  saving : Saving

variable {Content : Type} (format : ConfigFormat Content) (validate : Validate)

/-- The file after a change. -/
def change (file : Option Content) (asked : Change) : Option Content :=
  (applyOperatorMutationKnowing format validate file asked.mutation asked.toolBehind
    asked.saving).1

def changeAll (file : Option Content) (asked : List Change) : Option Content :=
  asked.foldl (change format validate) file

/-- The file stays as it is, or what the change makes of its configuration replaces it. -/
theorem change_cases (file : Option Content) (asked : Change) :
    change format validate file asked = file ∨
      ∃ loaded next result, format.load file = .ok loaded ∧
        mutate validate asked.toolBehind
          (loaded.withClients (loaded.clientConfig.pinToolBlocks asked.toolBehind)) asked.mutation =
            .ok (next, result) ∧
        change format validate file asked = some (format.render next) := by
  unfold change applyOperatorMutationKnowing
  cases loaded : format.load file with
  | error error => exact Or.inl rfl
  | ok config =>
    dsimp only
    split
    · exact Or.inl rfl
    · rename_i next result mutated
      unfold persistConfigAtomic
      split
      · exact Or.inl rfl
      · cases asked.saving with
        | failed error => exact Or.inl rfl
        | unconfirmed error => exact Or.inr ⟨config, next, result, rfl, mutated, rfl⟩
        | saved => exact Or.inr ⟨config, next, result, rfl, mutated, rfl⟩

/-- The client has a list, which does not name the server. -/
def LeftOut (key server : List Char) (config : OperatorConfig) : Prop :=
  (config.settings key).hasAllowList = true ∧ ¬ names (config.settings key) server

theorem KeepsList.trans {granted : List Char → Prop} {first second third : ClientSettings}
    (before : KeepsList (fun _ => False) first second) (after : KeepsList granted second third) :
    KeepsList granted first third := by
  constructor
  · intro has
    exact after.list (before.list has)
  · intro has server named
    rcases after.named (before.list has) server named with between | given
    · exact (before.named has server between).imp id False.elim
    · exact Or.inr given

/-- What a change saves keeps the list of a client, unless the change ends it. -/
theorem change_keeps {file : Option Content} {asked : Change} {before after : OperatorConfig}
    {key : List Char} (loaded : format.load file = .ok before)
    (reloaded : format.load (change format validate file asked) = .ok after)
    (unended : asked.mutation.ends key = false) :
    KeepsList (fun server => asked.mutation.grants asked.toolBehind key server = true)
      (before.settings key) (after.settings key) := by
  rcases change_cases format validate file asked with same |
      ⟨config, next, result, read, mutated, replaced⟩
  · rw [same, loaded] at reloaded
    cases reloaded
    exact .refl _
  · rw [loaded] at read
    cases read
    rw [replaced, format.load_render] at reloaded
    cases reloaded
    exact (pin_keeps _ before asked.toolBehind key).trans (mutate_keeps mutated unended)

/-- A file that was read can be read after a change. -/
theorem load_change {file : Option Content} {before : OperatorConfig}
    (loaded : format.load file = .ok before) (asked : Change) :
    ∃ after, format.load (change format validate file asked) = .ok after := by
  rcases change_cases format validate file asked with same | ⟨_, next, _, _, _, replaced⟩
  · exact ⟨before, by rw [same, loaded]⟩
  · exact ⟨next, by rw [replaced, format.load_render]⟩

/-- A client with a list keeps having one over any changes that do not end it. -/
theorem changes_keep_list {key : List Char} (asked : List Change) {file : Option Content}
    {before after : OperatorConfig} (loaded : format.load file = .ok before)
    (reloaded : format.load (changeAll format validate file asked) = .ok after)
    (unended : ∀ change ∈ asked, change.mutation.ends key = false)
    (has : (before.settings key).hasAllowList = true) :
    (after.settings key).hasAllowList = true := by
  induction asked generalizing file before with
  | nil =>
    rw [changeAll, List.foldl_nil, loaded] at reloaded
    cases reloaded
    exact has
  | cons first rest ih =>
    obtain ⟨between, read⟩ := load_change format validate loaded first
    have kept := change_keeps format validate loaded read (unended first List.mem_cons_self)
    exact ih read reloaded
      (fun change member => unended change (List.mem_cons_of_mem first member)) (kept.list has)

/-- A server that a list leaves out stays left out over any changes that neither grant it nor end
the list. -/
theorem changes_leave_out {key server : List Char} (asked : List Change) {file : Option Content}
    {before after : OperatorConfig} (loaded : format.load file = .ok before)
    (reloaded : format.load (changeAll format validate file asked) = .ok after)
    (unlifted : ∀ change ∈ asked, change.mutation.ends key = false ∧
      change.mutation.grants change.toolBehind key server = false)
    (out : LeftOut key server before) : LeftOut key server after := by
  induction asked generalizing file before with
  | nil =>
    rw [changeAll, List.foldl_nil, loaded] at reloaded
    cases reloaded
    exact out
  | cons first rest ih =>
    obtain ⟨between, read⟩ := load_change format validate loaded first
    obtain ⟨unended, ungranted⟩ := unlifted first List.mem_cons_self
    have kept := change_keeps format validate loaded read unended
    have still : LeftOut key server between := by
      refine ⟨kept.list out.1, ?_⟩
      intro named
      rcases kept.named out.1 server named with before | granted
      · exact out.2 before
      · rw [ungranted] at granted
        cases granted
    exact ih read reloaded
      (fun change member => unlifted change (List.mem_cons_of_mem first member)) still

theorem leftOut_kept {key server : List Char} {config : OperatorConfig}
    (out : LeftOut key server config) (tool : Option (List Char)) (listed delimiter : List Char) :
    keptFrom config.clients key server tool listed delimiter = true := by
  have rules := keptFrom_settings config.clientConfig key server tool listed delimiter
  have kept := keepsFrom_unnamed out.1 out.2 tool listed delimiter
  exact rules.trans kept

/-! ### Fixed inputs -/

/-- The configuration itself in place of its text. -/
def plainFormat : ConfigFormat OperatorConfig where
  load := fun
    | some config => .ok config
    | none => .ok ⟨[], noServers, [], noClients, [], []⟩
  render := id
  load_render := fun _ => rfl

def echoServer : Server where
  config :=
    { command := some "echo", args := [], env := [], enabled := true, transport := .stdio,
      protocolMode := .legacy, url := none, authToken := none, auth := none,
      oauthClientId := none, oauthScopes := none, timeoutSecs := 30, callTimeoutSecs := 300,
      maxConcurrent := 1, healthCheckIntervalSecs := 60, circuitBreakerEnabled := true,
      enrichment := false, toolRenames := [], toolGroups := [], sandbox := none, spec := none,
      operations := [], tokenIn := none }
  envDistinct := by simp

def mail : List Char := "mail".toList

def desk : List Char := "desk".toList

/-- One server, and one client that is allowed it. -/
def mailOnly : OperatorConfig where
  servers := [(mail, echoServer)]
  serversDistinct := by simp
  clients := [(desk, { ClientSettings.unset with allowedServers := [mail] })]
  clientsDistinct := by simp
  disabledTools := []
  watch := []

/-- A change that is saved, with no tool listed. -/
def savedChange (mutation : OperatorMutation) : Change := ⟨mutation, fun _ => none, .saved⟩

def changedFrom (config : OperatorConfig) (asked : List OperatorMutation) :
    Option OperatorConfig :=
  (plainFormat.load
    (changeAll plainFormat (fun _ => []) (some config) (asked.map savedChange))).toOption

/-- A client whose list is ended between gets a server that is added later under the name. -/
theorem ended_list_lets_in :
    (mailOnly.settings desk).hasAllowList = true ∧
      (changedFrom mailOnly [.removeServer mail]).map
        (fun config => config.servers.map Prod.fst) = some [] ∧
      [OperatorMutation.setClientBlock desk .allowList desk false,
        .addServer mail echoServer].all
        (fun mutation => !mutation.grants (fun _ => none) desk mail) = true ∧
      (changedFrom mailOnly [.removeServer mail, .setClientBlock desk .allowList desk false,
        .addServer mail echoServer]).map
        (fun config => keptFrom config.clients desk mail none mail "__".toList) = some false := by
  decide

/-- Over any changes by the operator, a client that had a list of what is allowed when a server
was removed gets nothing of a server under that name, unless a change in between allows it the
server or a tool of it, ends its list or puts other settings in place of its own. And a client
with a list keeps having one until a change ends it or replaces its settings. -/
theorem removed_name_carries_nothing :
    (∀ (earlier later : List Change) (removal : Change) (start : Option Content)
        (key server : List Char) (before after : OperatorConfig),
      removal.mutation = .removeServer server →
      format.load (changeAll format validate start earlier) = .ok before →
      (before.settings key).hasAllowList = true →
      changeAll format validate start (earlier ++ [removal]) ≠
        changeAll format validate start earlier →
      (∀ change ∈ later, change.mutation.ends key = false ∧
        change.mutation.grants change.toolBehind key server = false) →
      format.load (changeAll format validate start (earlier ++ removal :: later)) = .ok after →
      ∀ tool listed delimiter,
        keptFrom after.clients key server tool listed delimiter = true) ∧
    (∀ (asked : List Change) (start : Option Content) (key : List Char)
        (before after : OperatorConfig),
      format.load start = .ok before → (before.settings key).hasAllowList = true →
      (∀ change ∈ asked, change.mutation.ends key = false) →
      format.load (changeAll format validate start asked) = .ok after →
      (after.settings key).hasAllowList = true) := by
  constructor
  · intro earlier later removal start key server before after isRemoval loaded has removed unlifted
      reloaded
    have split : changeAll format validate start (earlier ++ removal :: later) =
        changeAll format validate
          (change format validate (changeAll format validate start earlier) removal) later := by
      rw [changeAll, List.foldl_append, List.foldl_cons]
      rfl
    have single : changeAll format validate start (earlier ++ [removal]) =
        change format validate (changeAll format validate start earlier) removal := by
      rw [changeAll, List.foldl_append, List.foldl_cons, List.foldl_nil]
      rfl
    rw [single] at removed
    rw [split] at reloaded
    rcases change_cases format validate (changeAll format validate start earlier) removal with same |
        ⟨config, next, result, read, mutated, replaced⟩
    · exact absurd same removed
    · rw [loaded] at read
      cases read
      rw [isRemoval] at mutated
      have kept : KeepsList (fun _ => False) (before.settings key)
          ((before.withClients (before.clientConfig.pinToolBlocks removal.toolBehind)).settings
            key) := pin_keeps _ before removal.toolBehind key
      have out : LeftOut key server next :=
        ⟨(mutate_keeps mutated rfl).list (kept.list has), removeServer_forgets mutated key⟩
      have reads : format.load
          (change format validate (changeAll format validate start earlier) removal) = .ok next := by
        rw [replaced, format.load_render]
      exact leftOut_kept (changes_leave_out format validate later reads reloaded unlifted out)
  · intro asked start key before after loaded has unended reloaded
    exact changes_keep_list format validate asked loaded reloaded unended has

/-- The list stays when it is emptied, and the server that is added under the name is kept from
the client. -/
theorem removed_name_carries_nothing_mail :
    (∀ after, plainFormat.load (changeAll plainFormat (fun _ => []) (some mailOnly)
        ([] ++ savedChange (.removeServer mail) :: [savedChange (.addServer mail echoServer)])) =
          .ok after →
      keptFrom after.clients desk mail none mail "__".toList = true) ∧
    ∀ after, plainFormat.load (changeAll plainFormat (fun _ => []) (some mailOnly)
        [savedChange (.removeServer mail)]) = .ok after →
      (after.settings desk).hasAllowList = true := by
  obtain ⟨carries, keeps⟩ := removed_name_carries_nothing plainFormat fun _ => []
  constructor
  · intro after loaded
    refine carries [] [savedChange (.addServer mail echoServer)] (savedChange (.removeServer mail))
      (some mailOnly) desk mail mailOnly after rfl rfl (by decide) ?_ ?_ loaded none mail _
    · intro same
      have lengths := congrArg (Option.map fun config => config.servers.length) same
      exact absurd lengths (by decide)
    · intro change member
      rw [List.mem_singleton.mp member]
      decide
  · intro after loaded
    exact keeps [savedChange (.removeServer mail)] (some mailOnly) desk mailOnly after rfl
      (by decide) (by simp [savedChange, OperatorMutation.ends]) loaded

end Plug.Operator
