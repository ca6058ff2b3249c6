import Plug.BlockEffects
import Plug.TextSearch

/-!
# Blocks stored by server and tool

A block that was written under a listed name is stored by the server and the server's own name of
the tool that is listed so. A rule over listed names reaches every tool that has such a spelling,
and the stored one reaches the tools of one server whose own name matches.
-/

namespace Plug.Access

open Text ToolNaming

/-! ### Plain names -/

/-- A name without a star matches the names that fold like it. -/
theorem isDisabledTool_plain {name : List Char} (plain : '*' ∉ name) (tool : List Char) :
    isDisabledTool [toAsciiLowercase name] tool =
      decide (toAsciiLowercase name = toAsciiLowercase tool) := by
  have noStar : '*' ∉ toAsciiLowercase name := by
    intro star
    obtain ⟨character, member, same⟩ := List.mem_map.mp star
    exact plain (Text.of_toLower rfl same ▸ member)
  rw [isDisabledTool_folded, wildcardMatch_plain noStar]

/-! ### Pinning -/

/-- The name is that of the tool at `route`, and a block of it is stored so. -/
def PinsTo (toolBehind : ToolBehind) (name : List Char) (route : Route) : Prop :=
  '*' ∉ name ∧ toolBehind name = some route

section Pinning

variable {toolBehind : ToolBehind} {settings : ClientSettings}
  {server tool listed delimiter : List Char}

theorem pinned_cases (toolBehind : ToolBehind) (block : ToolBlock) :
    pinned block toolBehind = none ∨
      ∃ name route, block = .named name ∧ PinsTo toolBehind name route ∧
        pinned block toolBehind = some (.of route.1 route.2) := by
  cases block with
  | of server tool => exact Or.inl rfl
  | named name =>
    by_cases star : '*' ∈ name
    · exact Or.inl (by simp [pinned, star])
    · cases behind : toolBehind name with
      | none => exact Or.inl (by simp [pinned, behind])
      | some route => exact Or.inr ⟨name, route, rfl, ⟨star, behind⟩, by simp [pinned, star, behind]⟩

theorem pinned_named {name : List Char} {route : Route} (pins : PinsTo toolBehind name route) :
    pinned (.named name) toolBehind = some (.of route.1 route.2) := by
  simp [pinned, pins.1, pins.2]

/-- Sorting and leaving out doubles does not change which tools are reached. -/
theorem pin_any (reached : ToolBlock → Bool) :
    (settings.pin toolBehind).blockedTools.any reached =
      settings.blockedTools.any fun block => reached ((pinned block toolBehind).getD block) := by
  rw [Bool.eq_iff_iff, List.any_eq_true, List.any_eq_true]
  have members : ∀ block, block ∈ (settings.pin toolBehind).blockedTools ↔
      block ∈ settings.blockedTools.map fun block => (pinned block toolBehind).getD block := by
    intro block
    rw [ClientSettings.pin]
    dsimp only
    split
    · rw [sortBlocks, List.mem_insertionSort, List.mem_dedup]
    · exact Iff.rfl
  constructor
  · rintro ⟨block, present, reaches⟩
    obtain ⟨before, member, rfl⟩ := List.mem_map.mp ((members block).mp present)
    exact ⟨before, member, reaches⟩
  · rintro ⟨before, member, reaches⟩
    exact ⟨_, (members _).mpr (List.mem_map_of_mem member), reaches⟩

/-- The settings without the blocks that pinning changes. -/
def ClientSettings.unpinned (settings : ClientSettings) (toolBehind : ToolBehind) :
    ClientSettings :=
  { settings with
    blockedTools := settings.blockedTools.filter fun block => (pinned block toolBehind).isNone }

/-- One of the names that are stored by server and tool folds like a spelling of the tool's. -/
def NameReaches (toolBehind : ToolBehind) (settings : ClientSettings)
    (server tool listed delimiter : List Char) : Prop :=
  ∃ name route, .named name ∈ settings.blockedTools ∧ PinsTo toolBehind name route ∧
    ∃ spelling ∈ spellings server (some tool) listed delimiter,
      toAsciiLowercase name = toAsciiLowercase spelling

/-- One of the tools that are listed under these names is the tool, or has a name of its own that
reaches the tool's as a pattern. -/
def RouteReaches (toolBehind : ToolBehind) (settings : ClientSettings)
    (server tool : List Char) : Prop :=
  ∃ name route, .named name ∈ settings.blockedTools ∧ PinsTo toolBehind name route ∧
    route.1 = server ∧ isDisabledTool [toAsciiLowercase route.2] tool = true

theorem refused_before (toolBehind : ToolBehind) (settings : ClientSettings) :
    (settings.blockedTools.any fun block => block.reaches server tool listed delimiter) = true ↔
      ((settings.unpinned toolBehind).blockedTools.any fun block =>
          block.reaches server tool listed delimiter) = true ∨
        NameReaches toolBehind settings server tool listed delimiter := by
  simp only [List.any_eq_true, ClientSettings.unpinned, List.mem_filter]
  constructor
  · rintro ⟨block, member, reaches⟩
    rcases pinned_cases toolBehind block with stays | ⟨name, route, rfl, pins, _⟩
    · exact Or.inl ⟨block, ⟨member, by rw [stays]; rfl⟩, reaches⟩
    · obtain ⟨spelling, present, matching⟩ := List.any_eq_true.mp reaches
      rw [isDisabledTool_plain pins.1, decide_eq_true_eq] at matching
      exact Or.inr ⟨name, route, member, pins, spelling, present, matching⟩
  · rintro (⟨block, ⟨member, _⟩, reaches⟩ | ⟨name, route, member, pins, spelling, present, same⟩)
    · exact ⟨block, member, reaches⟩
    · refine ⟨.named name, member, List.any_eq_true.mpr ⟨spelling, present, ?_⟩⟩
      rw [isDisabledTool_plain pins.1, decide_eq_true_eq]
      exact same

theorem refused_after :
    ((settings.pin toolBehind).blockedTools.any fun block =>
        block.reaches server tool listed delimiter) = true ↔
      ((settings.unpinned toolBehind).blockedTools.any fun block =>
          block.reaches server tool listed delimiter) = true ∨
        RouteReaches toolBehind settings server tool := by
  rw [pin_any]
  simp only [List.any_eq_true, ClientSettings.unpinned, List.mem_filter]
  constructor
  · rintro ⟨block, member, reaches⟩
    rcases pinned_cases toolBehind block with
      stays | ⟨name, route, rfl, pins, stored⟩
    · rw [stays] at reaches
      exact Or.inl ⟨block, ⟨member, by rw [stays]; rfl⟩, reaches⟩
    · rw [stored, Option.getD_some, ToolBlock.reaches, Bool.and_eq_true, beq_iff_eq] at reaches
      exact Or.inr ⟨name, route, member, pins, reaches⟩
  · rintro (⟨block, ⟨member, stays⟩, reaches⟩ | ⟨name, route, member, pins, reaches⟩)
    · rw [Option.isNone_iff_eq_none] at stays
      exact ⟨block, member, by rw [stays]; exact reaches⟩
    · refine ⟨.named name, member, ?_⟩
      rw [pinned_named pins, Option.getD_some, ToolBlock.reaches, Bool.and_eq_true, beq_iff_eq]
      exact reaches

theorem lookup_map_second {Value Other : Type} (change : Value → Other)
    (table : List (List Char × Value)) (key : List Char) :
    (table.map fun item => (item.1, change item.2)).lookup key = (table.lookup key).map change := by
  induction table with
  | nil => rfl
  | cons item rest ih =>
    rw [List.map_cons, List.lookup_cons, List.lookup_cons, ih]
    cases key == item.1 with
    | true => rfl
    | false => rfl

theorem settings_pinToolBlocks (config : ClientConfig) (toolBehind : ToolBehind) (key : List Char) :
    (config.pinToolBlocks toolBehind).settings key = (config.settings key).pin toolBehind := by
  rw [ClientConfig.settings, ClientConfig.settings, ClientConfig.pinToolBlocks]
  dsimp only
  rw [lookup_map_second fun settings : ClientSettings => settings.pin toolBehind]
  cases config.clients.lookup key with
  | none => rfl
  | some settings => rfl

end Pinning

/-- A listed tool is refused after the blocks are stored by server and tool as it was before,
exactly if another rule refuses it, or the names that are stored so reach it before and after. -/
theorem pinning_keeps_access (cache : RouterSnapshot) (config : ClientConfig)
    (key server tool listed delimiter : List Char) :
    keptFrom (config.pinToolBlocks cache.toolBehind).clients key server (some tool) listed
        delimiter =
      keptFrom config.clients key server (some tool) listed delimiter ↔
    ((config.settings key).unpinned cache.toolBehind).access.keepsFrom server (some tool) listed
        delimiter = true ∨
      (NameReaches cache.toolBehind (config.settings key) server tool listed delimiter ↔
        RouteReaches cache.toolBehind (config.settings key) server tool) := by
  have pinnedServer : ((config.settings key).pin cache.toolBehind).access.excludes server
      (some tool) = (config.settings key).access.excludes server (some tool) := rfl
  have unpinnedServer : ((config.settings key).unpinned cache.toolBehind).access.excludes server
      (some tool) = (config.settings key).access.excludes server (some tool) := rfl
  rw [keptFrom_settings, keptFrom_settings, settings_pinToolBlocks, keepsFrom_access,
    keepsFrom_access, keepsFrom_access, pinnedServer, unpinnedServer, Bool.eq_iff_iff,
    Bool.or_eq_true, Bool.or_eq_true, Bool.or_eq_true,
    refused_after, refused_before cache.toolBehind (config.settings key)]
  tauto

/-- Two tools of one server with each other's name, and a client that is kept from the one that is
listed as `Slack__send`. -/
def swappedNames : RouterSnapshot :=
  RouterSnapshot.withIndexes
    { routes := [("Slack__send".toList, "slack".toList, "post".toList),
        ("Slack__post".toList, "slack".toList, "send".toList)]
      routesLower := []
      routesDistinct := by decide +kernel }

def blocksSend : ClientConfig where
  servers := ["slack".toList]
  clients := [("client".toList,
    { ClientSettings.unset with blockedTools := [.named "Slack__send".toList] })]
  clientsDistinct := by simp

/-- The rule over listed names keeps the client from both tools, the stored one from one of
them. -/
theorem pinning_widens_access :
    keptFrom blocksSend.clients "client".toList "slack".toList (some "send".toList)
        "Slack__post".toList "__".toList = true ∧
      ("Slack__post".toList, ("slack".toList, "send".toList)) ∈ swappedNames.routes ∧
      keptFrom (blocksSend.pinToolBlocks swappedNames.toolBehind).clients "client".toList
        "slack".toList (some "send".toList) "Slack__post".toList "__".toList = false := by
  decide +kernel

end Plug.Access
