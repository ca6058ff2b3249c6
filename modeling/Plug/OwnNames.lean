import Plug.ServerNames

/-!
# A name for every tool

A tool whose shortened name is that of another tool too is listed under its full one. That name can
be the shortened one of a third tool, which keeps it, as nobody else has it. Then two tools have one
name, and the second is left out.
-/

namespace Plug.Catalog

open Text ToolNaming

variable {Details : Type} {casing : Casing} {config : RouterConfig} {manager : ServerManager}
  {upstreamTools : List (List Char × Tool Details)} {classified : List (Classified Details)}
  {entry other : Classified Details} {name serverName : List Char}

/-- Further tools have the shortened name of a tool. -/
def Contested (config : RouterConfig) (classified : List (Classified Details))
    (entry : Classified Details) : Prop :=
  2 ≤ classified.countP fun other => other.strippedWire config = entry.strippedWire config

/-- Two tools have one name: both are listed under their full names, or one under its full name and
the other under its shortened one. -/
inductive Meets (config : RouterConfig) (classified : List (Classified Details))
    (entry other : Classified Details) : List Char → Prop
  | full (contested : Contested config classified entry)
    (alsoContested : Contested config classified other)
    (same : other.fullWire config = entry.fullWire config) :
    Meets config classified entry other (entry.fullWire config)
  | lengthened (contested : Contested config classified entry)
    (alone : ¬ Contested config classified other)
    (same : other.strippedWire config = entry.fullWire config) :
    Meets config classified entry other (entry.fullWire config)
  | shortened (alone : ¬ Contested config classified entry)
    (contested : Contested config classified other)
    (same : other.fullWire config = entry.strippedWire config) :
    Meets config classified entry other (entry.strippedWire config)

/-- Every tool of a server that is not switched off has a name that no other tool is listed under,
and calls of that name go to it. -/
def OwnNames (casing : Casing) (config : RouterConfig) (manager : ServerManager)
    (upstreamTools : List (List Char × Tool Details)) (serverName : List Char) : Prop :=
  ∀ before entry after,
    classifiedTools casing manager upstreamTools = before ++ entry :: after →
    entry.serverName = serverName →
    switchedOff config (prefixedName config (classifiedTools casing manager upstreamTools) entry)
      entry.serverName = false →
    (∀ other ∈ before ++ after,
      switchedOff config (prefixedName config (classifiedTools casing manager upstreamTools) other)
        other.serverName = false →
      prefixedName config (classifiedTools casing manager upstreamTools) other ≠
        prefixedName config (classifiedTools casing manager upstreamTools) entry) ∧
    ((namingPasses casing config manager upstreamTools).map fun listed =>
        (listed.tool.name, listed.route)).lookup
          (prefixedName config (classifiedTools casing manager upstreamTools) entry) =
      some (serverName, entry.tool.name)

/-! ### Which name a tool gets -/

theorem useStripped_iff (member : entry ∈ classified) :
    useStripped config classified entry = true ↔ ¬ Contested config classified entry := by
  have own : 0 < classified.countP fun other =>
      other.strippedWire config = entry.strippedWire config :=
    List.countP_pos_iff.mpr ⟨entry, member, decide_eq_true rfl⟩
  rw [useStripped, decide_eq_true_iff, Contested]
  omega

theorem prefixedName_contested (member : entry ∈ classified)
    (contested : Contested config classified entry) :
    prefixedName config classified entry = entry.fullWire config := by
  rw [prefixedName, if_neg]
  exact fun alone => (useStripped_iff member).mp alone contested

theorem prefixedName_alone (member : entry ∈ classified)
    (alone : ¬ Contested config classified entry) :
    prefixedName config classified entry = entry.strippedWire config := by
  rw [prefixedName, if_pos ((useStripped_iff member).mpr alone)]

theorem contested_of_same {before after : List (Classified Details)}
    (further : other ∈ before ++ after)
    (same : other.strippedWire config = entry.strippedWire config) :
    Contested config (before ++ entry :: after) entry := by
  have another : 0 < (before ++ after).countP fun other =>
      other.strippedWire config = entry.strippedWire config :=
    List.countP_pos_iff.mpr ⟨other, further, decide_eq_true same⟩
  rw [List.countP_append] at another
  rw [Contested, List.countP_append, List.countP_cons, if_pos (decide_eq_true rfl)]
  omega

theorem Meets.same (meets : Meets config classified entry other name) (member : entry ∈ classified)
    (otherMember : other ∈ classified) :
    prefixedName config classified entry = name ∧ prefixedName config classified other = name := by
  cases meets with
  | full contested alsoContested same =>
    rw [prefixedName_contested member contested,
      prefixedName_contested otherMember alsoContested]
    exact ⟨rfl, same⟩
  | lengthened contested alone same =>
    rw [prefixedName_contested member contested, prefixedName_alone otherMember alone]
    exact ⟨rfl, same⟩
  | shortened alone contested same =>
    rw [prefixedName_alone member alone, prefixedName_contested otherMember contested]
    exact ⟨rfl, same⟩

/-- Tools of one name meet in it: their shortened names are not one that both are listed under. -/
theorem meets_of_same {before after : List (Classified Details)} (further : other ∈ before ++ after)
    (same : prefixedName config (before ++ entry :: after) other =
      prefixedName config (before ++ entry :: after) entry) :
    Meets config (before ++ entry :: after) entry other
      (prefixedName config (before ++ entry :: after) entry) := by
  have member : entry ∈ before ++ entry :: after :=
    List.mem_append_right _ List.mem_cons_self
  have otherMember : other ∈ before ++ entry :: after := by
    rw [List.mem_append] at further ⊢
    exact further.imp_right (List.mem_cons_of_mem _)
  by_cases contested : Contested config (before ++ entry :: after) entry
  · rw [prefixedName_contested member contested] at same ⊢
    by_cases alsoContested : Contested config (before ++ entry :: after) other
    · rw [prefixedName_contested otherMember alsoContested] at same
      exact Meets.full contested alsoContested same
    · rw [prefixedName_alone otherMember alsoContested] at same
      exact Meets.lengthened contested alsoContested same
  · rw [prefixedName_alone member contested] at same ⊢
    by_cases otherContested : Contested config (before ++ entry :: after) other
    · rw [prefixedName_contested otherMember otherContested] at same
      exact Meets.shortened contested otherContested same
    · rw [prefixedName_alone otherMember otherContested] at same
      exact absurd (contested_of_same further same) contested

/-! ### Names of their own -/

/-- A name that one tool is listed under routes to it. -/
theorem lookup_own (member : entry ∈ classifiedTools casing manager upstreamTools)
    (switchedOn : switchedOff config
      (prefixedName config (classifiedTools casing manager upstreamTools) entry)
      entry.serverName = false)
    (own : ∀ other ∈ classifiedTools casing manager upstreamTools,
      switchedOff config (prefixedName config (classifiedTools casing manager upstreamTools) other)
        other.serverName = false →
      prefixedName config (classifiedTools casing manager upstreamTools) other =
        prefixedName config (classifiedTools casing manager upstreamTools) entry →
      other = entry) :
    ((namingPasses casing config manager upstreamTools).map fun listed =>
        (listed.tool.name, listed.route)).lookup
          (prefixedName config (classifiedTools casing manager upstreamTools) entry) =
      some (entry.serverName, entry.tool.name) := by
  obtain ⟨item, listed, named⟩ := listTools_complete [] member switchedOn
  have distinct : (((namingPasses casing config manager upstreamTools).map fun listed =>
      (listed.tool.name, listed.route)).map Prod.fst).Nodup := by
    rw [List.map_map]
    exact listTools_distinct _ List.nodup_nil
  have recorded := Tables.lookup_of_mem distinct (List.mem_map_of_mem listed)
  rcases listTools_sound listed with none | ⟨other, otherMember, same, otherOn⟩
  · cases none
  · rw [same] at recorded named
    obtain rfl := own other otherMember otherOn named
    exact recorded

/-- Every tool of a server has a name and a route of its own, exactly if it meets no other tool in
a name that is switched off for neither. -/
theorem own_names_iff (casing : Casing) (config : RouterConfig) (manager : ServerManager)
    (upstreamTools : List (List Char × Tool Details)) (serverName : List Char) :
    OwnNames casing config manager upstreamTools serverName ↔
      ∀ before entry after,
        classifiedTools casing manager upstreamTools = before ++ entry :: after →
        entry.serverName = serverName →
        ∀ other ∈ before ++ after, ∀ name,
          Meets config (classifiedTools casing manager upstreamTools) entry other name →
          switchedOff config name entry.serverName = true ∨
            switchedOff config name other.serverName = true := by
  constructor
  · intro ownNames before entry after split server other further name meets
    have member : entry ∈ classifiedTools casing manager upstreamTools := by
      rw [split]
      exact List.mem_append_right _ List.mem_cons_self
    have otherMember : other ∈ classifiedTools casing manager upstreamTools := by
      rw [split]
      rw [List.mem_append] at further ⊢
      exact further.imp_right (List.mem_cons_of_mem _)
    obtain ⟨named, otherNamed⟩ := meets.same member otherMember
    by_contra listed
    rw [not_or, Bool.not_eq_true, Bool.not_eq_true] at listed
    obtain ⟨switchedOn, otherOn⟩ := listed
    rw [← named] at switchedOn
    rw [← otherNamed] at otherOn
    exact (ownNames before entry after split server switchedOn).1 other further otherOn
      (otherNamed.trans named.symm)
  · intro apart before entry after split server switchedOn
    have own : ∀ other ∈ before ++ after,
        switchedOff config
          (prefixedName config (classifiedTools casing manager upstreamTools) other)
          other.serverName = false →
        prefixedName config (classifiedTools casing manager upstreamTools) other ≠
          prefixedName config (classifiedTools casing manager upstreamTools) entry := by
      intro other further otherOn same
      have meets := apart before entry after split server other further
      rw [same] at otherOn
      rw [split] at same otherOn switchedOn meets
      rcases meets _ (meets_of_same further same) with off | off
      · rw [switchedOn] at off
        cases off
      · rw [otherOn] at off
        cases off
    refine ⟨own, ?_⟩
    rw [← server]
    apply lookup_own
    · rw [split]
      exact List.mem_append_right _ List.mem_cons_self
    · exact switchedOn
    · intro other otherMember otherOn same
      rw [split, List.mem_append, List.mem_cons] at otherMember
      rcases otherMember with front | rfl | back
      · exact absurd same (own other (List.mem_append_left _ front) otherOn)
      · rfl
      · exact absurd same (own other (List.mem_append_right _ back) otherOn)

/-- The tools of a server with the rules for Google's. -/
def gmailTools : List (List Char × Tool Unit) :=
  [("workspace".toList, ⟨"get_gmail_x".toList, ()⟩),
    ("workspace".toList, ⟨"gmail_get_x".toList, ()⟩),
    ("workspace".toList, ⟨"gmail_get_gmail_x".toList, ()⟩)]

/-- The first two are shortened to one name. So the first has its full name, which the third is
shortened to, and the third is left out. -/
theorem gmail_lost :
    ((gmailTools.map fun item => sanitizeToolName asciiCasing item.2.name).Nodup ∧
      ((classifiedTools asciiCasing twoWorkspaces gmailTools).map Classified.fullName).Nodup ∧
      plainConfig.disabledTools = [] ∧
      namingPasses asciiCasing plainConfig twoWorkspaces gmailTools =
        [⟨⟨"Gmail__get_gmail_x".toList, ()⟩, ("workspace".toList, "get_gmail_x".toList)⟩,
          ⟨⟨"Gmail__gmail_get_x".toList, ()⟩, ("workspace".toList, "gmail_get_x".toList)⟩]) ∧
    ¬ OwnNames asciiCasing plainConfig twoWorkspaces gmailTools "workspace".toList := by
  refine ⟨by decide +kernel, ?_⟩
  intro ownNames
  have third := ownNames
    ((classifiedTools asciiCasing twoWorkspaces gmailTools).take 2)
    ⟨"workspace".toList, ⟨"gmail_get_gmail_x".toList, ()⟩, "Gmail".toList,
      "get_gmail_x".toList, "gmail_get_gmail_x".toList⟩ []
    (by decide +kernel) rfl (by decide +kernel)
  exact absurd third.2 (by decide +kernel)

end Plug.Catalog
