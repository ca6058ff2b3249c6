import Mathlib.Data.List.Chain
import Plug.CatalogPrefixes
import Plug.CatalogSnapshot
import Plug.TextSearch

/-!
# Names of tools of different servers

After the servers are separated no two have a tool of one name under one prefix. So their wire names
differ, if the delimiter tells a prefix from what stands behind it.
-/

namespace Plug.Catalog

open Text ToolNaming

variable {Details : Type}

/-- The delimiter tells each prefix from what stands behind it: it is first met at the end of the
prefix, or it is made of underscores, with which no tool's name starts, and not met in a prefix. -/
def Separates (delimiter : List Char) (wirePrefixes : List (List Char)) : Prop :=
  (∀ wirePrefix ∈ wirePrefixes,
      splitOnce delimiter (wirePrefix ++ delimiter) = some (wirePrefix, [])) ∨
    ((∀ character ∈ delimiter, character = '_') ∧
      ∀ wirePrefix ∈ wirePrefixes, Text.contains delimiter wirePrefix = false)

/-- The tools of all servers, separated. -/
def classifiedTools (casing : Casing) (manager : ServerManager)
    (upstreamTools : List (List Char × Tool Details)) : List (Classified Details) :=
  separateServers (upstreamTools.map fun (serverName, tool) =>
    classify casing manager serverName tool)

/-! ### Names do not start with an underscore -/

section Fronts

variable (casing : Casing)

def StartsPlain (name : List Char) : Prop := name.head? ≠ some '_'

/-- No underscore stands next to another. -/
def Single (text : List Char) : Prop :=
  text.IsChain fun character next => ¬ (character = '_' ∧ next = '_')

theorem collapse_front (text : List Char) : StartsPlain (collapse true text) := by
  induction text with
  | nil => exact nofun
  | cons character rest ih =>
    rw [collapse]
    split
    · rw [if_pos rfl]
      exact ih
    · rename_i other
      intro same
      exact other (Option.some.inj same)

theorem collapse_single (previous : Bool) (text : List Char) : Single (collapse previous text) := by
  induction text generalizing previous with
  | nil => exact List.IsChain.nil
  | cons character rest ih =>
    rw [collapse]
    split
    · split
      · exact ih true
      · refine List.isChain_cons.mpr ⟨?_, ih true⟩
        rintro next front ⟨_, rfl⟩
        exact collapse_front rest front
    · rename_i other
      refine List.isChain_cons.mpr ⟨?_, ih false⟩
      rintro next _ ⟨same, _⟩
      exact other same

theorem startsPlain_of_front {text front : List Char} (plain : StartsPlain text)
    (starts : front <+: text) : StartsPlain front := by
  cases front with
  | nil => exact nofun
  | cons character rest =>
    obtain ⟨tail, rfl⟩ := starts
    exact plain

theorem sanitized_starts (name : List Char) :
    sanitizeToolName casing name <+: collapse true (separateWords casing none name) := by
  rw [sanitizeToolName]
  split
  · exact List.dropLast_prefix _
  · exact List.prefix_refl _

theorem sanitized_front (name : List Char) : StartsPlain (sanitizeToolName casing name) :=
  startsPlain_of_front (collapse_front _) (sanitized_starts casing name)

theorem sanitized_single (name : List Char) : Single (sanitizeToolName casing name) := by
  obtain ⟨tail, whole⟩ := sanitized_starts casing name
  have single : Single (sanitizeToolName casing name ++ tail) := by
    rw [whole]
    exact collapse_single true _
  exact List.IsChain.left_of_append single

theorem toLower_ne_hyphen {character : Char} (other : character ≠ '-') :
    character.toLower ≠ '-' :=
  fun same => other (Text.of_toLower (by decide) same)

theorem separateWords_hyphen (previous : Option Char) (name : List Char) :
    '-' ∉ separateWords casing previous name := by
  induction name generalizing previous with
  | nil => exact List.not_mem_nil
  | cons character rest ih =>
    have later := ih (some character)
    rw [separateWords]
    split
    · simp [later]
    · rename_i other
      have plain : '-' ≠ character.toLower := (toLower_ne_hyphen (other ∘ Or.inl)).symm
      have same : '-' ≠ character := fun same => other (Or.inl same.symm)
      split
      · split <;> simp [later, plain]
      · simp [later, same]

theorem collapse_subset (previous : Bool) (text : List Char) : collapse previous text ⊆ text := by
  induction text generalizing previous with
  | nil => exact List.Subset.refl _
  | cons character rest ih =>
    rw [collapse]
    split
    · rename_i same
      split
      · exact List.subset_cons_of_subset _ (ih true)
      · rw [same]
        exact List.cons_subset_cons _ (ih true)
    · exact List.cons_subset_cons _ (ih false)

theorem sanitized_hyphen (name : List Char) : '-' ∉ sanitizeToolName casing name := fun member =>
  separateWords_hyphen casing none name
    (collapse_subset true _ ((sanitized_starts casing name).subset member))

/-- What stands behind an underscore in a name with single ones does not start with another. -/
theorem startsPlain_of_single {front rest : List Char} (single : Single (front ++ '_' :: rest)) :
    StartsPlain rest := by
  have after : Single ('_' :: rest) := List.IsChain.right_of_append single
  intro again
  exact (List.isChain_cons.mp after).1 '_' again ⟨rfl, rfl⟩

theorem dropServerFront_plain {name : List Char} (plain : StartsPlain name) (single : Single name)
    (noHyphen : '-' ∉ name) (serverName : List Char) :
    StartsPlain (dropServerFront serverName name) := by
  rw [dropServerFront]
  split
  · rename_i starts
    obtain ⟨tail, rfl⟩ := List.isPrefixOf_iff_prefix.mp starts.1
    rw [List.drop_left]
    cases tail with
    | nil => exact plain
    | cons first rest =>
      dsimp only
      split
      · rename_i separator
        have hyphen : first ≠ '-' := fun same => noHyphen (by simp [same])
        have underscore : first = '_' := by
          simpa [isSeparator, hyphen] using separator
        rw [underscore] at single
        exact startsPlain_of_single single
      · exact plain
  · exact plain

theorem dropServerEnd_starts (serverName name : List Char) :
    dropServerEnd serverName name <+: name := by
  rw [dropServerEnd]
  split
  · dsimp only
    split
    · exact (List.dropLast_prefix _).trans (List.take_prefix _ _)
    · exact List.prefix_refl _
  · exact List.prefix_refl _

theorem removeRun_subset {run words remaining : List (List Char)}
    (removed : removeRun run words = some remaining) : remaining ⊆ words := by
  induction words generalizing remaining with
  | nil =>
    rw [removeRun] at removed
    split at removed
    · cases removed
      exact List.Subset.refl _
    · cases removed
  | cons word rest ih =>
    rw [removeRun] at removed
    split at removed
    · cases removed
      exact List.drop_subset _ _
    · obtain ⟨others, found, rfl⟩ := Option.map_eq_some_iff.mp removed
      exact List.cons_subset_cons _ (ih found)

/-- The words of a name are not empty, and have no underscore in them. -/
theorem startsPlain_of_word {text word : List Char} (member : word ∈ splitWords text)
    (rest : List Char) : StartsPlain (word ++ rest) := by
  rw [splitWords, List.mem_filter] at member
  obtain ⟨split, filled⟩ := member
  cases word with
  | nil => exact absurd rfl (of_decide_eq_true filled)
  | cons character others =>
    intro underscore
    have same : character = '_' := Option.some.inj underscore
    exact splitOn_plain split (by rw [same]; exact List.mem_cons_self)

theorem intercalate_front (separator word : List Char) (words : List (List Char)) :
    ∃ rest, List.intercalate separator (word :: words) = word ++ rest := by
  cases words with
  | nil => exact ⟨[], by simp⟩
  | cons second others =>
    exact ⟨separator ++ List.intercalate separator (second :: others), by simp [List.intercalate]⟩

theorem stripKeyword_plain {toolName : List Char} (plain : StartsPlain toolName)
    (keyword : List Char) : StartsPlain (stripKeyword toolName keyword) := by
  rw [stripKeyword]
  split
  · exact plain
  · split
    · exact plain
    · rename_i remaining removed
      dsimp only
      split
      · exact plain
      · cases remaining with
        | nil => exact nofun
        | cons word rest =>
          obtain ⟨tail, joined⟩ := intercalate_front ['_'] word rest
          rw [joined]
          exact startsPlain_of_word (removeRun_subset removed List.mem_cons_self) tail

theorem stripKeywords_plain {toolName : List Char} (plain : StartsPlain toolName)
    (keywords : List (List Char)) : StartsPlain (stripKeywords toolName keywords) := by
  induction keywords with
  | nil => exact plain
  | cons keyword rest ih =>
    rw [stripKeywords]
    split
    · exact stripKeyword_plain plain keyword
    · exact ih

/-- No name that a server's tool gets starts with an underscore. -/
theorem classify_plain (manager : ServerManager) (serverName : List Char) (tool : Tool Details) :
    StartsPlain (classify casing manager serverName tool).strippedName ∧
      StartsPlain (classify casing manager serverName tool).fullName := by
  have plain := sanitized_front casing
  have dropped : ∀ name, StartsPlain (dropServerEnd serverName
      (dropServerFront serverName (sanitizeToolName casing name))) := fun name =>
    startsPlain_of_front
      (dropServerFront_plain (plain name) (sanitized_single casing name)
        (sanitized_hyphen casing name) serverName)
      (dropServerEnd_starts serverName _)
  rw [classify]
  dsimp only
  split
  · split
    · exact ⟨stripKeywords_plain (plain _) _, plain _⟩
    · exact ⟨plain _, plain _⟩
  · exact ⟨dropped _, dropped _⟩

end Fronts

/-! ### Wire names -/

section Wires

variable {delimiter shorter longer name other : List Char}

/-- A longer prefix is read the same way only by a name that starts with an underscore. -/
theorem underscores_separate (underscores : ∀ character ∈ delimiter, character = '_')
    (absent : Text.contains delimiter longer = false) (plain : StartsPlain name)
    (same : shorter ++ delimiter ++ name = longer ++ delimiter ++ other) :
    longer.length ≤ shorter.length := by
  by_contra less
  have less : shorter.length < longer.length := Nat.lt_of_not_le less
  rw [List.append_assoc, List.append_assoc] at same
  obtain ⟨extra, rfl⟩ : shorter <+: longer :=
    List.prefix_of_prefix_length_le (same ▸ List.prefix_append _ _) (List.prefix_append _ _)
      less.le
  rw [List.append_assoc, List.append_cancel_left_eq] at same
  rw [List.length_append] at less
  rcases List.append_eq_append_iff.mp same with ⟨behind, rfl, _⟩ | ⟨shared, whole, rest⟩
  · have occurs : Text.contains delimiter (shorter ++ (delimiter ++ behind)) = true :=
      contains_iff_within.mpr ⟨shorter, behind, List.append_assoc _ _ _⟩
    rw [absent] at occurs
    cases occurs
  · have lengths := congrArg List.length whole
    rw [List.length_append] at lengths
    rcases List.append_eq_append_iff.mp rest with ⟨_, again, _⟩ | ⟨left, again, front⟩
    · have lengthsAgain := congrArg List.length again
      rw [List.length_append] at lengthsAgain
      omega
    · cases left with
      | nil =>
        rw [List.append_nil] at again
        rw [again] at lengths
        omega
      | cons character others =>
        have underscore : character = '_' := underscores character (by rw [again]; simp)
        rw [front, underscore] at plain
        exact plain rfl

/-- Where the delimiter separates, a wire name is read back in one way. -/
theorem Separates.wire_inj {wirePrefixes : List (List Char)} {first second : List Char}
    (separates : Separates delimiter wirePrefixes) (firstMember : first ∈ wirePrefixes)
    (secondMember : second ∈ wirePrefixes) (plain : StartsPlain name) (otherPlain : StartsPlain other)
    (same : buildWireName first name delimiter = buildWireName second other delimiter) :
    first = second ∧ name = other := by
  rw [buildWireName, buildWireName] at same
  rcases separates with ends | ⟨underscores, absent⟩
  · have split := splitOnce_append (ends first firstMember) name
    rw [same, splitOnce_append (ends second secondMember) other] at split
    cases split
    exact ⟨rfl, rfl⟩
  · have lengths : first.length = second.length := Nat.le_antisymm
      (underscores_separate underscores (absent first firstMember) otherPlain same.symm)
      (underscores_separate underscores (absent second secondMember) plain same)
    rw [List.append_assoc, List.append_assoc] at same
    obtain ⟨rfl, rest⟩ := List.append_inj same lengths
    exact ⟨rfl, List.append_cancel_left rest⟩

end Wires

/-! ### Separated servers -/

section Separated

variable {classified : List (Classified Details)} {entry other : Classified Details}
  {wirePrefix name : List Char}

/-- The prefix that a tool gets is its own, which its server shares with no other, or one of those
that are found for its server. -/
inductive Gets (classified : List (Classified Details)) (entry : Classified Details) :
    List Char → Prop
  | unshared (apart : entry.wirePrefix ∉ sharedIn classified) : Gets classified entry entry.wirePrefix
  | own {wirePrefix : List Char}
    (found : (ownPrefixes classified).lookup (entry.wirePrefix, entry.serverName) =
      some wirePrefix) : Gets classified entry wirePrefix

theorem ownPrefixes_none (apart : entry.wirePrefix ∉ sharedIn classified) :
    (ownPrefixes classified).lookup (entry.wirePrefix, entry.serverName) = none := by
  apply Tables.lookup_absent
  intro claimed
  rw [ownPrefixes, prefixesForServers, assign_keys, List.mem_insertionSort, List.mem_dedup,
    List.mem_map] at claimed
  obtain ⟨sharing, member, same⟩ := claimed
  obtain ⟨samePrefix, _⟩ := Prod.mk.inj same
  exact apart (samePrefix ▸ of_decide_eq_true (List.mem_filter.mp member).2)

theorem ownPrefixes_some (present : entry ∈ classified)
    (sharing : entry.wirePrefix ∈ sharedIn classified) :
    ∃ wirePrefix, (ownPrefixes classified).lookup (entry.wirePrefix, entry.serverName) =
      some wirePrefix := by
  apply prefixesForServers_some
  have kept : entry ∈ classified.filter fun entry => entry.wirePrefix ∈ sharedIn classified :=
    List.mem_filter.mpr ⟨present, decide_eq_true sharing⟩
  exact List.mem_map.mpr ⟨entry, kept, rfl⟩

theorem gets_of_separateServers {separated : Classified Details}
    (member : separated ∈ separateServers classified) :
    ∃ entry ∈ classified, ∃ wirePrefix, Gets classified entry wirePrefix ∧
      separated = { entry with wirePrefix := wirePrefix } := by
  rw [separateServers_eq] at member
  obtain ⟨entry, present, rfl⟩ := List.mem_map.mp member
  refine ⟨entry, present, ?_⟩
  by_cases sharing : entry.wirePrefix ∈ sharedIn classified
  · obtain ⟨wirePrefix, found⟩ := ownPrefixes_some present sharing
    refine ⟨wirePrefix, Gets.own found, ?_⟩
    rw [Classified.withOwnPrefix, found]
  · refine ⟨entry.wirePrefix, Gets.unshared sharing, ?_⟩
    rw [Classified.withOwnPrefix, ownPrefixes_none sharing]

/-- A name of a tool under its prefix. -/
def Classified.Named (entry : Classified Details) (name : List Char) : Prop :=
  name = entry.strippedName ∨ name = entry.fullName

theorem named_claim (entry : Classified Details) (named : entry.Named name) :
    ⟨entry.serverName, entry.wirePrefix, name⟩ ∈ entry.claims := by
  rcases named with rfl | rfl
  · exact List.mem_cons_self
  · exact List.mem_cons_of_mem _ List.mem_cons_self

/-- Tools of two servers with a name in common share their prefix. -/
theorem sharedIn_of_claims (present : entry ∈ classified) (otherPresent : other ∈ classified)
    (named : entry.Named name) (otherNamed : other.Named name)
    (samePrefix : other.wirePrefix = entry.wirePrefix) (apart : other.serverName ≠ entry.serverName) :
    entry.wirePrefix ∈ sharedIn classified := by
  have claimed : ⟨entry.serverName, entry.wirePrefix, name⟩ ∈
      classified.flatMap Classified.claims :=
    List.mem_flatMap.mpr ⟨entry, present, named_claim entry named⟩
  have otherClaimed : ⟨other.serverName, other.wirePrefix, name⟩ ∈
      classified.flatMap Classified.claims :=
    List.mem_flatMap.mpr ⟨other, otherPresent, named_claim other otherNamed⟩
  rw [sharedIn, sharedPrefixes, List.mem_map]
  refine ⟨_, List.mem_filter.mpr ⟨claimed, ?_⟩, rfl⟩
  rw [List.any_eq_true]
  exact ⟨_, otherClaimed, decide_eq_true ⟨samePrefix, rfl, apart⟩⟩

/-- No two servers have a tool of one name under one prefix. -/
theorem gets_inj (present : entry ∈ classified) (otherPresent : other ∈ classified)
    (gets : Gets classified entry wirePrefix) (otherGets : Gets classified other wirePrefix)
    (named : entry.Named name) (otherNamed : other.Named name) :
    other.serverName = entry.serverName := by
  -- A prefix that is found is nobody's own, and is found for one server.
  have fresh : ∀ first second : Classified Details, second ∈ classified →
      second.wirePrefix ∉ sharedIn classified →
      (ownPrefixes classified).lookup (first.wirePrefix, first.serverName) ≠
        some second.wirePrefix := by
    intro first second secondPresent apart found
    refine prefixesForServers_fresh found (List.mem_map.mpr ⟨second, ?_, rfl⟩)
    exact List.mem_filter.mpr ⟨secondPresent, decide_eq_true apart⟩
  cases gets with
  | unshared apart =>
    generalize same : entry.wirePrefix = wirePrefix at otherGets
    cases otherGets with
    | unshared _ =>
      by_contra differ
      exact apart (sharedIn_of_claims present otherPresent named otherNamed same.symm differ)
    | own found =>
      rw [← same] at found
      exact absurd found (fresh other entry present apart)
  | own found =>
    cases otherGets with
    | unshared apart => exact absurd found (fresh entry other otherPresent apart)
    | own otherFound => exact (Prod.mk.inj (prefixesForServers_injective otherFound found)).2

end Separated

/-! ### The list -/

section Lists

variable {config : RouterConfig} {classified entries : List (Classified Details)}
  {listed : List (Listed Details)} {item : Listed Details} {entry : Classified Details}

/-- What is listed for a tool. -/
def Classified.listing (config : RouterConfig) (classified : List (Classified Details))
    (entry : Classified Details) : Listed Details :=
  ⟨⟨prefixedName config classified entry, entry.tool.details⟩,
    (entry.serverName, entry.tool.name)⟩

theorem listTools_keeps (entries : List (Classified Details)) (member : item ∈ listed) :
    item ∈ listTools config classified entries listed := by
  induction entries generalizing listed with
  | nil => exact member
  | cons entry rest ih =>
    rw [listTools]
    split
    · exact ih member
    · exact ih (List.mem_append_left _ member)

theorem listTools_sound (member : item ∈ listTools config classified entries listed) :
    item ∈ listed ∨ ∃ entry ∈ entries, item = entry.listing config classified ∧
      switchedOff config (prefixedName config classified entry) entry.serverName = false := by
  induction entries generalizing listed with
  | nil => exact Or.inl member
  | cons entry rest ih =>
    rw [listTools] at member
    split at member
    · rcases ih member with before | ⟨later, present, same⟩
      · exact Or.inl before
      · exact Or.inr ⟨later, List.mem_cons_of_mem _ present, same⟩
    · rename_i kept
      rcases ih member with before | ⟨later, present, same⟩
      · cases List.mem_append.mp before with
        | inl before => exact Or.inl before
        | inr own =>
          rw [Bool.or_eq_true, not_or] at kept
          exact Or.inr ⟨entry, List.mem_cons_self, List.mem_singleton.mp own,
            Bool.eq_false_iff.mpr kept.1⟩
      · exact Or.inr ⟨later, List.mem_cons_of_mem _ present, same⟩

/-- Every name of a tool that is not switched off is listed. -/
theorem listTools_complete (listed : List (Listed Details)) (member : entry ∈ entries)
    (switchedOn :
      switchedOff config (prefixedName config classified entry) entry.serverName = false) :
    ∃ item ∈ listTools config classified entries listed,
      item.tool.name = prefixedName config classified entry := by
  induction entries generalizing listed with
  | nil => cases member
  | cons first rest ih =>
    rw [listTools]
    cases List.mem_cons.mp member with
    | inl same =>
      rw [← same, switchedOn, Bool.false_or]
      split
      · rename_i before
        obtain ⟨item, present, named⟩ := List.any_eq_true.mp before
        exact ⟨item, listTools_keeps rest present, of_decide_eq_true named⟩
      · exact ⟨entry.listing config classified,
          listTools_keeps rest (List.mem_append_right _ (List.mem_singleton_self _)), rfl⟩
    | inr later =>
      split
      · exact ih _ later
      · exact ih _ later

theorem prefixedName_wire (enabled : config.enablePrefix = true)
    (classified : List (Classified Details)) (entry : Classified Details) :
    ∃ name, entry.Named name ∧
      prefixedName config classified entry =
        buildWireName entry.wirePrefix name config.prefixDelimiter := by
  rw [prefixedName, Classified.strippedWire, if_pos enabled]
  split
  · exact ⟨entry.strippedName, Or.inl rfl, rfl⟩
  · exact ⟨entry.fullName, Or.inr rfl, rfl⟩

end Lists

section Servers

variable {casing : Casing} {config : RouterConfig} {manager : ServerManager}
  {upstreamTools : List (List Char × Tool Details)} {entry other : Classified Details}

/-- Tools of one wire name are of one server. -/
theorem server_of_prefixedName (enabled : config.enablePrefix = true)
    (separates : Separates config.prefixDelimiter
      ((classifiedTools casing manager upstreamTools).map Classified.wirePrefix))
    (member : entry ∈ classifiedTools casing manager upstreamTools)
    (otherMember : other ∈ classifiedTools casing manager upstreamTools)
    (same : prefixedName config (classifiedTools casing manager upstreamTools) other =
      prefixedName config (classifiedTools casing manager upstreamTools) entry) :
    other.serverName = entry.serverName := by
  obtain ⟨name, named, wire⟩ := prefixedName_wire enabled (classifiedTools casing manager upstreamTools)
    entry
  obtain ⟨otherName, otherNamed, otherWire⟩ := prefixedName_wire enabled
    (classifiedTools casing manager upstreamTools) other
  have inPrefixes := List.mem_map_of_mem (f := Classified.wirePrefix) member
  have otherInPrefixes := List.mem_map_of_mem (f := Classified.wirePrefix) otherMember
  obtain ⟨first, present, wirePrefix, gets, rfl⟩ := gets_of_separateServers member
  obtain ⟨second, otherPresent, otherPrefix, otherGets, rfl⟩ :=
    gets_of_separateServers otherMember
  have plain : ∀ classifiedEntry ∈ upstreamTools.map (fun (serverName, tool) =>
      classify casing manager serverName tool), ∀ name, classifiedEntry.Named name →
        StartsPlain name := by
    intro classifiedEntry present name named
    obtain ⟨⟨serverName, tool⟩, _, rfl⟩ := List.mem_map.mp present
    rcases named with rfl | rfl
    · exact (classify_plain casing manager serverName tool).1
    · exact (classify_plain casing manager serverName tool).2
  rw [wire, otherWire] at same
  obtain ⟨samePrefix, sameName⟩ := separates.wire_inj otherInPrefixes inPrefixes
    (plain second otherPresent otherName otherNamed) (plain first present name named) same
  dsimp only at samePrefix
  rw [samePrefix] at otherGets
  rw [sameName] at otherNamed
  have named : first.Named name := named
  have otherNamed : second.Named name := otherNamed
  have servers := gets_inj present otherPresent gets otherGets named otherNamed
  exact servers

/-- No tool loses its name, or its calls, to a tool of another server: a name that is given to a
tool is given to tools of its server only, and unless it is switched off it is listed and routes to
that server. -/
theorem servers_never_clash (casing : Casing) (manager : ServerManager) (config : RouterConfig)
    (upstreamTools : List (List Char × Tool Details)) (enabled : config.enablePrefix = true)
    (separates : Separates config.prefixDelimiter
      ((classifiedTools casing manager upstreamTools).map Classified.wirePrefix)) :
    ∀ entry ∈ classifiedTools casing manager upstreamTools,
      (∀ other ∈ classifiedTools casing manager upstreamTools,
        prefixedName config (classifiedTools casing manager upstreamTools) other =
          prefixedName config (classifiedTools casing manager upstreamTools) entry →
        other.serverName = entry.serverName) ∧
      (switchedOff config
          (prefixedName config (classifiedTools casing manager upstreamTools) entry)
          entry.serverName = false →
        ∃ toolName, ((namingPasses casing config manager upstreamTools).map fun listed =>
            (listed.tool.name, listed.route)).lookup
              (prefixedName config (classifiedTools casing manager upstreamTools) entry) =
          some (entry.serverName, toolName)) := by
  intro entry member
  have one : ∀ other ∈ classifiedTools casing manager upstreamTools,
      prefixedName config (classifiedTools casing manager upstreamTools) other =
        prefixedName config (classifiedTools casing manager upstreamTools) entry →
      other.serverName = entry.serverName := fun other otherMember =>
    server_of_prefixedName enabled separates member otherMember
  refine ⟨one, ?_⟩
  intro switchedOn
  obtain ⟨item, listed, named⟩ := listTools_complete [] member switchedOn
  have distinct : (((namingPasses casing config manager upstreamTools).map fun listed =>
      (listed.tool.name, listed.route)).map Prod.fst).Nodup := by
    rw [List.map_map]
    exact listTools_distinct _ List.nodup_nil
  have recorded := Tables.lookup_of_mem distinct (List.mem_map_of_mem listed)
  rcases listTools_sound listed with none | ⟨other, otherMember, same, _⟩
  · cases none
  · rw [same] at recorded named
    have server := one other otherMember named
    refine ⟨other.tool.name, ?_⟩
    rw [← named, ← server]
    exact recorded

/-- Two servers list a tool of one name. -/
def sendTools : List (List Char × Tool Unit) :=
  [("slack".toList, ⟨"send".toList, ()⟩), ("discord".toList, ⟨"send".toList, ()⟩)]

theorem servers_never_clash_sends :
    Separates plainConfig.prefixDelimiter
      ((classifiedTools asciiCasing twoWorkspaces sendTools).map Classified.wirePrefix) ∧
    ∀ entry ∈ classifiedTools asciiCasing twoWorkspaces sendTools,
      switchedOff plainConfig
          (prefixedName plainConfig (classifiedTools asciiCasing twoWorkspaces sendTools) entry)
          entry.serverName = false →
        ∃ toolName, ((namingPasses asciiCasing plainConfig twoWorkspaces sendTools).map
            fun listed => (listed.tool.name, listed.route)).lookup
              (prefixedName plainConfig (classifiedTools asciiCasing twoWorkspaces sendTools)
                entry) =
          some (entry.serverName, toolName) := by
  have separates : Separates plainConfig.prefixDelimiter
      ((classifiedTools asciiCasing twoWorkspaces sendTools).map Classified.wirePrefix) :=
    Or.inl (by decide +kernel)
  refine ⟨separates, ?_⟩
  intro entry member
  exact (servers_never_clash asciiCasing twoWorkspaces plainConfig sendTools rfl separates entry
    member).2

/-- A delimiter that can start in a prefix. -/
def overlapConfig : RouterConfig := { plainConfig with prefixDelimiter := "aa".toList }

/-- The delimiter is in no prefix, and the tool of the second server has the name of the first's. -/
theorem servers_clash :
    overlapConfig.enablePrefix = true ∧
    (∀ entry ∈ classifiedTools asciiCasing twoWorkspaces
        [("x".toList, ⟨"ay".toList, ()⟩), ("xa".toList, ⟨"y".toList, ()⟩)],
      Text.contains overlapConfig.prefixDelimiter entry.wirePrefix = false ∧
        switchedOff overlapConfig (prefixedName overlapConfig
          (classifiedTools asciiCasing twoWorkspaces
            [("x".toList, ⟨"ay".toList, ()⟩), ("xa".toList, ⟨"y".toList, ()⟩)]) entry)
          entry.serverName = false) ∧
    namingPasses asciiCasing overlapConfig twoWorkspaces
        [("x".toList, ⟨"ay".toList, ()⟩), ("xa".toList, ⟨"y".toList, ()⟩)] =
      [⟨⟨"Xaaay".toList, ()⟩, ("x".toList, "ay".toList)⟩] := by
  decide +kernel

end Servers

end Plug.Catalog
