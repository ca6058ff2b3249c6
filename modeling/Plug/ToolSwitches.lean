import Plug.OperatorMutations
import Plug.OwnNames
import Plug.PinnedBlocks

/-!
# Switching a tool on and off

A tool is switched by its wire name among the patterns of switched off tools in the file. The
catalog is built from the patterns as they are loaded, with the variables of the environment put
in, and leaves a tool out when one of them matches its wire name or its other names.
-/

namespace Plug.Catalog

open Text ToolNaming Access Operator

/-! ### Loading the patterns -/

/-- The variables that are known to the process or to the file beside the configuration. -/
abbrev Environment : Type := List Char → Option (List Char)

def startsVariable (character : Char) : Bool := character.isUpper || character == '_'

def inVariable (character : Char) : Bool :=
  character.isUpper || character.isDigit || character == '_'

/-- A variable that is not known is left as it is. -/
def variableValue (environment : Environment) (name : List Char) : List Char :=
  (environment name).getD ('$' :: name)

/-- The rest of a text, when the name of a variable has been read so far, or none has begun. -/
def expandFrom (environment : Environment) : Option (List Char) → List Char → List Char
  | pending, [] => (pending.map (variableValue environment)).getD []
  | pending, character :: rest =>
    if pending.isSome && inVariable character then
      expandFrom environment (pending.map (· ++ [character])) rest
    else
      (pending.map (variableValue environment)).getD [] ++
        if character == '$' && rest.head?.any startsVariable then
          expandFrom environment (some []) rest
        else character :: expandFrom environment none rest

def expandEnvVars (environment : Environment) (text : List Char) : List Char :=
  expandFrom environment none text

example : expandEnvVars (fun name => if name = "HOME".toList then some "/a".toList else none)
    "x=$HOME/$NONE$(b)".toList = "x=/a/$NONE$(b)".toList := by decide

theorem expandEnvVars_plain (environment : Environment) {text : List Char} (plain : '$' ∉ text) :
    expandEnvVars environment text = text := by
  unfold expandEnvVars
  induction text with
  | nil => rfl
  | cons character rest ih =>
    have further := List.not_mem_of_not_mem_cons plain
    have kept : (character == '$') = false :=
      beq_false_of_ne (Ne.symm (List.ne_of_not_mem_cons plain))
    simp only [expandFrom, Option.isSome_none, Bool.false_and, Bool.false_eq_true, if_false,
      Option.map_none, Option.getD_none, List.nil_append, kept, ih further]

/-- What the catalog makes of a pattern of the file. -/
def loadedPattern (environment : Environment) (pattern : List Char) : List Char :=
  toAsciiLowercase (expandEnvVars environment pattern)

/-- How the tools are named, with the patterns of a saved configuration. -/
def RouterConfig.withSaved (naming : RouterConfig) (environment : Environment)
    (saved : OperatorConfig) : RouterConfig :=
  { naming with disabledTools := saved.disabledTools.map (loadedPattern environment) }

/-! ### A name as a pattern -/

/-- The parts of a text that is still to come are found in it: each one at its own place or
before, so that what follows it is still to come. -/
theorem matchParts_of_suffix (pattern : List Char) :
    ∀ (parts : List (List Char)) (first : Bool) (remainder : List Char),
      first = false ∨ pattern.head? = some '*' →
      List.intercalate ['*'] parts <:+ remainder →
      matchParts pattern first remainder parts = true := by
  intro parts
  induction parts with
  | nil => intro _ _ _ _; rfl
  | cons part rest ih =>
    intro first remainder anywhere ends
    have skipped : (first && pattern.head? != some '*') = false := by
      obtain later | star := anywhere
      · rw [later, Bool.false_and]
      · rw [star, bne_self_eq_false, Bool.and_false]
    -- the text from this part on, and what follows it
    obtain ⟨front, rfl⟩ := ends
    obtain ⟨tail, whole, further⟩ : ∃ tail, List.intercalate ['*'] (part :: rest) = part ++ tail ∧
        List.intercalate ['*'] rest <:+ tail := by
      cases rest with
      | nil => exact ⟨[], by simp, List.suffix_rfl⟩
      | cons next others =>
        refine ⟨['*'] ++ List.intercalate ['*'] (next :: others), ?_, List.suffix_append _ _⟩
        rw [List.intercalate_cons_cons, List.append_assoc]
    rw [whole]
    unfold matchParts
    by_cases empty : part = []
    · rw [if_pos empty]
      apply ih first _ anywhere
      exact further.trans ((List.suffix_append part tail).trans (List.suffix_append front _))
    · rw [if_neg empty, skipped, if_neg Bool.false_ne_true]
      split
      · rename_i last
        have only : rest = [] := by
          rw [Bool.and_eq_true, List.isEmpty_iff] at last
          exact last.1
        rw [only, List.intercalate_singleton] at whole
        rw [← whole]
        exact List.isSuffixOf_iff_suffix.mpr (List.suffix_append front part)
      · have within : contains part (front ++ (part ++ tail)) = true :=
          contains_iff_within.mpr ⟨front, tail, List.append_assoc front part tail⟩
        obtain ⟨found, place⟩ := Option.isSome_iff_exists.mp within
        have early : found ≤ front.length := by
          obtain ⟨-, -, before⟩ := find_eq_some_iff.mp place
          by_contra late
          apply before front.length (Nat.lt_of_not_le late)
          rw [List.drop_left]
          exact List.prefix_append part tail
        rw [place]
        apply ih false _ (Or.inl rfl)
        refine further.trans ?_
        have rests := List.drop_suffix_drop_left (front ++ (part ++ tail))
          (Nat.add_le_add_right early part.length)
        rwa [← List.append_assoc, ← List.length_append, List.drop_left, List.append_assoc] at rests

/-- A pattern matches itself, also when it has stars. -/
theorem wildcardMatch_self (pattern : List Char) : wildcardMatch pattern pattern = true := by
  unfold wildcardMatch
  by_cases any : pattern = ['*']
  · rw [if_pos any]
  · rw [if_neg any]
    dsimp only
    have whole := @List.intercalate_splitOn _ pattern _ _ '*'
    by_cases single : (pattern.splitOn '*').length = 1
    · rw [if_pos single, beq_self_eq_true]
    · rw [if_neg single]
      have ends : List.intercalate ['*'] (pattern.splitOn '*') <:+ pattern :=
        whole.symm ▸ List.suffix_rfl
      by_cases star : pattern.head? = some '*'
      · exact matchParts_of_suffix pattern _ true pattern (Or.inr star) ends
      · -- the text in front of the first star has to come first
        obtain ⟨part, next, others, parts⟩ : ∃ part next others,
            pattern.splitOn '*' = part :: next :: others := by
          cases split : pattern.splitOn '*' with
          | nil => exact absurd split (List.splitOn_ne_nil '*' pattern)
          | cons part rest =>
            cases rest with
            | nil => exact absurd (by rw [split]; rfl) single
            | cons next others => exact ⟨part, next, others, rfl⟩
        rw [parts] at whole ⊢
        rw [List.intercalate_cons_cons, List.append_assoc] at whole
        have filled : part ≠ [] := by
          rintro rfl
          rw [← whole] at star
          exact star rfl
        unfold matchParts
        rw [if_neg filled, Bool.true_and, if_pos (bne_iff_ne.mpr star), Bool.and_eq_true]
        constructor
        · exact List.isPrefixOf_iff_prefix.mpr ⟨_, whole⟩
        · apply matchParts_of_suffix pattern _ false _ (Or.inl rfl)
          have rests : pattern.drop part.length =
              ['*'] ++ List.intercalate ['*'] (next :: others) := by
            rw [← whole, List.drop_left]
          rw [rests]
          exact List.suffix_append _ _

theorem plain_of_same {pattern name : List Char} (plain : '$' ∉ name)
    (same : toAsciiLowercase pattern = toAsciiLowercase name) : '$' ∉ pattern := by
  intro inside
  have folded : Char.toLower '$' ∈ toAsciiLowercase name := same ▸ List.mem_map_of_mem inside
  obtain ⟨character, member, lowered⟩ := List.mem_map.mp folded
  have dollar : character = '$' := Text.of_toLower rfl lowered
  exact plain (dollar ▸ member)

theorem isDisabledTool_self (name : List Char) :
    isDisabledTool [toAsciiLowercase name] name = true := by
  rw [isDisabledTool_folded, wildcardMatch_self]

/-! ### The tools of a catalog -/

variable {Details : Type}

/-- A tool of a server, or one of Plug's own. -/
inductive CatalogTool (Details : Type) where
  | upstream (entry : Classified Details)
  | own (name : List Char)
deriving DecidableEq

def legacyMetaToolNames : List (List Char) :=
  ["plug__list_servers".toList, "plug__list_tools".toList, searchToolName,
    "plug__invoke_tool".toList]

def catalogTools (classified : List (Classified Details)) : List (CatalogTool Details) :=
  classified.map .upstream ++ legacyMetaToolNames.map .own

/-- The name that a tool is listed under. -/
def CatalogTool.wireName (naming : RouterConfig) (classified : List (Classified Details)) :
    CatalogTool Details → List Char
  | .upstream entry => prefixedName naming classified entry
  | .own name => name

/-- The tool is left out of the catalog for the patterns of the configuration. -/
def CatalogTool.hidden (config : RouterConfig) (classified : List (Classified Details)) :
    CatalogTool Details → Bool
  | .upstream entry =>
    switchedOff config (prefixedName config classified entry) entry.serverName
  | .own name => isDisabledTool config.disabledTools name

/-- A pattern alone would hide the tool. -/
def CatalogTool.matchedBy (naming : RouterConfig) (classified : List (Classified Details))
    (pattern : List Char) (tool : CatalogTool Details) : Bool :=
  tool.hidden { naming with disabledTools := [pattern] } classified

section Hidden

variable (naming : RouterConfig) (classified : List (Classified Details))

/-- A tool is hidden when one of the patterns alone would hide it. -/
theorem CatalogTool.hidden_any (patterns : List (List Char)) (tool : CatalogTool Details) :
    tool.hidden { naming with disabledTools := patterns } classified =
      patterns.any fun pattern => tool.matchedBy naming classified pattern := by
  cases tool with
  | own name => exact isDisabledTool_any patterns name
  | upstream entry =>
    change switchedOff { naming with disabledTools := patterns }
        (prefixedName naming classified entry) entry.serverName =
      patterns.any fun pattern => switchedOff { naming with disabledTools := [pattern] }
        (prefixedName naming classified entry) entry.serverName
    unfold switchedOff
    dsimp only
    have others := any_isDisabledTool patterns
      (otherNames (prefixedName naming classified entry) entry.serverName naming.prefixDelimiter)
    rw [others, isDisabledTool_any, Bool.eq_iff_iff, Bool.and_eq_true, Bool.or_eq_true]
    simp only [@List.any_eq_true _ _ patterns, Bool.and_eq_true, Bool.or_eq_true]
    constructor
    · rintro ⟨-, ⟨pattern, member, matching⟩ | ⟨pattern, member, matching⟩⟩
      · exact ⟨pattern, member, rfl, Or.inl matching⟩
      · exact ⟨pattern, member, rfl, Or.inr matching⟩
    · rintro ⟨pattern, member, -, matching⟩
      have filled : (!patterns.isEmpty) = true := by
        cases patterns with
        | nil => cases member
        | cons first rest => rfl
      obtain named | otherwise := matching
      · exact ⟨filled, Or.inl ⟨pattern, member, named⟩⟩
      · exact ⟨filled, Or.inr ⟨pattern, member, otherwise⟩⟩

variable {naming classified} {environment : Environment} {saved : OperatorConfig}
  {tool : CatalogTool Details}

theorem CatalogTool.hidden_withSaved :
    tool.hidden (naming.withSaved environment saved) classified = true ↔
      ∃ pattern ∈ saved.disabledTools,
        tool.matchedBy naming classified (loadedPattern environment pattern) = true := by
  rw [RouterConfig.withSaved, CatalogTool.hidden_any, List.any_map, List.any_eq_true]
  rfl

end Hidden

/-! ### The change of the patterns -/

section Switching

variable {disabledTools changed : List (List Char)} {wireName : List Char}

/-- Switching on takes the name's own entries out, if no other one covers the name. -/
theorem setToolEnabled_on : setToolEnabled disabledTools wireName true = .ok changed ↔
    trim wireName ≠ [] ∧
      (∀ pattern ∈ disabledTools, sameIgnoringCase pattern wireName = false →
        isDisabledTool [pattern] wireName = false) ∧
      changed = disabledTools.filter fun pattern => !sameIgnoringCase pattern wireName := by
  unfold setToolEnabled
  by_cases blank : trim wireName = []
  · simp [blank]
  · rw [if_neg blank, if_pos rfl]
    dsimp only
    cases found : (disabledTools.filter fun pattern => !sameIgnoringCase pattern wireName).find?
        fun pattern => isDisabledTool [pattern] wireName with
    | some pattern =>
      have covers := List.find?_some found
      have kept := List.mem_filter.mp (List.mem_of_find?_eq_some found)
      simp only [reduceCtorEq, ne_eq, blank, not_false_eq_true, true_and, false_iff, not_and]
      intro none
      have uncovered := none pattern kept.1 (by simpa using kept.2)
      rw [uncovered] at covers
      cases covers
    | none =>
      have uncovered : ∀ pattern ∈ disabledTools, sameIgnoringCase pattern wireName = false →
          isDisabledTool [pattern] wireName = false := by
        intro pattern member other
        have kept : pattern ∈ disabledTools.filter fun pattern =>
            !sameIgnoringCase pattern wireName := List.mem_filter.mpr ⟨member, by simp [other]⟩
        simpa using List.find?_eq_none.mp found pattern kept
      constructor
      · intro same
        exact ⟨blank, uncovered, (Except.ok.inj same).symm⟩
      · rintro ⟨-, -, rfl⟩
        rfl

/-- Switching off puts the name among the entries, if it is not there. -/
theorem setToolEnabled_off : setToolEnabled disabledTools wireName false = .ok changed ↔
    trim wireName ≠ [] ∧ changed =
      if disabledTools.any fun pattern => sameIgnoringCase pattern wireName then disabledTools
      else sortStrings (disabledTools ++ [wireName]) := by
  unfold setToolEnabled
  by_cases blank : trim wireName = []
  · simp [blank]
  · rw [if_neg blank, if_neg Bool.false_ne_true]
    split
    · simp [blank, eq_comm]
    · simp [blank, eq_comm]

end Switching

/-! ### Switching one tool -/

section Alone

variable (validate : Validate) (toolBehind : ToolBehind) (environment : Environment)
  (naming : RouterConfig) (classified : List (Classified Details)) (config : OperatorConfig)
  (tool : CatalogTool Details)

/-- The change is made, and this is the configuration that is saved. -/
def SwitchedTo (enabled : Bool) (saved : OperatorConfig) : Prop :=
  ∃ result, mutate validate toolBehind config
    (.setToolEnabled (tool.wireName naming classified) enabled) = .ok (saved, result)

/-- Of a catalog that is built from the saved configuration: switching on shows the tool, and
switching off hides it and no other one that was shown. -/
structure SwitchesAlone : Prop where
  shows : ∀ saved, SwitchedTo validate toolBehind naming classified config tool true saved →
    tool.hidden (naming.withSaved environment saved) classified = false
  hides : ∃ saved, SwitchedTo validate toolBehind naming classified config tool false saved ∧
    tool.hidden (naming.withSaved environment saved) classified = true ∧
    ∀ other ∈ catalogTools classified,
      other.wireName naming classified ≠ tool.wireName naming classified →
      other.hidden (naming.withSaved environment config) classified = false →
      other.hidden (naming.withSaved environment saved) classified = false

/-- An entry is the name itself, apart from ASCII case. -/
def HasEntry (wireName : List Char) : Prop :=
  ∃ pattern ∈ config.disabledTools, sameIgnoringCase pattern wireName = true

/-- An entry that is not the name itself covers it, as it is written. -/
def Covered (wireName : List Char) : Prop :=
  ∃ pattern ∈ config.disabledTools, sameIgnoringCase pattern wireName = false ∧
    isDisabledTool [pattern] wireName = true

/-- The patterns reach the tool by its wire name alone, and the wire name reaches no other. -/
structure NamedApart : Prop where
  named : trim (tool.wireName naming classified) ≠ []
  onlyItself : ∀ pattern ∈ config.disabledTools,
    sameIgnoringCase pattern (tool.wireName naming classified) = false →
    tool.matchedBy naming classified (loadedPattern environment pattern) = true →
    Covered config (tool.wireName naming classified)
  itself : '$' ∈ tool.wireName naming classified →
    tool.hidden (naming.withSaved environment config) classified = true ∨
    ¬ HasEntry config (tool.wireName naming classified) ∧
      tool.matchedBy naming classified
        (loadedPattern environment (tool.wireName naming classified)) = true
  noOther : HasEntry config (tool.wireName naming classified) ∨
    ∀ other ∈ catalogTools classified,
      other.wireName naming classified ≠ tool.wireName naming classified →
      other.matchedBy naming classified
        (loadedPattern environment (tool.wireName naming classified)) = true →
      other.hidden (naming.withSaved environment config) classified = true

variable {validate toolBehind environment naming classified config tool}

theorem switchedTo_iff {enabled : Bool} {saved : OperatorConfig} :
    SwitchedTo validate toolBehind naming classified config tool enabled saved ↔
      ∃ changed, setToolEnabled config.disabledTools (tool.wireName naming classified) enabled =
        .ok changed ∧ saved = { config with disabledTools := changed } := by
  unfold SwitchedTo
  constructor
  · rintro ⟨result, switched⟩
    obtain ⟨changed, done, made⟩ := map_eq_ok switched
    exact ⟨changed, done, (Prod.mk.inj made).1.symm⟩
  · rintro ⟨changed, done, rfl⟩
    exact ⟨⟨none, some changed⟩, by simp only [mutate, done, Except.map]⟩

/-- What is hidden after the name was put among the entries. -/
theorem hidden_added (other : CatalogTool Details) (wireName : List Char) :
    other.hidden (naming.withSaved environment
        { config with disabledTools := sortStrings (config.disabledTools ++ [wireName]) })
        classified = true ↔
      other.hidden (naming.withSaved environment config) classified = true ∨
        other.matchedBy naming classified (loadedPattern environment wireName) = true := by
  rw [CatalogTool.hidden_withSaved, CatalogTool.hidden_withSaved]
  simp only [sortStrings, List.mem_insertionSort, List.mem_append, List.mem_singleton]
  constructor
  · rintro ⟨pattern, before | rfl, matching⟩
    · exact Or.inl ⟨pattern, before, matching⟩
    · exact Or.inr matching
  · rintro (⟨pattern, before, matching⟩ | matching)
    · exact ⟨pattern, Or.inl before, matching⟩
    · exact ⟨wireName, Or.inr rfl, matching⟩

theorem shows_iff (filled : trim (tool.wireName naming classified) ≠ []) :
    (∀ saved, SwitchedTo validate toolBehind naming classified config tool true saved →
        tool.hidden (naming.withSaved environment saved) classified = false) ↔
      ∀ pattern ∈ config.disabledTools,
        sameIgnoringCase pattern (tool.wireName naming classified) = false →
        tool.matchedBy naming classified (loadedPattern environment pattern) = true →
        Covered config (tool.wireName naming classified) := by
  constructor
  · intro shows pattern member other matching
    by_contra uncovered
    have free : ∀ further ∈ config.disabledTools,
        sameIgnoringCase further (tool.wireName naming classified) = false →
        isDisabledTool [further] (tool.wireName naming classified) = false := by
      intro further inside apart
      rw [Bool.eq_false_iff]
      intro covers
      exact uncovered ⟨further, inside, apart, covers⟩
    have shown := shows _ (switchedTo_iff.mpr
      ⟨_, setToolEnabled_on.mpr ⟨filled, free, rfl⟩, rfl⟩)
    have kept : pattern ∈ config.disabledTools.filter fun pattern =>
        !sameIgnoringCase pattern (tool.wireName naming classified) :=
      List.mem_filter.mpr ⟨member, by rw [other]; rfl⟩
    exact absurd (CatalogTool.hidden_withSaved.mpr ⟨pattern, kept, matching⟩)
      (Bool.eq_false_iff.mp shown)
  · intro onlyItself saved switched
    obtain ⟨changed, done, rfl⟩ := switchedTo_iff.mp switched
    obtain ⟨-, free, rfl⟩ := setToolEnabled_on.mp done
    rw [Bool.eq_false_iff]
    intro hidden
    obtain ⟨pattern, kept, matching⟩ := CatalogTool.hidden_withSaved.mp hidden
    obtain ⟨member, different⟩ := List.mem_filter.mp kept
    have other : sameIgnoringCase pattern (tool.wireName naming classified) = false := by
      simpa using different
    obtain ⟨covering, inside, apart, covers⟩ := onlyItself pattern member other matching
    rw [free covering inside apart] at covers
    cases covers

theorem hides_iff :
    (∃ saved, SwitchedTo validate toolBehind naming classified config tool false saved ∧
      tool.hidden (naming.withSaved environment saved) classified = true ∧
      ∀ other ∈ catalogTools classified,
        other.wireName naming classified ≠ tool.wireName naming classified →
        other.hidden (naming.withSaved environment config) classified = false →
        other.hidden (naming.withSaved environment saved) classified = false) ↔
    trim (tool.wireName naming classified) ≠ [] ∧
      (tool.hidden (naming.withSaved environment config) classified = true ∨
        ¬ HasEntry config (tool.wireName naming classified) ∧
          tool.matchedBy naming classified
            (loadedPattern environment (tool.wireName naming classified)) = true) ∧
      (HasEntry config (tool.wireName naming classified) ∨
        ∀ other ∈ catalogTools classified,
          other.wireName naming classified ≠ tool.wireName naming classified →
          other.matchedBy naming classified
            (loadedPattern environment (tool.wireName naming classified)) = true →
          other.hidden (naming.withSaved environment config) classified = true) := by
  by_cases entry : HasEntry config (tool.wireName naming classified)
  · -- nothing is changed
    have present : (config.disabledTools.any fun pattern =>
        sameIgnoringCase pattern (tool.wireName naming classified)) = true :=
      List.any_eq_true.mpr entry
    simp only [switchedTo_iff, setToolEnabled_off, present, if_true, entry, not_true, false_and,
      or_false, true_or, and_true]
    constructor
    · rintro ⟨_, ⟨_, ⟨filled, rfl⟩, rfl⟩, hidden, -⟩
      exact ⟨filled, hidden⟩
    · rintro ⟨filled, hidden⟩
      exact ⟨_, ⟨_, ⟨filled, rfl⟩, rfl⟩, hidden, fun _ _ _ shown => shown⟩
  · have absent : (config.disabledTools.any fun pattern =>
        sameIgnoringCase pattern (tool.wireName naming classified)) = false := by
      rw [Bool.eq_false_iff]
      intro present
      exact entry (List.any_eq_true.mp present)
    simp only [switchedTo_iff, setToolEnabled_off, absent, Bool.false_eq_true, if_false, entry,
      not_false_eq_true, true_and, false_or]
    constructor
    · rintro ⟨_, ⟨_, ⟨filled, rfl⟩, rfl⟩, hidden, others⟩
      refine ⟨filled, (hidden_added tool _).mp hidden, ?_⟩
      intro other member apart matching
      by_contra shown
      have after := others other member apart (Bool.eq_false_iff.mpr shown)
      exact absurd ((hidden_added other _).mpr (Or.inr matching)) (Bool.eq_false_iff.mp after)
    · rintro ⟨filled, hidden, others⟩
      refine ⟨_, ⟨_, ⟨filled, rfl⟩, rfl⟩, (hidden_added tool _).mpr hidden, ?_⟩
      intro other member apart shown
      rw [Bool.eq_false_iff]
      intro after
      obtain before | matching := (hidden_added other _).mp after
      · exact absurd before (Bool.eq_false_iff.mp shown)
      · exact absurd (others other member apart matching) (Bool.eq_false_iff.mp shown)

/-- A name without variables reaches its own tool. -/
theorem matchedBy_self (environment : Environment)
    (plain : '$' ∉ tool.wireName naming classified) :
    tool.matchedBy naming classified
      (loadedPattern environment (tool.wireName naming classified)) = true := by
  rw [loadedPattern, expandEnvVars_plain environment plain]
  cases tool with
  | own name => exact isDisabledTool_self name
  | upstream entry =>
    have itself := isDisabledTool_self (prefixedName naming classified entry)
    change switchedOff
      { naming with disabledTools := [toAsciiLowercase (prefixedName naming classified entry)] }
      (prefixedName naming classified entry) entry.serverName = true
    rw [switchedOff, Bool.and_eq_true, Bool.or_eq_true]
    exact ⟨rfl, Or.inl itself⟩

/-- So the name's entry, with letters in whatever case, hides it. -/
theorem hidden_of_entry (environment : Environment) (plain : '$' ∉ tool.wireName naming classified)
    (entry : HasEntry config (tool.wireName naming classified)) :
    tool.hidden (naming.withSaved environment config) classified = true := by
  obtain ⟨pattern, member, same⟩ := entry
  rw [sameIgnoringCase, beq_iff_eq] at same
  have matching := matchedBy_self environment plain
  rw [loadedPattern, expandEnvVars_plain environment plain, ← same,
    ← expandEnvVars_plain environment (plain_of_same plain same)] at matching
  exact CatalogTool.hidden_withSaved.mpr ⟨pattern, member, matching⟩

variable (validate toolBehind environment naming classified config tool)

/-- A tool is switched alone exactly if the patterns tell it from the others by its wire name. -/
theorem switchesAlone_iff :
    SwitchesAlone validate toolBehind environment naming classified config tool ↔
      NamedApart environment naming classified config tool := by
  constructor
  · rintro ⟨shows, hides⟩
    obtain ⟨filled, itself, noOther⟩ := hides_iff.mp hides
    exact ⟨filled, (shows_iff filled).mp shows, fun _ => itself, noOther⟩
  · rintro ⟨filled, onlyItself, itself, noOther⟩
    refine ⟨(shows_iff filled).mpr onlyItself, hides_iff.mpr ⟨filled, ?_, noOther⟩⟩
    by_cases dollar : '$' ∈ tool.wireName naming classified
    · exact itself dollar
    · by_cases entry : HasEntry config (tool.wireName naming classified)
      · exact Or.inl (hidden_of_entry environment dollar entry)
      · exact Or.inr ⟨entry, matchedBy_self environment dollar⟩

end Alone

/-- Two accounts under one group. -/
def twoMailboxes : ServerManager where
  getUpstream _ := some { toolRenames := [], toolGroups := [group "Gmail" ["gmail"] ["gmail"]] }
  reportedName _ := none

def mailTools : List (List Char × Tool Unit) :=
  [("home".toList, ⟨"gmail_send".toList, ()⟩), ("work".toList, ⟨"gmail_send".toList, ()⟩)]

def mailCatalog : List (Classified Unit) := classifiedTools asciiCasing twoMailboxes mailTools

/-- The tool was switched off when there was one account. -/
def formerName : OperatorConfig :=
  ⟨[], noServers, [], noClients, ["Gmail__send".toList], []⟩

def workSend : CatalogTool Unit :=
  .upstream ⟨"work".toList, ⟨"gmail_send".toList, ()⟩, "GmailWork".toList, "send".toList,
    "gmail_send".toList⟩

/-- Switching it on under its name with the account leaves the former name among the patterns, and
the tool hidden. -/
theorem former_name_kept :
    workSend ∈ catalogTools mailCatalog ∧
      workSend.wireName plainConfig mailCatalog = "GmailWork__send".toList ∧
      ¬ SwitchesAlone (fun _ => []) (fun _ => none) (fun _ => none) plainConfig mailCatalog formerName
        workSend := by
  have name : workSend.wireName plainConfig mailCatalog = "GmailWork__send".toList := by
    decide +kernel
  refine ⟨by decide +kernel, name, ?_⟩
  intro alone
  have shown := alone.shows formerName
    (switchedTo_iff.mpr ⟨["Gmail__send".toList], by rw [name]; decide +kernel, rfl⟩)
  exact absurd shown (by decide +kernel)

end Plug.Catalog
