import Mathlib.Data.List.Flatten
import Plug.TextSearch
import Plug.ToolNaming

/-!
# Keys of extension metadata

Which keys of a peer's metadata may cross the proxy. A key with a prefix is a vendor's extension
unless the prefix is one that the protocol or Plug reserves, or its name looks like one that
controls access or routing: the name is cut into words, and the words or all their letters together
are compared with lists. What the words' letters are does not depend on where the capitals stand;
where the words end does.
-/

namespace Plug.ExtensionKeys

open Text

variable {vendor name : List Char}

inductive ExtensionEnvelopeError where
  | invalidKey
  | reservedNamespace
  | controlShapedKey
  | secretShapedValue
  | tooDeep
  | tooManyValues
  | tooLarge
  deriving DecidableEq

inductive ExtensionKeyDisposition where
  | forward
  | ignore
  deriving DecidableEq

/-- Core fields that Plug consumes or ignores. -/
def nonForwardedMetaKeys : List (List Char) :=
  ["progressToken".toList, "traceparent".toList, "tracestate".toList, "baggage".toList,
    "io.modelcontextprotocol/protocolVersion".toList,
    "io.modelcontextprotocol/clientInfo".toList,
    "io.modelcontextprotocol/clientCapabilities".toList,
    "io.modelcontextprotocol/logLevel".toList, "plug.dev/legacy-task".toList]

def isNonForwardedMetaKey (key : List Char) : Bool :=
  nonForwardedMetaKeys.contains key

def forwardedMcpExtensionKeys : List (List Char) :=
  ["ui".toList, "io.modelcontextprotocol/ui".toList, "io.modelcontextprotocol/apps".toList]

def isForwardedMcpExtensionKey (key : List Char) : Bool :=
  forwardedMcpExtensionKeys.contains key

/-- The second label of the prefix is one of the protocol's. -/
def isMcpReservedPrefix (vendor : List Char) : Bool :=
  match (vendor.splitOn '.')[1]? with
  | some label =>
    toAsciiLowercase label = "mcp".toList ||
      toAsciiLowercase label = "modelcontextprotocol".toList
  | none => false

def reservedStarts : List (List Char) :=
  ["plug/".toList, "plug.".toList, "io.plug/".toList, "com.plug/".toList]

def isReservedExtensionKey (key : List Char) : Bool :=
  reservedStarts.any fun start => start.isPrefixOf (toAsciiLowercase key)

/-- A label begins with a letter and ends with a letter or a digit; between them a hyphen may
stand too. A character that is not ASCII has no byte that passes for one. -/
def validLabel (label : List Char) : Bool :=
  label.head?.any Char.isAlpha && label.getLast?.any Char.isAlphanum &&
    label.all fun character => character.isAlphanum || character = '-'

def validMetaPrefix (vendor : List Char) : Bool :=
  !vendor.isEmpty && (vendor.splitOn '.').all validLabel

def isSeparator (character : Char) : Bool :=
  character = '.' || character = '_' || character = '-'

def validMetaName (name : List Char) : Bool :=
  name.isEmpty ||
    name.head?.any Char.isAlphanum && name.getLast?.any Char.isAlphanum &&
      name.all fun character => character.isAlphanum || isSeparator character

def validateMetaName (name : List Char) : Except ExtensionEnvelopeError Unit :=
  if validMetaName name then .ok () else .error .invalidKey

/-! ### Names that look like controls -/

def pushWord (current : List Char) (words : List (List Char)) : List (List Char) :=
  if current.isEmpty then words else current :: words

/-- The rest of the name cut into words, behind the letters of a word that is not complete. A
separator ends a word, and so does each capital. -/
def wordsFrom (current : List Char) : List Char → List (List Char)
  | [] => pushWord current []
  | character :: rest =>
    if isSeparator character then pushWord current (wordsFrom [] rest)
    else if character.isUpper && !current.isEmpty then
      current :: wordsFrom [character.toLower] rest
    else wordsFrom (current ++ [character.toLower]) rest

def controlWords : List (List Char) :=
  ["auth".toList, "authentication".toList, "authorization".toList, "authorize".toList,
    "oauth".toList, "token".toList, "password".toList, "secret".toList, "cookie".toList,
    "credential".toList, "credentials".toList, "principal".toList, "scope".toList,
    "scopes".toList, "route".toList, "routing".toList, "requeststate".toList,
    "continuation".toList]

def compactControls : List (List Char) :=
  ["accesstoken".toList, "refreshtoken".toList, "authtoken".toList, "apikey".toList,
    "privatekey".toList, "clientcredential".toList, "clientcredentials".toList,
    "requeststate".toList]

def controlShapedExtensionName (name : List Char) : Bool :=
  (wordsFrom [] name).any controlWords.contains ||
    compactControls.contains (wordsFrom [] name).flatten

/-! ### The decision about a key -/

def validateExtensionKey (key : List Char) :
    Except ExtensionEnvelopeError ExtensionKeyDisposition :=
  if isReservedExtensionKey key then .error .reservedNamespace
  else
    match splitOnce ['/'] key with
    | none => do
      validateMetaName key
      if isForwardedMcpExtensionKey key then .ok .forward else .ok .ignore
    | some (vendor, name) =>
      if name.contains '/' || !validMetaPrefix vendor then .error .invalidKey
      else do
        validateMetaName name
        if isMcpReservedPrefix vendor && !isForwardedMcpExtensionKey key then .ok .ignore
        else if controlShapedExtensionName name then .error .controlShapedKey
        else .ok .forward

/-- A well-formed key of a vendor, outside the namespaces of the protocol and of Plug. -/
structure VendorKey (vendor name : List Char) : Prop where
  labels : validMetaPrefix vendor
  named : validMetaName name
  foreign : isMcpReservedPrefix vendor = false
  apart : isReservedExtensionKey (vendor ++ '/' :: name) = false

/-- A key that crosses is one of the protocol's that do, or a vendor's whose name is no control. -/
theorem forward_cases {key : List Char} (forward : validateExtensionKey key = .ok .forward) :
    isForwardedMcpExtensionKey key ∨ ∃ vendor name, key = vendor ++ '/' :: name ∧
      VendorKey vendor name ∧ controlShapedExtensionName name = false := by
  rw [validateExtensionKey] at forward
  by_cases reserved : isReservedExtensionKey key
  · rw [if_pos reserved] at forward
    cases forward
  rw [if_neg reserved] at forward
  cases split : splitOnce ['/'] key with
  | none =>
    left
    rw [split] at forward
    by_cases named : validMetaName key
    · by_contra other
      rw [validateMetaName, if_pos named, if_neg other] at forward
      cases forward
    · rw [validateMetaName, if_neg named] at forward
      cases forward
  | some cut =>
    obtain ⟨vendor, name⟩ := cut
    have written : key = vendor ++ '/' :: name := by
      rw [(splitOnce_eq_some_iff.mp split).1, List.append_assoc, List.singleton_append]
    rw [split] at forward
    by_cases mcp : isForwardedMcpExtensionKey key
    · exact .inl mcp
    · cases malformed : name.contains '/' || !validMetaPrefix vendor with
      | true =>
        dsimp only at forward
        rw [malformed, if_pos rfl] at forward
        cases forward
      | false =>
        dsimp only at forward
        rw [malformed, if_neg Bool.false_ne_true] at forward
        rw [Bool.or_eq_false_iff, Bool.not_eq_false'] at malformed
        rw [Bool.not_eq_true] at mcp
        by_cases named : validMetaName name
        · rw [validateMetaName, if_pos named, mcp, Bool.not_false, Bool.and_true] at forward
          by_cases foreign : isMcpReservedPrefix vendor
          · rw [if_pos foreign] at forward
            cases forward
          · rw [if_neg foreign] at forward
            by_cases control : controlShapedExtensionName name
            · rw [if_pos control] at forward
              cases forward
            · refine .inr ⟨vendor, name, written, ⟨malformed.2, named, ?_, ?_⟩, ?_⟩
              · exact Bool.not_eq_true _ ▸ foreign
              · rw [← written]
                exact Bool.not_eq_true _ ▸ reserved
              · exact Bool.not_eq_true _ ▸ control
        · rw [validateMetaName, if_neg named] at forward
          cases forward

/-! ### Letter case -/

theorem isAlpha_toLower (character : Char) : character.toLower.isAlpha = character.isAlpha := by
  delta Char.toLower Char.isAlpha Char.isUpper Char.isLower
  split
  · simp_all
    grind
  · rfl

theorem isDigit_toLower (character : Char) : character.toLower.isDigit = character.isDigit := by
  delta Char.toLower Char.isDigit
  split
  · simp_all
    grind
  · rfl

theorem isAlphanum_toLower (character : Char) :
    character.toLower.isAlphanum = character.isAlphanum := by
  rw [Char.isAlphanum, isAlpha_toLower, isDigit_toLower, Char.isAlphanum]

theorem toLower_toUpper (character : Char) : character.toUpper.toLower = character.toLower := by
  delta Char.toLower Char.toUpper
  by_cases small : 'a'.val ≤ character.val ∧ character.val ≤ 'z'.val
  · have other : ¬ ('A'.val ≤ character.val ∧ character.val ≤ 'Z'.val) := by
      simp at small ⊢
      grind
    have capital : 'A'.val ≤ character.val + ('A'.val - 'a'.val) ∧
        character.val + ('A'.val - 'a'.val) ≤ 'Z'.val := by
      simp at small ⊢
      grind
    simp only [dif_pos small, dif_neg other, dif_pos capital]
    apply Char.ext
    dsimp only
    simp
    grind
  · simp only [dif_neg small]

/-- No letter is small in a name of capitals. -/
theorem isLower_toUpper (character : Char) : character.toUpper.isLower = false := by
  delta Char.toUpper Char.isLower
  split
  · simp_all
    grind
  · simp_all

theorem isSeparator_toLower (character : Char) :
    isSeparator character.toLower = isSeparator character := by
  have sign (other : Char) (small : other.isLower = false) (fixed : other.toLower = other) :
      character.toLower = other ↔ character = other :=
    ⟨of_toLower small, fun same => same ▸ fixed⟩
  simp only [isSeparator, sign '.' (by decide) (by decide),
    sign '_' (by decide) (by decide), sign '-' (by decide) (by decide)]

/-- The grammar of names does not see the letter case. -/
theorem validMetaName_folded (name : List Char) :
    validMetaName (toAsciiLowercase name) = validMetaName name := by
  simp only [validMetaName, toAsciiLowercase, List.isEmpty_map, List.head?_map, List.getLast?_map,
    Option.any_map, List.all_map, Function.comp_def, isAlphanum_toLower, isSeparator_toLower]

theorem isReservedExtensionKey_folded {key other : List Char}
    (same : toAsciiLowercase key = toAsciiLowercase other) :
    isReservedExtensionKey key = isReservedExtensionKey other := by
  rw [isReservedExtensionKey, same, isReservedExtensionKey]

theorem VendorKey.folded {spelling : List Char} (key : VendorKey vendor name)
    (same : toAsciiLowercase spelling = toAsciiLowercase name) : VendorKey vendor spelling where
  labels := key.labels
  named := by
    rw [← validMetaName_folded, same, validMetaName_folded]
    exact key.named
  foreign := key.foreign
  apart := by
    have keys : toAsciiLowercase (vendor ++ '/' :: spelling) =
        toAsciiLowercase (vendor ++ '/' :: name) := by
      simp only [toAsciiLowercase, List.map_append, List.map_cons] at same ⊢
      rw [same]
    rw [isReservedExtensionKey_folded keys]
    exact key.apart

/-! ### The words of a name -/

/-- All letters and digits of the name, in lower case. -/
def letters (name : List Char) : List Char :=
  (toAsciiLowercase name).filter fun character => !isSeparator character

theorem flatten_pushWord (current : List Char) (words : List (List Char)) :
    (pushWord current words).flatten = current ++ words.flatten := by
  cases current <;> rfl

/-- Together the words have the letters of the name, wherever the capitals stand. -/
theorem flatten_wordsFrom (current name : List Char) :
    (wordsFrom current name).flatten = current ++ letters name := by
  induction name generalizing current with
  | nil => exact flatten_pushWord current []
  | cons character rest ih =>
    have head : letters (character :: rest) =
        if isSeparator character then letters rest else character.toLower :: letters rest := by
      simp only [letters, toAsciiLowercase, List.map_cons, List.filter_cons, isSeparator_toLower]
      cases isSeparator character <;> rfl
    rw [wordsFrom, head]
    split_ifs
    · rw [flatten_pushWord, ih, List.nil_append]
    · rw [List.flatten_cons, ih, List.singleton_append]
    · rw [ih, List.append_assoc, List.singleton_append]

/-- No letter stands behind the first character of the word. -/
def Lone (word : List Char) : Prop :=
  word.tail.all fun character => !character.isLower

theorem lone_nil : Lone [] := rfl

theorem lone_single (character : Char) : Lone [character] := rfl

/-- Each capital begins a word, so in a name without small letters no word has two letters. -/
theorem lone_wordsFrom {current : List Char} (lone : Lone current)
    (capitals : ∀ character ∈ name, character.isLower = false) :
    ∀ word ∈ wordsFrom current name, Lone word := by
  have pushed {current : List Char} {words : List (List Char)} (lone : Lone current)
      (others : ∀ word ∈ words, Lone word) : ∀ word ∈ pushWord current words, Lone word := by
    intro word member
    rw [pushWord] at member
    split_ifs at member
    · exact others word member
    · rcases List.mem_cons.mp member with rfl | later
      · exact lone
      · exact others word later
  induction name generalizing current with
  | nil => exact pushed lone nofun
  | cons character rest ih =>
    have further := fun other member => capitals other (List.mem_cons_of_mem character member)
    rw [wordsFrom]
    split_ifs with separates begins
    · exact pushed lone (ih lone_nil further)
    · intro word member
      rcases List.mem_cons.mp member with rfl | later
      · exact lone
      · exact ih (lone_single _) further word later
    · refine ih ?_ further
      cases current with
      | nil => rfl
      | cons first others =>
        have plain : character.isUpper = false := by
          simpa using begins
        rw [Lone, List.cons_append, List.tail_cons, List.all_append, toLower_plain plain]
        simp only [List.all_cons, List.all_nil, capitals character List.mem_cons_self,
          Bool.not_false, Bool.and_true]
        exact lone

/-- Every control word has a second letter. -/
theorem not_lone_control : controlWords.all fun word =>
    !(word.tail.all fun character => !character.isLower) := by
  decide

/-- Written in capitals, a name is refused only for all its letters together. -/
theorem controlShaped_capitals (name : List Char) :
    controlShapedExtensionName (name.map Char.toUpper) =
      compactControls.contains (letters name) := by
  have capitals : ∀ character ∈ name.map Char.toUpper, character.isLower = false := by
    intro character member
    obtain ⟨letter, -, rfl⟩ := List.mem_map.mp member
    exact isLower_toUpper letter
  have none : (wordsFrom [] (name.map Char.toUpper)).any controlWords.contains = false := by
    rw [List.any_eq_false]
    intro word member listed
    have long := List.all_eq_true.mp not_lone_control word (List.contains_iff_mem.mp listed)
    rw [Bool.not_eq_true'] at long
    exact Bool.false_ne_true (long.symm.trans (lone_wordsFrom lone_nil capitals word member))
  have same : letters (name.map Char.toUpper) = letters name := by
    rw [letters, toAsciiLowercase, List.map_map, letters, toAsciiLowercase]
    congr 1
    exact List.map_congr_left fun character _ => toLower_toUpper character
  rw [controlShapedExtensionName, none, Bool.false_or, flatten_wordsFrom, List.nil_append, same]

/-- What stands between the separators, in lower case. -/
def parts (name : List Char) : List (List Char) :=
  (toAsciiLowercase name).splitOnP isSeparator

/-- Without capitals the words are what stands between the separators. -/
theorem wordsFrom_plain (current : List Char)
    (plain : ∀ character ∈ name, character.isUpper = false) :
    wordsFrom current name = ((name.splitOnP isSeparator).modifyHead (current ++ ·)).filter
      fun part => !part.isEmpty := by
  have pushed (current : List Char) (words : List (List Char)) :
      pushWord current (words.filter fun part => !part.isEmpty) =
        (current :: words).filter fun part => !part.isEmpty := by
    cases current <;> rfl
  induction name generalizing current with
  | nil =>
    rw [List.splitOnP_nil, List.modifyHead_cons, List.append_nil, ← pushed]
    rfl
  | cons character rest ih =>
    have further := fun other member => plain other (List.mem_cons_of_mem character member)
    rw [wordsFrom, List.splitOnP_cons_eq_if_modifyHead, plain character List.mem_cons_self,
      Bool.false_and, if_neg Bool.false_ne_true]
    split_ifs
    · have whole : (rest.splitOnP isSeparator).modifyHead ([] ++ ·) = rest.splitOnP isSeparator := by
        cases rest.splitOnP isSeparator <;> rfl
      rw [ih [] further, whole, pushed, List.modifyHead_cons, List.append_nil]
    · rw [ih _ further, toLower_plain (plain character List.mem_cons_self),
        List.modifyHead_modifyHead]
      congr 2
      funext part
      simp

/-- Written in lower case, a name is refused for a part of it or for all its letters together. -/
theorem controlShaped_lower (name : List Char) :
    controlShapedExtensionName (toAsciiLowercase name) =
      ((parts name).any controlWords.contains || compactControls.contains (letters name)) := by
  have plain : ∀ character ∈ toAsciiLowercase name, character.isUpper = false := by
    intro character member
    obtain ⟨letter, -, rfl⟩ := List.mem_map.mp member
    exact ToolNaming.isUpper_toLower letter
  have same : letters (toAsciiLowercase name) = letters name := by
    have folded : toAsciiLowercase (toAsciiLowercase name) = toAsciiLowercase name :=
      toAsciiLowercase_plain plain
    rw [letters, folded, letters]
  have whole : (parts name).modifyHead ([] ++ ·) = parts name := by
    cases parts name <;> rfl
  have filled : (fun part : List Char => !part.isEmpty && controlWords.contains part) =
      controlWords.contains := by
    funext part
    cases part with
    | nil => decide
    | cons first rest => rfl
  rw [controlShapedExtensionName, flatten_wordsFrom, List.nil_append, same,
    wordsFrom_plain [] plain, ← parts, whole, List.any_filter, filled]

end Plug.ExtensionKeys
