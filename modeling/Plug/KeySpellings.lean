import Plug.ExtensionMetadata

/-!
# Spellings of control names

Every capital in a name begins a new word, so a control word in capitals is no word of the list.
`screened_iff` says which names are refused in every letter case: those with a control word between
their separators are not, unless all their letters together are one of the compact controls.
-/

namespace Plug.KeySpellings

open JsonValues ExtensionKeys ExtensionMetadata Text

variable {vendor name spelling : List Char} {key : String} {value : Value}

/-! ### Keys with one slash -/

variable {character : Char}

theorem label_characters (labels : validMetaPrefix vendor) (member : character ∈ vendor) :
    character.isAlphanum ∨ character = '-' ∨ character = '.' := by
  rw [validMetaPrefix, Bool.and_eq_true, List.all_eq_true] at labels
  rcases mem_splitOn member with dot | ⟨label, among, inside⟩
  · exact .inr (.inr dot)
  · have valid := labels.2 label among
    rw [validLabel, Bool.and_eq_true, List.all_eq_true] at valid
    have characters := valid.2 character inside
    rw [Bool.or_eq_true, decide_eq_true_iff] at characters
    exact characters.imp_right .inl

theorem slash_vendor (labels : validMetaPrefix vendor) : '/' ∉ vendor := by
  intro member
  rcases label_characters labels member with alphanum | hyphen | dot
  · exact absurd alphanum (by decide)
  · exact absurd hyphen (by decide)
  · exact absurd dot (by decide)

theorem name_characters (named : validMetaName name) (member : character ∈ name) :
    character.isAlphanum ∨ isSeparator character := by
  rw [validMetaName, Bool.or_eq_true] at named
  rcases named with empty | named
  · rw [List.isEmpty_iff.mp empty] at member
    cases member
  · rw [Bool.and_eq_true, List.all_eq_true] at named
    simpa using named.2 character member

theorem slash_name (named : validMetaName name) : '/' ∉ name := by
  intro member
  rcases name_characters named member with alphanum | separator
  · exact absurd alphanum (by decide)
  · exact absurd separator (by decide)

/-- A key with one slash is cut at it. -/
theorem cut_unique {front back : List Char} (same : vendor ++ '/' :: name = front ++ '/' :: back)
    (frontFree : '/' ∉ front) (backFree : '/' ∉ back) : vendor = front ∧ name = back := by
  rcases List.append_eq_append_iff.mp same with ⟨between, longer, rest⟩ | ⟨between, longer, rest⟩
  · cases between with
    | nil =>
      rw [List.append_nil] at longer
      rw [List.nil_append, List.cons.injEq] at rest
      exact ⟨longer.symm, rest.2⟩
    | cons first others =>
      rw [List.cons_append, List.cons.injEq] at rest
      rw [longer, rest.1.symm] at frontFree
      exact absurd (List.mem_append_right _ List.mem_cons_self) frontFree
  · cases between with
    | nil =>
      rw [List.append_nil] at longer
      rw [List.nil_append, List.cons.injEq] at rest
      exact ⟨longer, rest.2.symm⟩
    | cons first others =>
      rw [List.cons_append, List.cons.injEq] at rest
      rw [rest.2] at backFree
      exact absurd (List.mem_append_right _ List.mem_cons_self) backFree

/-- The core fields and the extensions of the protocol are no vendor's. -/
theorem vendor_apart (key : VendorKey vendor name) :
    isNonForwardedMetaKey (vendor ++ '/' :: name) = false ∧
      isForwardedMcpExtensionKey (vendor ++ '/' :: name) = false := by
  have split : splitOnce ['/'] (vendor ++ '/' :: name) = some (vendor, name) :=
    splitOnce_character (slash_vendor key.labels) name
  have reserved : (nonForwardedMetaKeys ++ forwardedMcpExtensionKeys).all fun key =>
      isReservedExtensionKey key ||
        (splitOnce ['/'] key).all fun cut => isMcpReservedPrefix cut.1 := by
    decide
  have apart : vendor ++ '/' :: name ∉ nonForwardedMetaKeys ++ forwardedMcpExtensionKeys := by
    intro listed
    have claimed := List.all_eq_true.mp reserved _ listed
    rw [key.apart, Bool.false_or, split, Option.all_some, key.foreign] at claimed
    cases claimed
  rw [List.mem_append, not_or] at apart
  constructor
  · rw [isNonForwardedMetaKey, List.contains_eq_mem]
    exact decide_eq_false apart.1
  · rw [isForwardedMcpExtensionKey, List.contains_eq_mem]
    exact decide_eq_false apart.2

theorem validate_vendor (key : VendorKey vendor name)
    (uncontrolled : controlShapedExtensionName name = false) :
    validateExtensionKey (vendor ++ '/' :: name) = .ok .forward := by
  have split : splitOnce ['/'] (vendor ++ '/' :: name) = some (vendor, name) :=
    splitOnce_character (slash_vendor key.labels) name
  have plain : (name.contains '/' || !validMetaPrefix vendor) = false := by
    rw [key.labels, List.contains_eq_mem, decide_eq_false (slash_name key.named)]
    rfl
  rw [validateExtensionKey, key.apart, if_neg Bool.false_ne_true, split]
  dsimp only
  rw [plain, if_neg Bool.false_ne_true, validateMetaName, if_pos key.named, key.foreign,
    Bool.false_and, if_neg Bool.false_ne_true, uncontrolled, if_neg Bool.false_ne_true]
  rfl

/-! ### The text of a key -/

theorem alphanum_code (alphanum : character.isAlphanum) :
    48 ≤ character.toNat ∧ character.toNat ≤ 122 ∧ character.toNat ≠ 92 := by
  have code := Text.isAlphanum_code alphanum
  omega

theorem alphanum_plain (alphanum : character.isAlphanum) :
    isPlain character ∧ character.utf8Size = 1 := by
  obtain ⟨low, high, other⟩ := alphanum_code alphanum
  constructor
  · have quote : character ≠ '"' := by
      rintro rfl
      exact absurd low (by decide)
    have backslash : character ≠ '\\' := by
      rintro rfl
      exact other rfl
    simp only [isPlain, Bool.and_eq_true, bne_iff_ne, decide_eq_true_eq]
    exact ⟨⟨quote, backslash⟩, by omega⟩
  · rw [Char.utf8Size_eq_one_iff, UInt32.le_iff_toNat_le]
    exact high.trans (by decide)

theorem key_characters (key : VendorKey vendor name) (member : character ∈ vendor ++ '/' :: name) :
    isPlain character ∧ character.utf8Size = 1 := by
  rcases List.mem_append.mp member with inside | inside
  · rcases label_characters key.labels inside with alphanum | rfl | rfl
    · exact alphanum_plain alphanum
    · decide
    · decide
  · rcases List.mem_cons.mp inside with rfl | inside
    · decide
    · rcases name_characters key.named inside with alphanum | separator
      · exact alphanum_plain alphanum
      · simp only [isSeparator, Bool.or_eq_true, decide_eq_true_eq] at separator
        rcases separator with (rfl | rfl) | rfl
        · decide
        · decide
        · decide

theorem byteLength_small {text : List Char}
    (small : ∀ character ∈ text, character.utf8Size = 1) : byteLength text = text.length := by
  rw [byteLength, List.map_congr_left small]
  simp

/-- The key is written as it is, in quotes. -/
theorem byteLength_key (vendorKey : VendorKey vendor name)
    (written : key.toList = vendor ++ '/' :: name) :
    byteLength (writeString key) = vendor.length + name.length + 3 := by
  have plain : key.toList.all isPlain := by
    rw [List.all_eq_true]
    intro character member
    rw [written] at member
    exact (key_characters vendorKey member).1
  have small := byteLength_small fun character member => (key_characters vendorKey member).2
  have quote : byteLength ['"'] = 1 := by decide
  have quoted : '"'.utf8Size = 1 := by decide
  rw [writeString_plain plain, byteLength_append, byteLength_cons, quote, quoted, written, small,
    List.length_append, List.length_cons]
  omega

theorem encodedBytes_eq (metadata : MetaObject) :
    encodedBytes metadata = byteLength (writeMembers metadata.members) + 2 := by
  have opens : '\x7b'.utf8Size = 1 := by decide
  have closes : byteLength ['\x7d'] = 1 := by decide
  rw [encodedBytes, Value.write, byteLength_append, byteLength_cons, opens, closes]
  omega

/-! ### What is forwarded -/

/-- The text of each value is that of a JSON value, so it has a character at least. -/
def Written (metadata : MetaObject) : Prop :=
  ∀ field ∈ metadata.members, field.2.write ≠ []

/-- If the name is refused in lower case, no spelling of it is forwarded. -/
def Screened (vendor name : String) : Prop :=
  controlShapedExtensionName (toAsciiLowercase name.toList) →
    ∀ spelling : String, toAsciiLowercase spelling.toList = toAsciiLowercase name.toList →
      ∀ (metadata : MetaObject) (envelope : ExtensionEnvelope), Written metadata →
        fromPeerMeta (some metadata) = .ok envelope →
          ∀ value, (vendor ++ "/" ++ spelling, value) ∉ envelope.metadata.members

/-- The key is one that crosses in a short enough text, a control word stands between separators of
the name, and all its letters together are no compact control. -/
structure Evadable (vendor name : List Char) : Prop where
  key : VendorKey vendor name
  short : vendor.length + name.length + 7 ≤ maxEncodedBytes
  control : (parts name).any controlWords.contains
  loose : compactControls.contains (letters name) = false

/-- The protocol's extensions have names that are no controls. -/
theorem mcp_uncontrolled {spelling : List Char}
    (same : toAsciiLowercase spelling = toAsciiLowercase name)
    (listed : vendor ++ '/' :: spelling ∈ forwardedMcpExtensionKeys) :
    controlShapedExtensionName (toAsciiLowercase name) = false := by
  have cut (back : List Char) (whole : vendor ++ '/' :: spelling =
      "io.modelcontextprotocol".toList ++ '/' :: back) (backFree : '/' ∉ back) :
      toAsciiLowercase name = toAsciiLowercase back := by
    rw [← same, (cut_unique whole (by decide) backFree).2]
  simp only [forwardedMcpExtensionKeys, List.mem_cons, List.not_mem_nil, or_false] at listed
  rcases listed with bare | ui | apps
  · have slash : '/' ∈ "ui".toList := bare ▸ List.mem_append_right _ List.mem_cons_self
    exact absurd slash (by decide)
  · rw [cut "ui".toList ui (by decide)]
    decide
  · rw [cut "apps".toList apps (by decide)]
    decide

theorem slash_trace : ∀ key ∈ traceFields, '/' ∉ key.toList := by
  decide

theorem byteLength_pos {text : List Char} (filled : text ≠ []) : 0 < byteLength text := by
  cases text with
  | nil => exact absurd rfl filled
  | cons character rest =>
    have size := Char.utf8Size_pos character
    rw [byteLength_cons]
    omega

/-- A key that is forwarded is not refused, and its metadata is short enough. -/
theorem evadable_of_forwarded {spelling : String} {metadata : MetaObject}
    {envelope : ExtensionEnvelope} (written : Written metadata)
    (refused : controlShapedExtensionName (toAsciiLowercase name))
    (same : toAsciiLowercase spelling.toList = toAsciiLowercase name)
    (accepted : fromPeerMeta (some metadata) = .ok envelope)
    (keyed : key.toList = vendor ++ '/' :: spelling.toList)
    (member : (key, value) ∈ envelope.metadata.members) : Evadable vendor name := by
  obtain ⟨admissible, rfl⟩ := fromPeerMeta_iff.mp accepted
  obtain ⟨among, kept⟩ := List.mem_filter.mp member
  cases kind_of_kept (admissible.fields _ among) kept with
  | trace traced =>
    refine absurd ?_ (slash_trace key traced)
    rw [keyed]
    exact List.mem_append_right _ List.mem_cons_self
  | mcp listed _ =>
    rw [keyed] at listed
    rw [mcp_uncontrolled same listed] at refused
    cases refused
  | vendor whole vendorKey uncontrolled =>
    rw [keyed] at whole
    obtain ⟨rfl, rfl⟩ := cut_unique whole (slash_vendor vendorKey.labels)
      (slash_name vendorKey.named)
    have loose : compactControls.contains (letters name) = false := by
      rw [controlShapedExtensionName, Bool.or_eq_false_iff, flatten_wordsFrom, letters, same]
        at uncontrolled
      exact uncontrolled.2
    have control := refused
    rw [controlShaped_lower, loose, Bool.or_false] at control
    refine ⟨vendorKey.folded same.symm, ?_, control, loose⟩
    have fits := admissible.encoded
    have one := writeMembers_length member
    have filled := byteLength_pos (written _ among)
    have length : spelling.toList.length = name.length := by
      simpa [toAsciiLowercase] using congrArg List.length same
    rw [encodedBytes_eq] at fits
    rw [byteLength_key vendorKey keyed] at one
    dsimp only at fits one filled
    omega

def single (key : String) (value : Value) : MetaObject where
  members := [(key, value)]
  distinct := List.nodup_cons.mpr ⟨List.not_mem_nil, List.nodup_nil⟩

theorem single_kept (kept : forwards (key, value)) : (single key value).kept = single key value := by
  have filtered : [(key, value)].filter forwards = [(key, value)] := List.filter_cons_of_pos kept
  simp only [MetaObject.kept, single, filtered]

/-- In capitals the name is forwarded. -/
theorem forwarded_of_evadable (evadable : Evadable vendor name)
    (keyed : key.toList = vendor ++ '/' :: name.map Char.toUpper) :
    ∃ (metadata : MetaObject) (envelope : ExtensionEnvelope), Written metadata ∧
      fromPeerMeta (some metadata) = .ok envelope ∧
        (key, .number 0) ∈ envelope.metadata.members := by
  have same : toAsciiLowercase (name.map Char.toUpper) = toAsciiLowercase name := by
    rw [toAsciiLowercase, List.map_map, toAsciiLowercase]
    exact List.map_congr_left fun character _ => toLower_toUpper character
  have vendorKey := evadable.key.folded same
  obtain ⟨outer, foreign⟩ := vendor_apart vendorKey
  have forward := validate_vendor vendorKey ((controlShaped_capitals name).trans evadable.loose)
  rw [← keyed] at outer foreign forward
  have slash : '/' ∈ key.toList := keyed ▸ List.mem_append_right _ List.mem_cons_self
  have bare : key ≠ "ui" := by
    rintro rfl
    exact absurd slash (by decide)
  have untraced : key ∉ traceFields := fun traced => slash_trace key traced slash
  have kept : forwards (key, .number 0) := by
    rw [forwards, outer, if_neg Bool.false_ne_true, forward, decide_eq_false bare]
    rfl
  have nodes : walked (key, .number 0) = [(1, .number 0)] := by
    rw [walked, kept, if_pos]
    · rfl
    · simpa using untraced
  have whole := single_kept kept
  refine ⟨single key (.number 0), ⟨(single key (.number 0)).kept, _⟩, ?_,
    fromPeerMeta_iff.mpr ⟨⟨?_, ?_, ?_⟩, rfl⟩, ?_⟩
  · intro field member
    rw [List.mem_singleton.mp member]
    have filled : (Value.number 0).write ≠ [] := by decide
    exact filled
  · intro field member
    rw [List.mem_singleton.mp member]
    refine ⟨.inr (.inr ⟨_, forward⟩), fun traced => absurd traced untraced, fun _ mcp => ?_, ?_⟩
    · rw [foreign] at mcp
      cases mcp
    · intro node inside
      rw [nodes, List.mem_singleton] at inside
      rw [inside]
      exact ⟨by decide, rfl⟩
  · rw [single, List.flatMap_cons, nodes]
    decide
  · have short := evadable.short
    have text : byteLength (Value.number 0).write = 1 := by decide
    have colon : ':'.utf8Size = 1 := by decide
    rw [whole, encodedBytes_eq, single, writeMembers, byteLength_append, byteLength_cons,
      byteLength_key vendorKey keyed, List.length_map, text, colon]
    omega
  · rw [whole]
    exact List.mem_singleton.mpr rfl

/-- Exactly the names with a loose control word are forwarded in some letter case. -/
theorem screened_iff (vendor name : String) :
    Screened vendor name ↔ ¬ Evadable vendor.toList name.toList := by
  have keyed (spelling : String) :
      (vendor ++ "/" ++ spelling).toList = vendor.toList ++ '/' :: spelling.toList := by
    simp
  constructor
  · intro screened evadable
    have refused : controlShapedExtensionName (toAsciiLowercase name.toList) := by
      rw [controlShaped_lower, evadable.control, Bool.true_or]
    have spelled : (String.ofList (name.toList.map Char.toUpper)).toList =
        name.toList.map Char.toUpper := String.toList_ofList
    have same : toAsciiLowercase (String.ofList (name.toList.map Char.toUpper)).toList =
        toAsciiLowercase name.toList := by
      rw [spelled, toAsciiLowercase, List.map_map, toAsciiLowercase]
      exact List.map_congr_left fun character _ => toLower_toUpper character
    obtain ⟨metadata, envelope, written, accepted, member⟩ :=
      forwarded_of_evadable evadable ((keyed _).trans (by rw [spelled]))
    exact screened refused _ same metadata envelope written accepted _ member
  · intro safe refused spelling same metadata envelope written accepted value member
    exact safe (evadable_of_forwarded written refused same accepted (keyed spelling) member)

/-- The token of the key is refused in lower case and forwarded in capitals. -/
theorem capitals_forwarded : ¬ ∀ vendor name, Screened vendor name := by
  intro screened
  have refused : controlShapedExtensionName (toAsciiLowercase "token".toList) := by decide
  have same : toAsciiLowercase "TOKEN".toList = toAsciiLowercase "token".toList := by decide
  have written : Written (single "evil.example/TOKEN" (.string "x")) := by
    intro field member
    rw [List.mem_singleton.mp member]
    have filled : (Value.string "x").write ≠ [] := by decide
    exact filled
  have keys : (fromPeerMeta (some (single "evil.example/TOKEN" (.string "x")))).toOption.map
      (fun envelope => envelope.metadata.members.map Prod.fst) = some ["evil.example/TOKEN"] := by
    decide +kernel
  cases accepted : fromPeerMeta (some (single "evil.example/TOKEN" (.string "x"))) with
  | error e =>
    rw [accepted] at keys
    cases keys
  | ok envelope =>
    rw [accepted] at keys
    have names : envelope.metadata.members.map Prod.fst = ["evil.example/TOKEN"] :=
      Option.some.inj keys
    obtain ⟨field, member, named⟩ := List.mem_map.mp (names ▸ List.mem_singleton.mpr rfl)
    refine screened "evil.example" "token" refused "TOKEN" same _ envelope written accepted
      field.2 ?_
    have key : "evil.example" ++ "/" ++ "TOKEN" = field.1 := named.symm
    rw [key]
    exact member

end Plug.KeySpellings
