import Plug.Base64
import Plug.JsonValues
import Plug.TextSearch
import Plug.Utf8

/-!
# Mirrored headers

The method of a message and the tool, prompt or resource that it names are repeated in headers,
which the server compares with the body. The headers that are written for a message are accepted
for it exactly if what they repeat is ASCII and, where the headers are required, the name does not
look like a Base64 wrapper, which only that reader takes off.
-/

namespace Plug.MirroredHeaders

open JsonValues (Value)
open Text (stripPrefix stripSuffix toAsciiLowercase)

/-- The bytes that a header value can have, and those that it can be read as text with. -/
structure HeaderRules where
  accepts : UInt8 → Bool
  visible : UInt8 → Bool

/-- All bytes but control characters are accepted, and the ASCII ones of these are visible. -/
structure HeaderRules.Lawful (rules : HeaderRules) : Prop where
  accepts_printable : ∀ byte : UInt8, 0x20 ≤ byte.toNat → byte.toNat ≠ 0x7F → rules.accepts byte = true
  visible_iff : ∀ byte : UInt8,
    rules.visible byte = true ↔ rules.accepts byte = true ∧ byte.toNat < 0x80

/-- The headers by their names in lower case. -/
abbrev HeaderMap := List (List Char × List UInt8)

def HeaderMap.get (headers : HeaderMap) (name : List Char) : Option (List UInt8) :=
  headers.lookup (toAsciiLowercase name)

def methodHeader : List Char := "Mcp-Method".toList
def nameHeader : List Char := "Mcp-Name".toList

structure HeaderMismatch where
  message : List Char
deriving DecidableEq

structure MirroredFields where
  method : List Char
  name : Option (List Char)
deriving DecidableEq

variable (rules : HeaderRules)

/-- `HeaderValue::from_str`. -/
def fromStr (text : List Char) : Option (List UInt8) :=
  let bytes := Utf8.encode text
  if bytes.all rules.accepts then some bytes else none

/-- `HeaderValue::to_str`. -/
def toStr (bytes : List UInt8) : Option (List Char) :=
  if bytes.all rules.visible then some (bytes.map fun byte => Char.ofNat byte.toNat) else none

/-- The fields of a message, given as its JSON value. -/
def mirroredFields (message : Value) : Option MirroredFields :=
  ((message.member? "method").bind Value.asStr).map fun method =>
    let params := message.member? "params"
    let named (key : String) := ((params.bind (·.member? key)).bind Value.asStr).map String.toList
    let name :=
      if method = "tools/call" ∨ method = "prompts/get" then named "name"
      else if method = "resources/read" then named "uri"
      else none
    ⟨method.toList, name⟩

def mirroredHeadersForMessage (message : Value) : HeaderMap :=
  match mirroredFields message with
  | none => []
  | some fields =>
    let method := (fromStr rules fields.method).map fun value => ("mcp-method".toList, value)
    let name := (fields.name.bind (fromStr rules)).map fun value => ("mcp-name".toList, value)
    method.toList ++ name.toList

def malformed (header : List Char) : HeaderMismatch :=
  ⟨"Header mismatch: ".toList ++ header ++ " header is malformed".toList⟩

def differs (header actual expected : List Char) : HeaderMismatch :=
  ⟨"Header mismatch: ".toList ++ header ++ " header value '".toList ++ actual ++
    "' does not match body value '".toList ++ expected ++ "'".toList⟩

def validateIfPresent (headers : HeaderMap) (header expected : List Char) :
    Except HeaderMismatch Unit :=
  match headers.get header with
  | none => .ok ()
  | some value =>
    match toStr rules value with
    | none => .error (malformed header)
    | some actual => if actual = expected then .ok () else .error (differs header actual expected)

def validateMirroredHeaders (headers : HeaderMap) (message : Value) : Except HeaderMismatch Unit :=
  match mirroredFields message with
  | none => .ok ()
  | some fields => do
    validateIfPresent rules headers methodHeader fields.method
    match fields.name with
    | some expected => validateIfPresent rules headers nameHeader expected
    | none => pure ()

/-- What stands in the wrapper, if the text is one. -/
def wrapped (value : List Char) : Option (List Char) :=
  (stripPrefix "=?base64?".toList value).bind (stripSuffix "?=".toList)

def decodeStandardHeaderValue (value : List Char) : Option (List Char) :=
  match wrapped value with
  | some inner => (Base64.decodeStrict (Utf8.encode inner)).bind Utf8.fromUtf8
  | none => some value

def requireAndValidate (headers : HeaderMap) (header expected : List Char) (decodeBase64 : Bool) :
    Except HeaderMismatch Unit :=
  match headers.get header with
  | none => .error ⟨"Header mismatch: modern requests require ".toList ++ header⟩
  | some value =>
    match toStr rules value with
    | none => .error (malformed header)
    | some text =>
      match if decodeBase64 then decodeStandardHeaderValue text else some text with
      | none =>
        .error ⟨"Header mismatch: ".toList ++ header ++ " header has invalid Base64".toList⟩
      | some actual =>
        if actual = expected then .ok () else .error (differs header actual expected)

def validateRequiredMirroredHeaders (headers : HeaderMap) (message : Value) :
    Except HeaderMismatch Unit :=
  match mirroredFields message with
  | none => .ok ()
  | some fields => do
    requireAndValidate rules headers methodHeader fields.method false
    match fields.name with
    | some expected => requireAndValidate rules headers nameHeader expected true
    | none => pure ()

/-! ### Values and texts -/

variable {rules} {text inner : List Char} {bytes : List UInt8} {headers : HeaderMap} {message : Value}

def Ascii (text : List Char) : Prop :=
  ∀ character ∈ text, character.toNat < 0x80

instance (text : List Char) : Decidable (Ascii text) :=
  List.decidableBAll (fun character : Char => character.toNat < 0x80) text

/-- A text that is written as a value is read back exactly if it is ASCII, and else is not read. -/
theorem toStr_fromStr (lawful : rules.Lawful) (written : fromStr rules text = some bytes) :
    toStr rules bytes = if Ascii text then some text else none := by
  rw [fromStr] at written
  split at written
  · rename_i accepted
    cases written
    rw [List.all_eq_true] at accepted
    rw [toStr]
    by_cases ascii : Ascii text
    · have same := Utf8.encode_ascii ascii
      have visible : (Utf8.encode text).all rules.visible = true := by
        rw [List.all_eq_true]
        intro byte member
        refine (lawful.visible_iff byte).mpr ⟨accepted byte member, ?_⟩
        rw [same] at member
        obtain ⟨character, inText, rfl⟩ := List.mem_map.mp member
        have small := ascii character inText
        rw [UInt8.toNat_ofNat', Nat.mod_eq_of_lt (by omega)]
        exact small
      have back : (Utf8.encode text).map (fun byte => Char.ofNat byte.toNat) = text := by
        rw [same, List.map_map]
        nth_rewrite 2 [← List.map_id text]
        refine List.map_congr_left fun character inText => ?_
        have small := ascii character inText
        rw [Function.comp_apply, UInt8.toNat_ofNat', Nat.mod_eq_of_lt (by omega),
          Char.ofNat_toNat, id]
      rw [if_pos visible, if_pos ascii, back]
    · rw [if_neg ascii, if_neg]
      intro visible
      apply ascii
      refine Utf8.ascii_of_encode fun byte member => ?_
      exact ((lawful.visible_iff byte).mp (List.all_eq_true.mp visible byte member)).2
  · cases written

theorem bind_toStr (lawful : rules.Lawful) (written : fromStr rules text ≠ none)
    (ascii : Ascii text) : (fromStr rules text).bind (toStr rules) = some text := by
  obtain ⟨bytes, value⟩ := Option.ne_none_iff_exists'.mp written
  rw [value, Option.bind_some, toStr_fromStr lawful value, if_pos ascii]

/-- A wrapper does not hold itself. -/
theorem decode_ne_self (wraps : wrapped text = some inner) :
    decodeStandardHeaderValue text ≠ some text := by
  intro itself
  rw [decodeStandardHeaderValue, wraps] at itself
  obtain ⟨bytes, decoded, read⟩ := Option.bind_eq_some_iff.mp itself
  obtain ⟨rest, start, ending⟩ := Option.bind_eq_some_iff.mp wraps
  have shape : text = "=?base64?".toList ++ (inner ++ "?=".toList) := by
    rw [← Text.stripSuffix_eq_some_iff.mp ending]
    exact Text.stripPrefix_eq_some_iff.mp start
  have short : bytes.length ≤ (Utf8.encode inner).length := by
    rw [← Base64.decodeStrict_eq_some_iff.mp decoded, Base64.encode_length]
    omega
  have long : (Utf8.encode text).length = 11 + (Utf8.encode inner).length := by
    rw [shape, Utf8.encode_append, Utf8.encode_append, List.length_append, List.length_append]
    have : (Utf8.encode "=?base64?".toList).length = 9 := by decide
    have : (Utf8.encode "?=".toList).length = 2 := by decide
    omega
  rw [Utf8.fromUtf8_eq_some_iff.mp read] at long
  omega

/-- A name is what it is decoded to exactly if it is no wrapper. -/
theorem decode_self_iff : decodeStandardHeaderValue text = some text ↔ wrapped text = none := by
  constructor
  · intro itself
    cases wraps : wrapped text with
    | none => rfl
    | some inner => exact absurd itself (decode_ne_self wraps)
  · intro bare
    rw [decodeStandardHeaderValue, bare]

/-! ### One header -/

variable {header expected : List Char} {fields : MirroredFields}

theorem both_ok_iff {first second : Except HeaderMismatch Unit} :
    (do first; second) = .ok () ↔ first = .ok () ∧ second = .ok () := by
  cases first with
  | error mismatch =>
    constructor
    · intro stopped
      cases stopped
    · rintro ⟨stopped, _⟩
      cases stopped
  | ok done =>
    constructor
    · intro continued
      exact ⟨rfl, continued⟩
    · rintro ⟨_, continued⟩
      exact continued

/-- A header that is there is accepted for an ASCII text if it was written for it. -/
theorem validateIfPresent_iff (lawful : rules.Lawful)
    (written : headers.get header = fromStr rules expected) :
    validateIfPresent rules headers header expected = .ok () ↔
      (fromStr rules expected ≠ none → Ascii expected) := by
  rw [validateIfPresent, written]
  cases value : fromStr rules expected with
  | none => simp
  | some bytes =>
    dsimp only
    rw [toStr_fromStr lawful value]
    by_cases ascii : Ascii expected
    · simp [ascii]
    · simp [ascii]

/-- A header is accepted exactly if it is there and is read, after the wrapper where that is
taken off, as the text of the body. -/
theorem requireAndValidate_iff {decodeBase64 : Bool} :
    requireAndValidate rules headers header expected decodeBase64 = .ok () ↔
      ∃ bytes actual, headers.get header = some bytes ∧ toStr rules bytes = some actual ∧
        (if decodeBase64 then decodeStandardHeaderValue actual else some actual) =
          some expected := by
  rw [requireAndValidate]
  cases headers.get header with
  | none => simp
  | some bytes =>
    dsimp only
    cases read : toStr rules bytes with
    | none => simp [read]
    | some actual =>
      dsimp only
      cases shown : if decodeBase64 then decodeStandardHeaderValue actual else some actual with
      | none => simp [read, shown]
      | some found =>
        by_cases same : found = expected
        · simp [read, shown, same]
        · simp [read, shown, same]

/-! ### What is emitted -/

theorem get_method (found : mirroredFields message = some fields) :
    (mirroredHeadersForMessage rules message).get methodHeader = fromStr rules fields.method := by
  have lower : toAsciiLowercase methodHeader = "mcp-method".toList := by decide
  rw [HeaderMap.get, lower, mirroredHeadersForMessage, found]
  dsimp only
  cases fromStr rules fields.method with
  | some value => simp
  | none => cases fields.name.bind (fromStr rules) <;> rfl

theorem get_name (found : mirroredFields message = some fields) :
    (mirroredHeadersForMessage rules message).get nameHeader =
      fields.name.bind (fromStr rules) := by
  have lower : toAsciiLowercase nameHeader = "mcp-name".toList := by decide
  rw [HeaderMap.get, lower, mirroredHeadersForMessage, found]
  dsimp only
  cases fromStr rules fields.method <;> cases fields.name.bind (fromStr rules) <;> rfl

/-- Both headers that the message needs are there. -/
def HoldsNeeded (headers : HeaderMap) (fields : MirroredFields) : Prop :=
  headers.get methodHeader ≠ none ∧ (fields.name ≠ none → headers.get nameHeader ≠ none)

/-- The texts of a message that are written as values. -/
def emitted (rules : HeaderRules) (fields : MirroredFields) : List (List Char) :=
  (fields.method :: fields.name.toList).filter fun text => (fromStr rules text).isSome

/-- What the message repeats in its headers is ASCII, and its name is no wrapper. -/
def Repeatable (rules : HeaderRules) (fields : MirroredFields) : Prop :=
  (∀ text ∈ emitted rules fields, Ascii text) ∧
    (fromStr rules fields.method ≠ none → ∀ name, fields.name = some name →
      fromStr rules name ≠ none → wrapped name = none)

/-- The headers name the method and, after the wrapper, what the message names. -/
def Names (rules : HeaderRules) (headers : HeaderMap) (fields : MirroredFields) : Prop :=
  (headers.get methodHeader).bind (toStr rules) = some fields.method ∧
    ∀ name, fields.name = some name →
      ((headers.get nameHeader).bind (toStr rules)).bind decodeStandardHeaderValue = some name

/-- A text is ASCII if it is emitted, and so are all of these. -/
theorem ascii_emitted_iff : (∀ text ∈ emitted rules fields, Ascii text) ↔
    (fromStr rules fields.method ≠ none → Ascii fields.method) ∧
      ∀ name, fields.name = some name → fromStr rules name ≠ none → Ascii name := by
  simp only [emitted, List.mem_filter, List.mem_cons, Option.mem_toList, Option.isSome_iff_ne_none]
  constructor
  · intro all
    exact ⟨fun written => all _ ⟨Or.inl rfl, written⟩,
      fun name named written => all name ⟨Or.inr named, written⟩⟩
  · rintro ⟨method, name⟩ text ⟨rfl | named, written⟩
    · exact method written
    · exact name text named written

/-- The optional headers are accepted exactly if what is written is ASCII. -/
theorem validate_emitted_iff (lawful : rules.Lawful) (found : mirroredFields message = some fields) :
    validateMirroredHeaders rules (mirroredHeadersForMessage rules message) message = .ok () ↔
      ∀ text ∈ emitted rules fields, Ascii text := by
  have headers : (mirroredHeadersForMessage rules message).get methodHeader =
      fromStr rules fields.method := get_method found
  have method := validateIfPresent_iff lawful headers
  have name : (mirroredHeadersForMessage rules message).get nameHeader =
      fields.name.bind (fromStr rules) := get_name found
  rw [ascii_emitted_iff, ← method, validateMirroredHeaders, found]
  dsimp only
  rw [both_ok_iff]
  refine and_congr_right fun _ => ?_
  cases named : fields.name with
  | none => simp [pure, Except.pure]
  | some expected =>
    rw [named] at name
    dsimp only
    rw [validateIfPresent_iff lawful name]
    simp

/-- The required headers are accepted exactly if they name what the message names. -/
theorem validate_required_iff (found : mirroredFields message = some fields) :
    validateRequiredMirroredHeaders rules headers message = .ok () ↔
      Names rules headers fields := by
  rw [validateRequiredMirroredHeaders, found]
  dsimp only
  rw [both_ok_iff, requireAndValidate_iff, Names]
  refine and_congr ?_ ?_
  · rw [Option.bind_eq_some_iff]
    simp
  · cases fields.name with
    | none => simp [pure, Except.pure]
    | some expected =>
      dsimp only
      rw [requireAndValidate_iff]
      simp [Option.bind_assoc, Option.bind_eq_some_iff]

/-- The headers that are written name what the message names exactly if these are repeatable,
where both headers are needed. -/
theorem names_emitted_iff (lawful : rules.Lawful) (found : mirroredFields message = some fields)
    (ascii : ∀ text ∈ emitted rules fields, Ascii text) :
    (HoldsNeeded (mirroredHeadersForMessage rules message) fields →
      Names rules (mirroredHeadersForMessage rules message) fields) ↔
      (fromStr rules fields.method ≠ none → ∀ name, fields.name = some name →
        fromStr rules name ≠ none → wrapped name = none) := by
  have ⟨method, name⟩ := ascii_emitted_iff.mp ascii
  rw [HoldsNeeded, Names, get_method found, get_name found]
  constructor
  · intro accepted written expected named nameWritten
    have ⟨_, shown⟩ := accepted ⟨written, fun _ => by rw [named]; exact nameWritten⟩
    have itself := shown expected named
    rw [named, Option.bind_some, bind_toStr lawful nameWritten (name expected named nameWritten),
      Option.bind_some] at itself
    exact decode_self_iff.mp itself
  · rintro bare ⟨written, needed⟩
    refine ⟨bind_toStr lawful written (method written), fun expected named => ?_⟩
    have nameWritten := needed (by rw [named]; simp)
    rw [named, Option.bind_some] at nameWritten ⊢
    rw [bind_toStr lawful nameWritten (name expected named nameWritten), Option.bind_some]
    exact decode_self_iff.mpr (bare written expected named nameWritten)

/-- The headers of a message are accepted as optional ones, and as required ones where none is
missing, exactly if what they repeat is ASCII and the name is no wrapper. Required headers are
only ever accepted if they name what the message names. -/
theorem accepted_iff (lawful : rules.Lawful) (message : Value) :
    ((validateMirroredHeaders rules (mirroredHeadersForMessage rules message) message = .ok () ∧
        ((∀ fields, mirroredFields message = some fields →
            HoldsNeeded (mirroredHeadersForMessage rules message) fields) →
          validateRequiredMirroredHeaders rules (mirroredHeadersForMessage rules message) message =
            .ok ())) ↔
      ∀ fields, mirroredFields message = some fields → Repeatable rules fields) ∧
    ∀ headers, validateRequiredMirroredHeaders rules headers message = .ok () →
      ∀ fields, mirroredFields message = some fields → Names rules headers fields := by
  refine ⟨?_, fun headers accepted fields found => (validate_required_iff found).mp accepted⟩
  cases found : mirroredFields message with
  | none => simp [validateMirroredHeaders, validateRequiredMirroredHeaders, found]
  | some fields =>
    simp only [Option.some.injEq, forall_eq']
    rw [validate_emitted_iff lawful found, validate_required_iff found, Repeatable]
    exact and_congr_right fun ascii => names_emitted_iff lawful found ascii

/-- The bytes of the values of the `http` crate: tabs and all that are no control characters. -/
def httpRules : HeaderRules where
  accepts byte := (0x20 ≤ byte.toNat && byte.toNat != 0x7F) || byte.toNat == 0x09
  visible byte := (0x20 ≤ byte.toNat && byte.toNat < 0x7F) || byte.toNat == 0x09

theorem httpRules_lawful : httpRules.Lawful where
  accepts_printable byte low other := by simp [httpRules, low, other]
  visible_iff byte := by
    simp only [httpRules, Bool.or_eq_true, Bool.and_eq_true, decide_eq_true_eq, bne_iff_ne,
      beq_iff_eq]
    omega

def toolCall (name : String) : Value :=
  .object [("method", .string "tools/call"), ("params", .object [("name", .string name)])]

theorem accepted_iff_weather :
    validateMirroredHeaders httpRules (mirroredHeadersForMessage httpRules (toolCall "weather"))
      (toolCall "weather") = .ok () :=
  ((accepted_iff httpRules_lawful (toolCall "weather")).1.mpr (by
    intro fields found
    obtain rfl : (⟨"tools/call".toList, some "weather".toList⟩ : MirroredFields) = fields :=
      Option.some.inj found
    exact ⟨by decide, fun _ name named _ => by cases named; decide⟩)).1

/-- The name of a tool is written as its bytes, and then not read as text. -/
theorem letter_rejected :
    validateMirroredHeaders httpRules (mirroredHeadersForMessage httpRules (toolCall "café"))
      (toolCall "café") = .error (malformed nameHeader) := by
  decide

end Plug.MirroredHeaders
