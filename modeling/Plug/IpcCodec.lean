import Plug.Base64
import Plug.IpcFrames

/-!
# What a codec has to do

The encodings are told apart by the bytes they start with, and what is written is read back. The
laws say this of the JSON and base64 libraries, with the length of an envelope that holds a chunk.

The JSON of a pong, of logging notifications and of elicitations, with standard base64, is a codec
that keeps them.
-/

namespace Plug.Ipc

open ByteStreams

/-- A number as it is written. -/
def decimal (number : Nat) : List UInt8 :=
  (Nat.toDigits 10 number).map fun digit => UInt8.ofNat digit.toNat

/-- The letters, digits and marks of base64. -/
def isBase64 (byte : UInt8) : Bool :=
  (65 ≤ byte && byte ≤ 90) || (97 ≤ byte && byte ≤ 122) || (48 ≤ byte && byte ≤ 57) ||
    byte == 43 || byte == 47 || byte == 61

/-- An envelope with a chunk whose payload needs no escapes. -/
def chunkJson (chunk : ResponseChunk) : List UInt8 :=
  envelopeFramePrefix ++ bytes "\"ResponseChunk\",\"chunk_index\":" ++
    decimal chunk.chunkIndex.toNat ++ bytes ",\"chunk_count\":" ++ decimal chunk.chunkCount.toNat ++
    bytes ",\"payload_b64\":\"" ++ chunk.payloadB64 ++ bytes "\"\x7d"

variable {Response Request : Type}

structure Codec.Faithful (codec : Codec Response Request) : Prop where
  fromSlice_toVec : ∀ response, codec.fromSlice (codec.toVec response) = .ok response
  fromSlice_encodeTagged : ∀ id response,
    codec.fromSlice (codec.encodeTagged id response) = .ok response
  messageFromSlice_messageToVec : ∀ message,
    codec.messageFromSlice (codec.messageToVec message) = .ok message
  peek_toVec : ∀ response, (codec.peek (codec.toVec response)).ipcId = none
  peek_encodeTagged : ∀ id response,
    (codec.peek (codec.encodeTagged id response)).ipcId = some id
  /-- A response is tagged with its type. -/
  toVec_type : ∀ response, bytes "\x7b\"type\":" <+: codec.toVec response
  encodeTagged_id : ∀ id response, bytes "\x7b\"ipc_id\":" <+: codec.encodeTagged id response
  messageToVec_envelope : ∀ message, envelopeFramePrefix <+: codec.messageToVec message
  /-- JSON is written without spaces, and base64 without escapes. -/
  messageToVec_chunk : ∀ chunk : ResponseChunk, (∀ byte ∈ chunk.payloadB64, isBase64 byte) →
    codec.messageToVec (.responseChunk chunk) = chunkJson chunk
  base64Decode_base64Encode : ∀ items,
    codec.base64Decode (codec.base64Encode items) = .ok items
  /-- Four characters for three bytes, with padding. -/
  base64Encode_length : ∀ items,
    (codec.base64Encode items).length = (items.length + 2) / 3 * 4
  base64Encode_isBase64 : ∀ items, ∀ byte ∈ codec.base64Encode items, isBase64 byte

/-! ### A codec -/

def isDecimal (byte : UInt8) : Bool := 48 ≤ byte && byte ≤ 57

/-- The number a text starts with, and what follows it. -/
def readDecimal (text : List UInt8) : Nat × List UInt8 :=
  (Nat.ofDigitChars 10 ((text.takeWhile isDecimal).map fun byte => Char.ofNat byte.toNat) 0,
    text.dropWhile isDecimal)

def strip (start text : List UInt8) : Option (List UInt8) :=
  if start.isPrefixOf text then some (text.drop start.length) else none

inductive SampleResponse where
  | pong
  /-- A logging notification whose text is so many letters. -/
  | logging (letters : Nat)
deriving DecidableEq

inductive SampleRequest where
  | elicitation
deriving DecidableEq

/-- What follows the opening brace, or the id. -/
def SampleResponse.fields : SampleResponse → List UInt8
  | .pong => bytes "\"type\":\"Pong\"\x7d"
  | .logging letters =>
    bytes "\"type\":\"LoggingNotification\",\"params\":\"" ++ List.replicate letters 120 ++
      bytes "\"\x7d"

def SampleResponse.read (text : List UInt8) : Option SampleResponse :=
  if text = SampleResponse.pong.fields then some .pong
  else
    (strip (bytes "\"type\":\"LoggingNotification\",\"params\":\"") text).bind fun rest =>
      let letters := rest.takeWhile (· = 120)
      if rest.drop letters.length = bytes "\"\x7d" then some (.logging letters.length) else none

/-- The id of a document, and its other fields. -/
def splitId (text : List UInt8) : Option (Option UInt64 × List UInt8) :=
  match strip (bytes "\x7b\"ipc_id\":") text with
  | some rest =>
    let (id, after) := readDecimal rest
    (strip (bytes ",") after).map fun fields => (some (UInt64.ofNat id), fields)
  | none => (strip (bytes "\x7b") text).map fun fields => (none, fields)

def sampleRequestJson : List UInt8 :=
  bytes "\x7b\"type\":\"CreateElicitation\",\"params\":\x7b\"mode\":\"form\",\"message\":\"x\"" ++
    bytes ",\"requestedSchema\":\x7b\"type\":\"object\",\"properties\":\x7b\x7d\x7d\x7d\x7d"

def sampleMessageToVec : DaemonToProxyMessage SampleResponse SampleRequest → List UInt8
  | .response inner =>
    envelopeFramePrefix ++ bytes "\"Response\",\"inner\":" ++ (bytes "\x7b" ++ inner.fields) ++
      bytes "\x7d"
  | .responseChunk chunk => chunkJson chunk
  | .reverseRequest id .elicitation =>
    envelopeFramePrefix ++ bytes "\"ReverseRequest\",\"id\":" ++ decimal id.toNat ++
      bytes ",\"request\":" ++ sampleRequestJson ++ bytes "\x7d"

def sampleFromSlice (text : List UInt8) : Option SampleResponse :=
  (splitId text).bind fun (_, fields) => SampleResponse.read fields

def sampleReadChunk (text : List UInt8) : Option ResponseChunk := do
  let (index, rest) := readDecimal text
  let rest ← strip (bytes ",\"chunk_count\":") rest
  let (count, rest) := readDecimal rest
  let rest ← strip (bytes ",\"payload_b64\":\"") rest
  pure ⟨UInt32.ofNat index, UInt32.ofNat count, rest.take (rest.length - 2)⟩

def sampleReadRequest (text : List UInt8) : Option (UInt64 × SampleRequest) :=
  let (id, rest) := readDecimal text
  if rest = bytes ",\"request\":" ++ sampleRequestJson ++ bytes "\x7d" then
    some (UInt64.ofNat id, .elicitation)
  else none

def sampleMessageFromSlice (text : List UInt8) :
    Option (DaemonToProxyMessage SampleResponse SampleRequest) := do
  let rest ← strip envelopeFramePrefix text
  match strip (bytes "\"Response\",\"inner\":") rest with
  | some inner => (sampleFromSlice inner.dropLast).map .response
  | none =>
    match strip (bytes "\"ResponseChunk\",\"chunk_index\":") rest with
    | some chunk => (sampleReadChunk chunk).map .responseChunk
    | none =>
      let request ← strip (bytes "\"ReverseRequest\",\"id\":") rest
      (sampleReadRequest request).map fun (id, request) => .reverseRequest id request

def readOr {Item : Type} (message : String) : Option Item → Except String Item
  | some item => .ok item
  | none => .error message

def sampleCodec : Codec SampleResponse SampleRequest where
  toVec response := bytes "\x7b" ++ response.fields
  encodeTagged id response :=
    bytes "\x7b\"ipc_id\":" ++ decimal id.toNat ++ bytes "," ++ response.fields
  messageToVec := sampleMessageToVec
  fromSlice text := readOr "expected value" (sampleFromSlice text)
  messageFromSlice text := readOr "expected value" (sampleMessageFromSlice text)
  peek text := ⟨(splitId text).bind Prod.fst, none⟩
  base64Encode := Base64.encode
  base64Decode text := readOr "Invalid symbol" (Base64.decode text)

/-! ### It keeps the laws -/

theorem strip_append (start rest : List UInt8) : strip start (start ++ rest) = some rest := by
  rw [strip, if_pos (List.isPrefixOf_iff_prefix.mpr (List.prefix_append start rest)),
    List.drop_left]

/-- A text that differs early does not start so. -/
theorem strip_other {start first : List UInt8}
    (differs : (start.zip first).any fun pair => decide (pair.1 ≠ pair.2)) (rest : List UInt8) :
    strip start (first ++ rest) = none := by
  rw [strip, if_neg]
  rw [List.isPrefixOf_iff_prefix]
  induction start generalizing first with
  | nil => simp at differs
  | cons byte start ih =>
    cases first with
    | nil => simp at differs
    | cons other first =>
      rw [List.zip_cons_cons, List.any_cons, Bool.or_eq_true, decide_eq_true_eq] at differs
      rw [List.cons_append, List.cons_prefix_cons]
      rintro ⟨same, found⟩
      exact ih (differs.resolve_left (fun other => other same)) found

theorem digit_code {digit : Char} {number : Nat} (member : digit ∈ Nat.toDigits 10 number) :
    48 ≤ digit.toNat ∧ digit.toNat ≤ 57 := by
  have code := Nat.isDigit_of_mem_toDigits (by decide) (by decide) member
  simp only [Char.isDigit, ge_iff_le, Bool.and_eq_true, decide_eq_true_eq,
    UInt32.le_iff_toNat_le] at code
  exact code

theorem isDecimal_decimal (number : Nat) : ∀ byte ∈ decimal number, isDecimal byte := by
  intro byte member
  obtain ⟨digit, within, rfl⟩ := List.mem_map.mp member
  have code := digit_code within
  simp only [isDecimal, Bool.and_eq_true, decide_eq_true_eq, UInt8.le_iff_toNat_le,
    UInt8.toNat_ofNat']
  have small : digit.toNat % 256 = digit.toNat := Nat.mod_eq_of_lt (by omega)
  simp [small, code]

/-- The digits are the bytes that are read back. -/
theorem decimal_digits (number : Nat) :
    (decimal number).map (fun byte => Char.ofNat byte.toNat) = Nat.toDigits 10 number := by
  rw [decimal, List.map_map]
  calc (Nat.toDigits 10 number).map _
      = (Nat.toDigits 10 number).map id := by
        apply List.map_congr_left
        intro digit member
        have code := digit_code member
        have small : digit.toNat % 256 = digit.toNat := Nat.mod_eq_of_lt (by omega)
        simp [small]
    _ = Nat.toDigits 10 number := List.map_id _

theorem readDecimal_decimal (number : Nat) {rest : List UInt8}
    (ends : rest.head?.any isDecimal = false) :
    readDecimal (decimal number ++ rest) = (number, rest) := by
  have stops : rest.takeWhile isDecimal = [] ∧ rest.dropWhile isDecimal = rest := by
    cases rest with
    | nil => simp
    | cons mark rest =>
      have other : isDecimal mark = false := by simpa using ends
      simp [other]
  rw [readDecimal, List.takeWhile_append_of_pos (isDecimal_decimal number),
    List.dropWhile_append_of_pos (isDecimal_decimal number), stops.1, stops.2, List.append_nil,
    decimal_digits, Nat.ofDigitChars_ten_toDigits]

/-- The fields of a response start with its type. -/
theorem fields_type (response : SampleResponse) :
    bytes "\"type\":\"" <+: response.fields := by
  cases response with
  | pong => decide +kernel
  | logging letters =>
    rw [SampleResponse.fields, List.append_assoc]
    apply List.IsPrefix.trans _ (List.prefix_append _ _)
    decide +kernel

theorem read_fields (response : SampleResponse) :
    SampleResponse.read response.fields = some response := by
  cases response with
  | pong => rfl
  | logging letters =>
    have other : (SampleResponse.logging letters).fields ≠ SampleResponse.pong.fields := by
      intro same
      have start : bytes "\"type\":\"L" <+: (SampleResponse.logging letters).fields := by
        rw [SampleResponse.fields, List.append_assoc]
        apply List.IsPrefix.trans _ (List.prefix_append _ _)
        decide +kernel
      rw [same] at start
      revert start
      decide +kernel
    have ends : (bytes "\"\x7d").takeWhile (· = 120) = [] := by decide +kernel
    rw [SampleResponse.read, if_neg other, SampleResponse.fields, List.append_assoc, strip_append,
      Option.bind_some]
    have letters' : (List.replicate letters 120 ++ bytes "\"\x7d").takeWhile (· = 120) =
        List.replicate letters 120 := by
      rw [List.takeWhile_append_of_pos (by simp), ends, List.append_nil]
    simp only [letters', List.length_replicate]
    rw [if_pos]
    exact List.drop_left' (List.length_replicate ..)

theorem splitId_plain (response : SampleResponse) :
    splitId (bytes "\x7b" ++ response.fields) = some (none, response.fields) := by
  obtain ⟨rest, same⟩ := fields_type response
  have other : strip (bytes "\x7b\"ipc_id\":") (bytes "\x7b" ++ response.fields) = none := by
    rw [← same, ← List.append_assoc]
    exact strip_other (by decide +kernel) rest
  rw [splitId, other]
  simp [strip_append]

theorem splitId_tagged (id : UInt64) (response : SampleResponse) :
    splitId (bytes "\x7b\"ipc_id\":" ++ decimal id.toNat ++ bytes "," ++ response.fields) =
      some (some id, response.fields) := by
  rw [List.append_assoc, List.append_assoc, splitId, strip_append]
  simp only [readDecimal_decimal id.toNat (show (bytes "," ++ response.fields).head?.any _ = _
    from rfl), strip_append, Option.map_some, UInt64.ofNat_toNat]

theorem sampleFromSlice_plain (response : SampleResponse) :
    sampleFromSlice (bytes "\x7b" ++ response.fields) = some response := by
  simp [sampleFromSlice, splitId_plain, read_fields]

theorem sampleReadChunk_chunk (chunk : ResponseChunk) :
    sampleReadChunk (decimal chunk.chunkIndex.toNat ++ (bytes ",\"chunk_count\":" ++
      (decimal chunk.chunkCount.toNat ++ (bytes ",\"payload_b64\":\"" ++
        (chunk.payloadB64 ++ bytes "\"\x7d"))))) = some chunk := by
  have index := readDecimal_decimal chunk.chunkIndex.toNat
    (show (bytes ",\"chunk_count\":" ++ (decimal chunk.chunkCount.toNat ++
      (bytes ",\"payload_b64\":\"" ++ (chunk.payloadB64 ++ bytes "\"\x7d")))).head?.any _ = _
      from rfl)
  have count := readDecimal_decimal chunk.chunkCount.toNat
    (show (bytes ",\"payload_b64\":\"" ++ (chunk.payloadB64 ++ bytes "\"\x7d")).head?.any _ = _
      from rfl)
  have ending : (bytes "\"\x7d").length = 2 := by decide +kernel
  simp [sampleReadChunk, index, count, strip_append, ending]

theorem sampleReadRequest_request (id : UInt64) :
    sampleReadRequest (decimal id.toNat ++ (bytes ",\"request\":" ++ (sampleRequestJson ++
      bytes "\x7d"))) = some (id, .elicitation) := by
  have read := readDecimal_decimal id.toNat
    (show (bytes ",\"request\":" ++ (sampleRequestJson ++ bytes "\x7d")).head?.any _ = _ from rfl)
  simp [sampleReadRequest, read]

theorem sampleMessageFromSlice_message
    (message : DaemonToProxyMessage SampleResponse SampleRequest) :
    sampleMessageFromSlice (sampleMessageToVec message) = some message := by
  cases message with
  | response inner =>
    have inside : sampleFromSlice (bytes "\x7b" ++ (inner.fields ++ bytes "\x7d")).dropLast =
        some inner := by
      rw [← List.append_assoc, show bytes "\x7d" = [125] by decide +kernel, List.dropLast_concat,
        sampleFromSlice_plain]
    simp [sampleMessageFromSlice, sampleMessageToVec, strip_append, inside]
  | responseChunk chunk =>
    simp only [sampleMessageFromSlice, sampleMessageToVec, chunkJson, List.append_assoc,
      strip_append, Option.bind_eq_bind, Option.bind_some]
    rw [strip_other (by decide +kernel)]
    simp only [sampleReadChunk_chunk, Option.map_some]
  | reverseRequest id request =>
    cases request with
    | elicitation =>
      simp only [sampleMessageFromSlice, sampleMessageToVec, List.append_assoc, strip_append,
        Option.bind_eq_bind, Option.bind_some]
      rw [strip_other (by decide +kernel), strip_other (by decide +kernel)]
      simp only [sampleReadRequest_request, Option.map_some]

theorem sampleCodec_faithful : sampleCodec.Faithful where
  fromSlice_toVec response := by
    simp [sampleCodec, sampleFromSlice_plain, readOr]
  fromSlice_encodeTagged id response := by
    have read := splitId_tagged id response
    simp only [sampleCodec, sampleFromSlice, read]
    simp [read_fields, readOr]
  messageFromSlice_messageToVec message := by
    simp only [sampleCodec, sampleMessageFromSlice_message, readOr]
  peek_toVec response := by
    simp only [sampleCodec, splitId_plain, Option.bind_some]
  peek_encodeTagged id response := by
    simp only [sampleCodec, splitId_tagged, Option.bind_some]
  toVec_type response := by
    obtain ⟨rest, same⟩ := fields_type response
    simp only [sampleCodec, ← same, ← List.append_assoc]
    apply List.IsPrefix.trans _ (List.prefix_append _ _)
    decide +kernel
  encodeTagged_id id response := by
    simp only [sampleCodec, List.append_assoc]
    exact List.prefix_append _ _
  messageToVec_envelope message := by
    cases message with
    | response inner =>
      simp only [sampleCodec, sampleMessageToVec, List.append_assoc]
      exact List.prefix_append _ _
    | responseChunk chunk =>
      simp only [sampleCodec, sampleMessageToVec, chunkJson, List.append_assoc]
      exact List.prefix_append _ _
    | reverseRequest id request =>
      simp only [sampleCodec, sampleMessageToVec, List.append_assoc]
      exact List.prefix_append _ _
  messageToVec_chunk _ _ := rfl
  base64Decode_base64Encode items := by
    simp only [sampleCodec, Base64.decode_encode, readOr]
  base64Encode_length := Base64.encode_length
  base64Encode_isBase64 := by
    apply Base64.encode_all
    · decide
    · decide

end Plug.Ipc
