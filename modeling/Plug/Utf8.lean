import Plug.ByteStreams
import Plug.Text

/-!
# Characters as bytes

UTF-8 writes a character as one to four bytes. Any bytes can be read as text: where they are not
the bytes of a character, the part of one that they begin is read as the replacement character.
Text is read back from its own bytes, and bytes are read in parts if no part begins inside a
character.
-/

namespace Utf8

/-- The bytes of a text. -/
def encode (text : List Char) : List UInt8 :=
  text.flatMap String.utf8EncodeChar

/-- A byte that only continues a character. -/
def isContinuation (byte : UInt8) : Bool :=
  0x80 ≤ byte.toNat && byte.toNat ≤ 0xBF

/-- U+FFFD, which stands for bytes that are no character. -/
def replacement : Char := '\uFFFD'

/-- A character begun: its bits so far, the bytes owed and the bounds of the next one. -/
structure Begun where
  bits : Nat
  owed : Nat
  low : Nat
  high : Nat
deriving DecidableEq

/-- What is read from a byte between characters. -/
def begins (byte : UInt8) : List Char × Option Begun :=
  let code := byte.toNat
  if code < 0x80 then ([Char.ofNat code], none)
  else if code < 0xC2 then ([replacement], none)
  else if code < 0xE0 then ([], some ⟨code - 0xC0, 1, 0x80, 0xBF⟩)
  else if code = 0xE0 then ([], some ⟨0, 2, 0xA0, 0xBF⟩)
  else if code = 0xED then ([], some ⟨0xD, 2, 0x80, 0x9F⟩)
  else if code < 0xF0 then ([], some ⟨code - 0xE0, 2, 0x80, 0xBF⟩)
  else if code = 0xF0 then ([], some ⟨0, 3, 0x90, 0xBF⟩)
  else if code < 0xF4 then ([], some ⟨code - 0xF0, 3, 0x80, 0xBF⟩)
  else if code = 0xF4 then ([], some ⟨4, 3, 0x80, 0x8F⟩)
  else ([replacement], none)

/-- What is read from a byte, inside a character or between two. -/
def feed (under : Option Begun) (byte : UInt8) : List Char × Option Begun :=
  match under with
  | none => begins byte
  | some begun =>
    if isContinuation byte && begun.low ≤ byte.toNat && byte.toNat ≤ begun.high then
      let bits := begun.bits * 64 + (byte.toNat - 0x80)
      if begun.owed = 1 then ([Char.ofNat bits], none)
      else ([], some ⟨bits, begun.owed - 1, 0x80, 0xBF⟩)
    else (replacement :: (begins byte).1, (begins byte).2)

/-- What the end of the bytes leaves. -/
def finish (under : Option Begun) : List Char :=
  if under.isSome then [replacement] else []

def readFrom (under : Option Begun) : List UInt8 → List Char
  | [] => finish under
  | byte :: rest => (feed under byte).1 ++ readFrom (feed under byte).2 rest

/-- `String::from_utf8_lossy`. -/
def fromUtf8Lossy (bytes : List UInt8) : List Char :=
  readFrom none bytes

example : fromUtf8Lossy [0x61, 0xE2, 0x82, 0x62, 0x80, 0xC3, 0xA9] = ['a', '\uFFFD', 'b', '\uFFFD', 'é'] := by
  decide

variable {text : List Char} {bytes front back : List UInt8} {byte : UInt8} {under : Option Begun}

/-! ### Text and its bytes -/

@[simp]
theorem encode_cons (character : Char) (text : List Char) :
    encode (character :: text) = String.utf8EncodeChar character ++ encode text :=
  List.flatMap_cons

theorem encode_append (first second : List Char) :
    encode (first ++ second) = encode first ++ encode second :=
  List.flatMap_append

theorem length_encode (text : List Char) : (encode text).length = Text.byteLength text := by
  simp [encode, Text.byteLength, List.length_flatMap]

theorem toNat_ofNat_part {part : Nat} (small : part < 64) :
    (UInt8.ofNat (part + 0x80)).toNat = part + 0x80 := by
  rw [UInt8.toNat_ofNat']
  omega

theorem feed_part {bits owed low high part : Nat} (small : part < 64) (above : low ≤ part + 0x80)
    (below : part + 0x80 ≤ high) :
    feed (some ⟨bits, owed, low, high⟩) (UInt8.ofNat (part + 0x80)) =
      if owed = 1 then ([Char.ofNat (bits * 64 + part)], none)
      else ([], some ⟨bits * 64 + part, owed - 1, 0x80, 0xBF⟩) := by
  have code := toNat_ofNat_part small
  generalize UInt8.ofNat (part + 0x80) = byte at code
  have continuation : isContinuation byte = true := by
    rw [isContinuation, code]
    simp only [Bool.and_eq_true, decide_eq_true_eq]
    omega
  simp [feed, continuation, code, above, below]

/-- The last byte of a character ends it. -/
theorem readFrom_last {bits low high part : Nat} (small : part < 64) (above : low ≤ part + 0x80)
    (below : part + 0x80 ≤ high) (rest : List UInt8) :
    readFrom (some ⟨bits, 1, low, high⟩) (UInt8.ofNat (part + 0x80) :: rest) =
      Char.ofNat (bits * 64 + part) :: readFrom none rest := by
  rw [readFrom, feed_part small above below]
  rfl

/-- Another byte is still owed after one that is not the last. -/
theorem readFrom_part {bits owed low high part : Nat} (small : part < 64)
    (above : low ≤ part + 0x80) (below : part + 0x80 ≤ high) (rest : List UInt8) :
    readFrom (some ⟨bits, owed + 2, low, high⟩) (UInt8.ofNat (part + 0x80) :: rest) =
      readFrom (some ⟨bits * 64 + part, owed + 1, 0x80, 0xBF⟩) rest := by
  rw [readFrom, feed_part small above below]
  simp

/-- The byte that begins a character of two, three or four bytes. -/
theorem begins_two {part : Nat} (low : 2 ≤ part) (high : part < 32) :
    begins (UInt8.ofNat (part + 0xC0)) = ([], some ⟨part, 1, 0x80, 0xBF⟩) := by
  have code : (UInt8.ofNat (part + 0xC0)).toNat = part + 0xC0 := by
    rw [UInt8.toNat_ofNat']
    omega
  unfold begins
  rw [code]
  dsimp only
  rw [if_neg (by omega), if_neg (by omega), if_pos (by omega), Nat.add_sub_cancel]

theorem begins_three {part : Nat} (high : part < 16) :
    begins (UInt8.ofNat (part + 0xE0)) =
      ([], some ⟨part, 2, if part = 0 then 0xA0 else 0x80, if part = 13 then 0x9F else 0xBF⟩) := by
  revert part
  decide

theorem begins_four {part : Nat} (high : part ≤ 4) :
    begins (UInt8.ofNat (part + 0xF0)) =
      ([], some ⟨part, 3, if part = 0 then 0x90 else 0x80, if part = 4 then 0x8F else 0xBF⟩) := by
  revert part
  decide

/-- A character is read from its own bytes. -/
theorem readFrom_encodeChar (character : Char) (rest : List UInt8) :
    readFrom none (String.utf8EncodeChar character ++ rest) = character :: readFrom none rest := by
  have valid : character.toNat < 0xD800 ∨
      (0xDFFF < character.toNat ∧ character.toNat < 0x110000) := character.valid
  have itself : Char.ofNat character.toNat = character := Char.ofNat_toNat character
  generalize code : character.toNat = value at valid itself
  unfold String.utf8EncodeChar
  rw [show character.val.toNat = value from code]
  dsimp only
  split
  · rename_i one
    have small : (UInt8.ofNat value).toNat = value := by
      rw [UInt8.toNat_ofNat']
      omega
    have read : begins (UInt8.ofNat value) = ([character], none) := by
      unfold begins
      dsimp only
      rw [small, if_pos (by omega), itself]
    rw [List.singleton_append, readFrom, feed, read]
    rfl
  · split
    · have high : value / 64 % 32 = value / 64 := by omega
      have whole : value / 64 * 64 + value % 64 = value := by omega
      rw [List.cons_append, List.singleton_append, readFrom, feed, high,
        begins_two (by omega) (by omega)]
      rw [List.nil_append, readFrom_last (by omega) (by omega) (by omega), whole, itself]
    · split
      · have high : value / 4096 % 16 = value / 4096 := by omega
        have whole : (value / 4096 * 64 + value / 64 % 64) * 64 + value % 64 = value := by omega
        rw [List.cons_append, List.cons_append, List.singleton_append, readFrom, feed, high,
          begins_three (by omega)]
        rw [List.nil_append, readFrom_part (by omega) (by split <;> omega) (by split <;> omega),
          readFrom_last (by omega) (by omega) (by omega), whole, itself]
      · have high : value / 262144 % 8 = value / 262144 := by omega
        have whole : ((value / 262144 * 64 + value / 4096 % 64) * 64 + value / 64 % 64) * 64 +
            value % 64 = value := by omega
        rw [List.cons_append, List.cons_append, List.cons_append, List.singleton_append, readFrom,
          feed, high, begins_four (by omega)]
        rw [List.nil_append, readFrom_part (by omega) (by split <;> omega) (by split <;> omega),
          readFrom_part (by omega) (by omega) (by omega),
          readFrom_last (by omega) (by omega) (by omega), whole, itself]

/-- Text is read back from its own bytes, whatever follows them. -/
theorem readFrom_encode (text : List Char) (rest : List UInt8) :
    readFrom none (encode text ++ rest) = text ++ readFrom none rest := by
  induction text with
  | nil => rfl
  | cons character text ih =>
    rw [encode_cons, List.append_assoc, readFrom_encodeChar, ih, List.cons_append]

theorem fromUtf8Lossy_encode (text : List Char) : fromUtf8Lossy (encode text) = text := by
  have read := readFrom_encode text []
  rw [List.append_nil] at read
  exact read.trans (List.append_nil text)

/-! ### Parts of bytes -/

/-- The bytes do not go on with a character that began before them. -/
def Fresh (bytes : List UInt8) : Prop :=
  ∀ byte ∈ bytes.head?, isContinuation byte = false

instance : Decidable (Fresh bytes) :=
  inferInstanceAs (Decidable (∀ byte ∈ bytes.head?, isContinuation byte = false))

/-- A byte that continues nothing ends the character under way. -/
theorem readFrom_fresh (fresh : Fresh bytes) :
    readFrom under bytes = finish under ++ readFrom none bytes := by
  cases bytes with
  | nil => simp [readFrom, finish]
  | cons byte rest =>
    cases under with
    | none => rfl
    | some begun =>
      have continues : isContinuation byte = false := fresh byte rfl
      simp [readFrom, feed, continues, finish]

/-- Bytes are read in parts if the second part is no continuation. -/
theorem readFrom_append (fresh : Fresh back) :
    readFrom under (front ++ back) = readFrom under front ++ readFrom none back := by
  induction front generalizing under with
  | nil => exact readFrom_fresh fresh
  | cons byte front ih =>
    rw [List.cons_append, readFrom, ih, readFrom, List.append_assoc]

theorem fromUtf8Lossy_append (fresh : Fresh back) :
    fromUtf8Lossy (front ++ back) = fromUtf8Lossy front ++ fromUtf8Lossy back :=
  readFrom_append fresh

/-- The bytes of a character begin with a byte that is no continuation. -/
theorem encodeChar_cons (character : Char) : ∃ byte rest,
    String.utf8EncodeChar character = byte :: rest ∧ isContinuation byte = false ∧
      rest.all isContinuation = true := by
  have bound : character.toNat < 0x110000 := by
    have valid : character.toNat < 0xD800 ∨
      (0xDFFF < character.toNat ∧ character.toNat < 0x110000) := character.valid
    omega
  have continues (value : Nat) : isContinuation (UInt8.ofNat (value % 64 + 0x80)) = true := by
    rw [isContinuation, toNat_ofNat_part (Nat.mod_lt _ (by decide))]
    simp only [Bool.and_eq_true, decide_eq_true_eq]
    omega
  have fresh (code : Nat) (small : code < 256) (outside : code < 0x80 ∨ 0xBF < code) :
      isContinuation (UInt8.ofNat code) = false := by
    rw [isContinuation, UInt8.toNat_ofNat', Nat.mod_eq_of_lt small]
    simp only [Bool.and_eq_false_iff, decide_eq_false_iff_not]
    omega
  unfold String.utf8EncodeChar
  rw [show character.val.toNat = character.toNat from rfl]
  generalize character.toNat = value at bound
  dsimp only
  split
  · exact ⟨_, _, rfl, fresh _ (by omega) (by omega), rfl⟩
  · split
    · exact ⟨_, _, rfl, fresh _ (by omega) (by omega), by simp only [List.all_cons, List.all_nil, continues, Bool.and_self]⟩
    · split
      · exact ⟨_, _, rfl, fresh _ (by omega) (by omega), by simp only [List.all_cons, List.all_nil, continues, Bool.and_self]⟩
      · exact ⟨_, _, rfl, fresh _ (by omega) (by omega), by simp only [List.all_cons, List.all_nil, continues, Bool.and_self]⟩

/-! ### Bytes below 0x80 -/

/-- An ASCII character is its own byte. -/
theorem encodeChar_ascii {character : Char} (ascii : character.toNat < 0x80) :
    String.utf8EncodeChar character = [UInt8.ofNat character.toNat] := by
  unfold String.utf8EncodeChar
  rw [show character.val.toNat = character.toNat from rfl]
  dsimp only
  rw [if_pos (by omega)]

/-- No byte of another character is one of an ASCII character. -/
theorem encodeChar_wide {character : Char} (wide : 0x80 ≤ character.toNat) :
    ∀ byte ∈ String.utf8EncodeChar character, 0x80 ≤ byte.toNat := by
  have bound : character.toNat < 0x110000 := by
    have valid : character.toNat < 0xD800 ∨
      (0xDFFF < character.toNat ∧ character.toNat < 0x110000) := character.valid
    omega
  unfold String.utf8EncodeChar
  rw [show character.val.toNat = character.toNat from rfl]
  generalize character.toNat = value at wide bound
  dsimp only
  have part (code : Nat) (small : code < 256) (high : 0x80 ≤ code) : 0x80 ≤ (UInt8.ofNat code).toNat := by
    rw [UInt8.toNat_ofNat']
    omega
  rw [if_neg (by omega)]
  split
  · intro byte member
    simp only [List.mem_cons, List.not_mem_nil, or_false] at member
    obtain rfl | rfl := member <;> exact part _ (by omega) (by omega)
  · split
    · intro byte member
      simp only [List.mem_cons, List.not_mem_nil, or_false] at member
      obtain rfl | rfl | rfl := member <;> exact part _ (by omega) (by omega)
    · intro byte member
      simp only [List.mem_cons, List.not_mem_nil, or_false] at member
      obtain rfl | rfl | rfl | rfl := member <;> exact part _ (by omega) (by omega)

/-- A text of ASCII characters is its own bytes. -/
theorem encode_ascii (ascii : ∀ character ∈ text, character.toNat < 0x80) :
    encode text = text.map fun character => UInt8.ofNat character.toNat := by
  induction text with
  | nil => rfl
  | cons character text ih =>
    have others := ih fun later member => ascii later (List.mem_cons_of_mem _ member)
    rw [encode_cons, encodeChar_ascii (ascii character List.mem_cons_self), others, List.map_cons,
      List.singleton_append]

theorem ascii_of_encode (small : ∀ byte ∈ encode text, byte.toNat < 0x80) :
    ∀ character ∈ text, character.toNat < 0x80 := by
  intro character member
  by_contra wide
  obtain ⟨byte, others, bytes, _, _⟩ := encodeChar_cons character
  have first : byte ∈ String.utf8EncodeChar character := bytes ▸ List.mem_cons_self
  have inText : byte ∈ encode text := List.mem_flatMap.mpr ⟨character, member, first⟩
  have high := encodeChar_wide (Nat.le_of_not_lt wide) byte first
  exact absurd (small byte inText) (Nat.not_lt.mpr high)

/-- `String::from_utf8`: the text that the bytes are those of. -/
def fromUtf8 (bytes : List UInt8) : Option (List Char) :=
  if encode (fromUtf8Lossy bytes) = bytes then some (fromUtf8Lossy bytes) else none

theorem fromUtf8_eq_some_iff : fromUtf8 bytes = some text ↔ encode text = bytes := by
  rw [fromUtf8]
  constructor
  · intro found
    split at found
    · rename_i back
      cases found
      exact back
    · cases found
  · rintro rfl
    rw [fromUtf8Lossy_encode, if_pos rfl]

/-! ### How much is read -/

/-- How many characters begin in the bytes. -/
def starts (bytes : List UInt8) : Nat :=
  bytes.countP fun byte => !isContinuation byte

theorem starts_append (front back : List UInt8) : starts (front ++ back) = starts front + starts back :=
  List.countP_append

theorem starts_encode (text : List Char) : starts (encode text) = text.length := by
  induction text with
  | nil => rfl
  | cons character text ih =>
    obtain ⟨byte, others, bytes, first, continued⟩ := encodeChar_cons character
    have none : others.countP (fun byte => !isContinuation byte) = 0 := by
      rw [List.countP_eq_zero]
      intro other member
      simp [List.all_eq_true.mp continued other member]
    rw [encode_cons, starts_append, ih, bytes, starts, List.countP_cons, none,
      first, List.length_cons]
    simp only [Bool.not_false, if_true]
    omega

/-- The next byte of a character under way makes bits that are those of no ASCII character and of
no surrogate. -/
def Begun.Wide (begun : Begun) : Prop :=
  ∀ byte, 0x80 ≤ byte → byte ≤ 0xBF → begun.low ≤ byte → byte ≤ begun.high →
    let bits := begun.bits * 64 + (byte - 0x80)
    (begun.owed = 1 ∧ 0x80 ≤ bits ∧ (bits < 0xD800 ∨ 0xDFFF < bits ∧ bits < 0x110000)) ∨
    (begun.owed = 2 ∧ 2 ≤ bits ∧ (bits < 0x360 ∨ 0x37F < bits ∧ bits < 0x4400)) ∨
    (begun.owed = 3 ∧ 0x10 ≤ bits ∧ bits < 0x110)

/-- A byte is read at once, as itself or as a replacement, or it begins a character. -/
theorem begins_cases (byte : UInt8) :
    byte.toNat < 0x80 ∧ begins byte = ([Char.ofNat byte.toNat], none) ∨
      0x80 ≤ byte.toNat ∧ (begins byte = ([replacement], none) ∨
        ∃ begun : Begun, begins byte = ([], some begun) ∧ begun.Wide) := by
  have small := byte.toNat_lt
  by_cases ascii : byte.toNat < 0x80
  · exact .inl ⟨ascii, if_pos ascii⟩
  · refine .inr ⟨Nat.le_of_not_lt ascii, ?_⟩
    unfold begins
    dsimp only
    rw [if_neg ascii]
    generalize byte.toNat = code at small ascii ⊢
    -- the rows of the table one after another
    iterate 8
      split
      · first
        | exact .inl rfl
        | refine .inr ⟨_, rfl, ?_⟩
          intro next low high above below
          dsimp only at above below ⊢
          omega
    exact .inl rfl

theorem begins_length (byte : UInt8) :
    (begins byte).1.length + (finish (begins byte).2).length = 1 := by
  rcases begins_cases byte with ⟨-, reads⟩ | ⟨-, reads | ⟨begun, reads, -⟩⟩
  · rw [reads]
    rfl
  · rw [reads]
    rfl
  · rw [reads]
    rfl

theorem begins_continuation (continues : isContinuation byte = true) :
    begins byte = ([replacement], none) := by
  simp only [isContinuation, Bool.and_eq_true, decide_eq_true_eq] at continues
  unfold begins
  dsimp only
  rw [if_neg (by omega), if_pos (by omega)]

/-- A byte that begins a character adds one to what is read. -/
theorem feed_length (under : Option Begun) (byte : UInt8) :
    (finish under).length + starts [byte] ≤
      (feed under byte).1.length + (finish (feed under byte).2).length := by
  have begun := begins_length byte
  have atMost : starts [byte] ≤ 1 := List.countP_le_length
  cases under with
  | none =>
    dsimp only [feed]
    rw [begun]
    exact (Nat.zero_add (starts [byte])).symm ▸ atMost
  | some under =>
    dsimp only [feed]
    split
    · rename_i inside
      simp only [Bool.and_eq_true] at inside
      have none : starts [byte] = 0 := by simp [starts, inside.1.1]
      rw [none]
      split <;> simp [finish]
    · simp only [List.length_cons]
      have one : (finish (some under)).length = 1 := rfl
      omega

/-- Each character that begins in the bytes is read as one, or as a replacement. -/
theorem starts_le_readFrom (under : Option Begun) (bytes : List UInt8) :
    (finish under).length + starts bytes ≤ (readFrom under bytes).length := by
  induction bytes generalizing under with
  | nil => exact Nat.le_refl _
  | cons byte rest ih =>
    have one := feed_length under byte
    have others := ih (feed under byte).2
    have both : starts (byte :: rest) = starts [byte] + starts rest := starts_append [byte] rest
    rw [readFrom, List.length_append, both]
    omega

theorem starts_le_length (bytes : List UInt8) : starts bytes ≤ (fromUtf8Lossy bytes).length := by
  have read := starts_le_readFrom none bytes
  rwa [show (finish none).length = 0 from rfl, Nat.zero_add] at read

/-- Bytes that go on with a character read as more than the characters that begin in them. -/
theorem starts_lt_length (inside : ¬ Fresh bytes) : starts bytes < (fromUtf8Lossy bytes).length := by
  cases bytes with
  | nil => exact absurd (by simp [Fresh]) inside
  | cons byte rest =>
    have continues : isContinuation byte = true := by
      by_contra not
      apply inside
      intro head isHead
      obtain rfl : byte = head := Option.some.inj isHead
      exact Bool.eq_false_iff.mpr not
    have others := starts_le_length rest
    rw [fromUtf8Lossy, readFrom, feed, begins_continuation continues]
    simp only [starts, List.countP_cons, continues] at others ⊢
    simp only [Bool.not_true, Bool.false_eq_true, if_false, List.length_append,
      List.length_singleton]
    exact Nat.lt_of_lt_of_eq (Nat.lt_succ_of_le others) (Nat.add_comm _ 1)

/-! ### ASCII characters -/

def asciiCount (text : List Char) : Nat :=
  text.countP fun character => character.toNat < 0x80

def asciiBytes (bytes : List UInt8) : Nat :=
  bytes.countP fun byte => byte.toNat < 0x80

theorem asciiCount_append (first second : List Char) :
    asciiCount (first ++ second) = asciiCount first + asciiCount second :=
  List.countP_append

theorem asciiBytes_append (front back : List UInt8) :
    asciiBytes (front ++ back) = asciiBytes front + asciiBytes back :=
  List.countP_append

theorem asciiBytes_encode (text : List Char) : asciiBytes (encode text) = asciiCount text := by
  induction text with
  | nil => rfl
  | cons character text ih =>
    have one : asciiBytes (String.utf8EncodeChar character) = asciiCount [character] := by
      by_cases ascii : character.toNat < 0x80
      · rw [encodeChar_ascii ascii]
        have code : (UInt8.ofNat character.toNat).toNat = character.toNat := by
          rw [UInt8.toNat_ofNat']
          omega
        simp only [asciiBytes, asciiCount, List.countP_singleton, code]
      · have wide := encodeChar_wide (Nat.le_of_not_lt ascii)
        rw [asciiCount, List.countP_singleton, asciiBytes, List.countP_eq_zero.mpr, if_neg]
        · simpa using ascii
        · intro byte member
          have := wide byte member
          simp only [decide_eq_true_eq]
          omega
    rw [encode_cons, asciiBytes_append, one, ih, ← asciiCount_append]
    rfl

theorem begins_wide (byte : UInt8) (begun : Begun) (under : (begins byte).2 = some begun) :
    begun.Wide := by
  rcases begins_cases byte with ⟨-, reads⟩ | ⟨-, reads | ⟨other, reads, wide⟩⟩
  · rw [reads] at under
    cases under
  · rw [reads] at under
    cases under
  · rw [reads] at under
    cases under
    exact wide

theorem toNat_ofNat {value : Nat} (valid : value < 0xD800 ∨ 0xDFFF < value ∧ value < 0x110000) :
    (Char.ofNat value).toNat = value := by
  rw [Char.ofNat, dif_pos valid]
  rfl

theorem begins_ascii (byte : UInt8) : asciiCount (begins byte).1 = asciiBytes [byte] := by
  rw [asciiBytes, List.countP_singleton]
  rcases begins_cases byte with ⟨ascii, reads⟩ | ⟨other, reads⟩
  · rw [reads, asciiCount, List.countP_singleton, toNat_ofNat (by omega)]
  · rw [if_neg (by simpa using other)]
    rcases reads with reads | ⟨begun, reads, -⟩
    · rw [reads]
      rfl
    · rw [reads]
      rfl

/-- Only an ASCII byte makes an ASCII character. -/
theorem feed_ascii (under : Option Begun) (wide : ∀ begun, under = some begun → begun.Wide)
    (byte : UInt8) :
    asciiCount (feed under byte).1 = asciiBytes [byte] ∧
      ∀ begun, (feed under byte).2 = some begun → begun.Wide := by
  cases under with
  | none => exact ⟨begins_ascii byte, begins_wide byte⟩
  | some begun =>
    dsimp only [feed]
    split
    · rename_i inside
      simp only [Bool.and_eq_true, decide_eq_true_eq, isContinuation] at inside
      obtain ⟨⟨⟨low, high⟩, above⟩, below⟩ := inside
      have next := wide begun rfl byte.toNat low high above below
      have none : asciiBytes [byte] = 0 := by
        rw [asciiBytes, List.countP_singleton, if_neg]
        simp only [decide_eq_true_eq]
        omega
      rw [none]
      dsimp only at next
      split
      · rename_i last
        refine ⟨?_, by intro other isOther; cases isOther⟩
        rw [asciiCount, List.countP_singleton, toNat_ofNat (by omega), if_neg]
        simp only [decide_eq_true_eq]
        omega
      · refine ⟨rfl, ?_⟩
        intro other isOther
        obtain rfl := Option.some.inj isOther
        intro further furtherLow furtherHigh _ _
        dsimp only
        omega
    · exact ⟨begins_ascii byte, begins_wide byte⟩

theorem readFrom_ascii (under : Option Begun) (wide : ∀ begun, under = some begun → begun.Wide)
    (bytes : List UInt8) : asciiCount (readFrom under bytes) = asciiBytes bytes := by
  induction bytes generalizing under with
  | nil =>
    rw [readFrom, finish]
    split <;> rfl
  | cons byte rest ih =>
    obtain ⟨one, later⟩ := feed_ascii under wide byte
    have both : asciiBytes (byte :: rest) = asciiBytes [byte] + asciiBytes rest :=
      asciiBytes_append [byte] rest
    rw [readFrom, asciiCount_append, one, ih _ later, both]

/-- Bytes read as the ASCII characters that they have, and no others. -/
theorem fromUtf8Lossy_ascii (bytes : List UInt8) :
    asciiCount (fromUtf8Lossy bytes) = asciiBytes bytes :=
  readFrom_ascii none (by intro begun isBegun; cases isBegun) bytes

/-! ### Chunks -/

section Chunks

open ByteStreams (chunkAt chunkCount take_chunk take_chunks)

variable {size : Nat}

/-- What is read of the chunks, each for itself. -/
def readChunks (size : Nat) (bytes : List UInt8) (count : Nat) : List Char :=
  (List.range count).flatMap fun index => fromUtf8Lossy (chunkAt size bytes index)

theorem readChunks_succ (count : Nat) : readChunks size bytes (count + 1) =
    readChunks size bytes count ++ fromUtf8Lossy (chunkAt size bytes count) := by
  rw [readChunks, List.range_succ, List.flatMap_append, List.flatMap_singleton]
  rfl

theorem fresh_chunkAt (positive : 0 < size) (index : Nat) :
    Fresh (chunkAt size bytes index) ↔ Fresh (bytes.drop (index * size)) := by
  rw [Fresh, Fresh, chunkAt, List.head?_take, if_neg (Nat.ne_of_gt positive)]

/-- Chunks that begin between characters read as the bytes do. -/
theorem readChunks_fresh (positive : 0 < size) (count : Nat)
    (fresh : ∀ index < count, Fresh (bytes.drop (index * size))) :
    readChunks size bytes count = fromUtf8Lossy (bytes.take (count * size)) := by
  induction count with
  | zero => simp [readChunks, fromUtf8Lossy, readFrom, finish]
  | succ count ih =>
    have chunk := (fresh_chunkAt positive count).mpr (fresh count (Nat.lt_succ_self count))
    rw [readChunks_succ, ih fun index less => fresh index (Nat.lt_succ_of_lt less),
      ← fromUtf8Lossy_append chunk, take_chunk]

/-- The chunks read as at least the characters that begin in them, and as more if one of them
begins inside a character. -/
theorem starts_le_readChunks (positive : 0 < size) (count : Nat) :
    starts (bytes.take (count * size)) ≤ (readChunks size bytes count).length ∧
      ((∃ index < count, ¬ Fresh (bytes.drop (index * size))) →
        starts (bytes.take (count * size)) < (readChunks size bytes count).length) := by
  induction count with
  | zero => simp [starts, readChunks]
  | succ count ih =>
    obtain ⟨all, more⟩ := ih
    have chunk := starts_le_length (chunkAt size bytes count)
    rw [readChunks_succ, List.length_append, ← take_chunk, starts_append]
    refine ⟨Nat.add_le_add all chunk, ?_⟩
    rintro ⟨index, less, inside⟩
    rcases Nat.lt_succ_iff_lt_or_eq.mp less with earlier | rfl
    · exact Nat.add_lt_add_of_lt_of_le (more ⟨index, earlier, inside⟩) chunk
    · refine Nat.add_lt_add_of_le_of_lt all (starts_lt_length ?_)
      rwa [fresh_chunkAt positive]

theorem readChunks_ascii (count : Nat) :
    asciiCount (readChunks size bytes count) = asciiBytes (bytes.take (count * size)) := by
  induction count with
  | zero => simp [readChunks, asciiCount, asciiBytes]
  | succ count ih =>
    rw [readChunks_succ, asciiCount_append, ih, fromUtf8Lossy_ascii,
      ← asciiBytes_append, take_chunk]

/-- The chunks of a text's bytes read as the text exactly if none begins inside a character. -/
theorem readChunks_encode (positive : 0 < size) (text : List Char) :
    readChunks size (encode text) (chunkCount size (encode text)) = text ↔
      ∀ index, Fresh ((encode text).drop (index * size)) := by
  have whole : (encode text).take _ = encode text := take_chunks positive
  constructor
  · intro same index
    by_contra inside
    have less : index < chunkCount size (encode text) := by
      by_contra beyond
      apply inside
      have past : (encode text).length ≤ index * size := by
        have enough := Nat.mul_le_mul_right size (Nat.le_of_not_lt beyond)
        have length := congrArg List.length whole
        rw [List.length_take] at length
        omega
      rw [List.drop_eq_nil_of_le past]
      intro byte isHead
      cases isHead
    have more := (starts_le_readChunks positive _).2 ⟨index, less, inside⟩
    rw [whole, starts_encode, same] at more
    exact Nat.lt_irrefl _ more
  · intro fresh
    rw [readChunks_fresh positive _ fun index _ => fresh index, whole, fromUtf8Lossy_encode]

end Chunks

end Utf8
