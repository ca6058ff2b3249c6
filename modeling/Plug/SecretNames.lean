import Plug.TextSearch

/-!
# Names of stored secrets

A secret that is stored for a server is named after the server and the field. A name that would
lose something, a character that has to be replaced or an end that does not fit, ends in a digest
of the whole server and field. The bearer token is the field `token`; an entry of the environment
is a field of its own name, and marked where that name could be taken for another field.
-/

namespace Plug.Secrets

open Text

def maxName : Nat := 64

def nameDigest : Nat := 12

def isAlphanumeric (character : Char) : Bool := character.isAlphanum

/-- A character that a readable name keeps. -/
def isSafe (character : Char) : Bool :=
  isAlphanumeric character || character == '_' || character == '-'

/-- A name that is safe to print and to pass to a command. -/
def validName (name : List Char) : Bool :=
  1 ≤ byteLength name && byteLength name ≤ maxName &&
    name.all fun character => isSafe character || character == '.'

/-- `str::to_ascii_uppercase`. -/
def toAsciiUppercase (text : List Char) : List Char :=
  text.map Char.toUpper

/-- Endings of variables that say where a credential is, or whose it is. -/
def elsewhereEndings : List String :=
  ["_ID", "_URL", "_URI", "_PATH", "_FILE", "_DIR", "_NAME", "_ACCOUNT", "_USER"]

def secretWords : List String :=
  ["TOKEN", "SECRET", "PASSWORD", "PASSWD", "CREDENTIAL", "API_KEY", "APIKEY", "ACCESS_KEY",
    "PRIVATE_KEY"]

/-- An environment variable of this name usually holds a credential. -/
def looksSecret (key : List Char) : Bool :=
  let key := toAsciiUppercase key
  if elsewhereEndings.any fun ending => ending.toList.isSuffixOf key then false
  else
    (secretWords.any fun word => contains word.toList key) || key == "KEY".toList ||
      "_KEY".toList.isSuffixOf key || "_PAT".toList.isSuffixOf key

def isHexDigit (character : Char) : Bool :=
  character.isDigit || ('a' ≤ character && character ≤ 'f')

/-- SHA-256 of a text, as hexadecimal digits. -/
structure Digest where
  hex : List Char → List Char
  length_hex : ∀ text, (hex text).length = 64
  hex_digits : ∀ text, ∀ character ∈ hex text, isHexDigit character = true

/-- The part of a digest that a name ends in. -/
def Digest.ending (digest : Digest) (text : List Char) : List Char :=
  (digest.hex text).take nameDigest

def safe (text : List Char) : List Char :=
  text.map fun character => if isSafe character then character else '-'

/-- The server and field with what a name cannot hold replaced, cut to fit. -/
def readableName (server field : List Char) : List Char :=
  (safe server ++ '.' :: safe field).take maxName

/-- What a digest is taken of. -/
def digested (server field : List Char) : List Char :=
  server ++ '\x00' :: field

def nameFor (digest : Digest) (server field : List Char) : List Char :=
  let plain := server ++ '.' :: field
  if server.all isSafe && field.all isSafe && byteLength plain ≤ maxName then plain
  else (readableName server field).take (maxName - nameDigest - 1) ++
    '.' :: digest.ending (digested server field)

def envMark : List Char := "env.".toList

def tokenField : List Char := "token".toList

/-- The field that an entry of the environment is stored under. -/
def envField (key : List Char) : List Char :=
  if key = tokenField ∨ envMark.isPrefixOf key then envMark ++ key else key

/-- The name is one that was made for the field, now or under the older naming. -/
def madeFor (digest : Digest) (server field name : List Char) : Bool :=
  let fieldThen := (stripPrefix envMark field).getD field
  name == nameFor digest server field || name == readableName server fieldThen

/-! ### Fields -/

/-- The fields of a server that Plug stores: the bearer token, and the entries of the environment
that look like credentials. -/
inductive Field where
  | bearer
  | env (key : List Char) (secret : looksSecret key = true)

def Field.stored : Field → List Char
  | .bearer => tokenField
  | .env key _ => envField key

theorem envField_ne_token (key : List Char) : envField key ≠ tokenField := by
  unfold envField
  split
  · intro same
    exact absurd (congrArg List.head? same) (by simp [envMark, tokenField])
  · rename_i plain
    intro same
    exact plain (Or.inl same)

variable {key other text : List Char} {character : Char}

theorem envMark_prefix_envField :
    envMark.isPrefixOf (envField key) = true ↔ key = tokenField ∨ envMark.isPrefixOf key = true := by
  unfold envField
  split
  · rename_i marked
    have begins : envMark.isPrefixOf (envMark ++ key) = true :=
      List.isPrefixOf_iff_prefix.mpr (List.prefix_append envMark key)
    exact ⟨fun _ => marked, fun _ => begins⟩
  · rename_i plain
    simp only [not_or] at plain
    simp [plain]

theorem envField_injective (same : envField key = envField other) : key = other := by
  have marked : (key = tokenField ∨ envMark.isPrefixOf key = true) ↔
      (other = tokenField ∨ envMark.isPrefixOf other = true) := by
    rw [← envMark_prefix_envField, ← envMark_prefix_envField, same]
  unfold envField at same
  by_cases own : key = tokenField ∨ envMark.isPrefixOf key = true
  · rw [if_pos own, if_pos (marked.mp own)] at same
    exact List.append_cancel_left same
  · rw [if_neg own, if_neg (fun there => own (marked.mpr there))] at same
    exact same

theorem Field.stored_injective {field other : Field} (same : field.stored = other.stored) :
    field = other := by
  cases field with
  | bearer =>
    cases other with
    | bearer => rfl
    | env key secret => exact absurd same.symm (envField_ne_token key)
  | env key secret =>
    cases other with
    | bearer => exact absurd same (envField_ne_token key)
    | env otherKey otherSecret =>
      obtain rfl := envField_injective same
      rfl

/-! ### Credentials are no digests -/

/-- A letter that no hexadecimal digit becomes in upper case. -/
def beyondHex (character : Char) : Bool :=
  character == 'T' || character == 'S' || character == 'P' || character == 'R' || character == 'K'

theorem beyondHex_toUpper (hex : isHexDigit character = true) :
    beyondHex character.toUpper = false := by
  have small : character.toNat < 128 := by
    simp only [isHexDigit, Char.isDigit, Bool.or_eq_true, Bool.and_eq_true, decide_eq_true_eq] at hex
    rcases hex with ⟨_, below⟩ | ⟨_, below⟩
    · exact Nat.lt_of_le_of_lt below (by decide)
    · exact Nat.lt_of_le_of_lt below (by decide)
  have all : ∀ code : Fin 128, isHexDigit (Char.ofNat code) = true →
      beyondHex (Char.ofNat code).toUpper = false := by
    decide
  have own := all ⟨character.toNat, small⟩
  rw [show Char.ofNat (⟨character.toNat, small⟩ : Fin 128) = character from
    Char.ofNat_toNat character] at own
  exact own hex

theorem mem_of_contains {needle : List Char} (found : contains needle text = true)
    (member : character ∈ needle) : character ∈ text :=
  (contains_iff_within.mp found).subset member

theorem mem_of_isSuffixOf {ending : List Char} (found : ending.isSuffixOf text = true)
    (member : character ∈ ending) : character ∈ text :=
  (List.isSuffixOf_iff_suffix.mp found).subset member

/-- Every word that makes a name look secret has a letter that is no hexadecimal digit. -/
theorem secretWords_beyondHex : ∀ word ∈ secretWords, ∃ character ∈ word.toList,
    beyondHex character = true := by
  have each : secretWords.all (fun word => word.toList.any beyondHex) = true := by decide
  intro word member
  exact List.any_eq_true.mp (List.all_eq_true.mp each word member)

theorem looksSecret_beyondHex (secret : looksSecret key = true) :
    ∃ character ∈ toAsciiUppercase key, beyondHex character = true := by
  unfold looksSecret at secret
  dsimp only at secret
  split at secret
  · cases secret
  · simp only [Bool.or_eq_true, List.any_eq_true, beq_iff_eq] at secret
    rcases secret with ((⟨word, member, found⟩ | whole) | ends) | ends
    · obtain ⟨character, inside, beyond⟩ := secretWords_beyondHex word member
      exact ⟨character, mem_of_contains found inside, beyond⟩
    · exact ⟨'K', by rw [whole]; decide, by decide⟩
    · exact ⟨'K', mem_of_isSuffixOf ends (by decide), by decide⟩
    · exact ⟨'P', mem_of_isSuffixOf ends (by decide), by decide⟩

theorem looksSecret_not_hex (secret : looksSecret key = true) :
    ∃ character ∈ key, isHexDigit character = false := by
  obtain ⟨raised, member, beyond⟩ := looksSecret_beyondHex secret
  obtain ⟨character, inside, same⟩ := List.mem_map.mp member
  refine ⟨character, inside, Bool.eq_false_iff.mpr ?_⟩
  intro hex
  rw [← same, beyondHex_toUpper hex] at beyond
  cases beyond

/-- No field is a row of hexadecimal digits. -/
theorem Field.stored_not_hex (field : Field) :
    ∃ character ∈ field.stored, isHexDigit character = false := by
  cases field with
  | bearer => exact ⟨'t', by decide, by decide⟩
  | env key secret =>
    obtain ⟨character, member, other⟩ := looksSecret_not_hex secret
    refine ⟨character, ?_, other⟩
    show character ∈ envField key
    unfold envField
    split
    · exact List.mem_append_right _ member
    · exact member

/-! ### Distinct names -/

theorem append_cons_inj {mark : Char} {first second rest : List Char} (firstFree : mark ∉ first)
    (secondFree : mark ∉ second) (same : first ++ mark :: rest = second ++ mark :: other) :
    first = second ∧ rest = other := by
  induction first generalizing second with
  | nil =>
    cases second with
    | nil => exact ⟨rfl, (List.cons.inj same).2⟩
    | cons character characters =>
      have here : mark = character := (List.cons.inj same).1
      exact absurd (here ▸ List.mem_cons_self) secondFree
  | cons character characters ih =>
    cases second with
    | nil =>
      have here : character = mark := (List.cons.inj same).1
      exact absurd (here ▸ List.mem_cons_self) firstFree
    | cons head tail =>
      obtain ⟨here, later⟩ := List.cons.inj same
      rw [List.mem_cons, not_or] at firstFree secondFree
      obtain ⟨begins, ends⟩ := ih firstFree.2 secondFree.2 later
      exact ⟨by rw [here, begins], ends⟩

theorem append_cons_inj_right {mark : Char} {first second rest : List Char} (restFree : mark ∉ rest)
    (otherFree : mark ∉ other) (same : first ++ mark :: rest = second ++ mark :: other) :
    first = second ∧ rest = other := by
  have backwards := congrArg List.reverse same
  simp only [List.reverse_append, List.reverse_cons, List.append_assoc, List.singleton_append]
    at backwards
  obtain ⟨ends, begins⟩ := append_cons_inj (by simpa using restFree) (by simpa using otherFree)
    backwards
  exact ⟨List.reverse_inj.mp begins, List.reverse_inj.mp ends⟩

theorem dot_not_safe (plain : text.all isSafe = true) : '.' ∉ text := by
  intro member
  exact absurd (List.all_eq_true.mp plain '.' member) (by decide)

section Names

variable (digest : Digest)

theorem length_ending (text : List Char) : (digest.ending text).length = nameDigest := by
  rw [Digest.ending, List.length_take, digest.length_hex]
  rfl

theorem ending_hex (member : character ∈ digest.ending text) : isHexDigit character = true :=
  digest.hex_digits text character (List.mem_of_mem_take member)

theorem dot_notMem_ending (text : List Char) : '.' ∉ digest.ending text := by
  intro member
  exact absurd (ending_hex digest member) (by decide)

/-- A name is the plain one, or ends in a digest. -/
theorem nameFor_cases (server field : List Char) :
    (server.all isSafe = true ∧ field.all isSafe = true ∧
        byteLength (server ++ '.' :: field) ≤ maxName ∧
        nameFor digest server field = server ++ '.' :: field) ∨
      nameFor digest server field =
        (readableName server field).take (maxName - nameDigest - 1) ++
          '.' :: digest.ending (digested server field) := by
  unfold nameFor
  dsimp only
  split
  · rename_i fits
    simp only [Bool.and_eq_true, decide_eq_true_eq] at fits
    exact Or.inl ⟨fits.1.1, fits.1.2, fits.2, rfl⟩
  · exact Or.inr rfl

/-- A plain name is none that ends in a digest, as no field is a row of hexadecimal digits. -/
theorem plain_ne_digested {front server : List Char} (field : Field)
    (plain : field.stored.all isSafe = true) :
    server ++ '.' :: field.stored ≠ front ++ '.' :: digest.ending text := by
  intro same
  obtain ⟨_, ends⟩ := append_cons_inj_right (dot_not_safe plain) (dot_notMem_ending digest text) same
  obtain ⟨character, member, other⟩ := field.stored_not_hex
  rw [ends] at member
  rw [ending_hex digest member] at other
  cases other

theorem nameFor_injective {server : List Char} {field otherField : Field}
    (serverPlain : '\x00' ∉ server) (otherPlain : '\x00' ∉ other)
    (apart : digest.ending (digested server field.stored) = digest.ending (digested other
      otherField.stored) → digested server field.stored = digested other otherField.stored)
    (same : nameFor digest server field.stored = nameFor digest other otherField.stored) :
    server = other ∧ field = otherField := by
  rcases nameFor_cases digest server field.stored with ⟨safeServer, safeField, _, name⟩ | name
  · rcases nameFor_cases digest other otherField.stored with ⟨safeOther, _, _, named⟩ | named
    · rw [name, named] at same
      obtain ⟨servers, fields⟩ :=
        append_cons_inj (dot_not_safe safeServer) (dot_not_safe safeOther) same
      exact ⟨servers, Field.stored_injective fields⟩
    · rw [name, named] at same
      exact absurd same (plain_ne_digested digest field safeField)
  · rcases nameFor_cases digest other otherField.stored with ⟨_, safeField, _, named⟩ | named
    · rw [name, named] at same
      exact absurd same.symm (plain_ne_digested digest otherField safeField)
    · rw [name, named] at same
      have ends := (append_cons_inj_right (dot_notMem_ending digest _)
        (dot_notMem_ending digest _) same).2
      obtain ⟨servers, fields⟩ := append_cons_inj serverPlain otherPlain (apart ends)
      exact ⟨servers, Field.stored_injective fields⟩

/-! ### Valid names -/

/-- A character of a name. -/
def nameCharacter (character : Char) : Bool := isSafe character || character == '.'

theorem nameCharacter_size (fits : nameCharacter character = true) : character.utf8Size = 1 := by
  rw [Char.utf8Size_eq_one_iff]
  simp only [nameCharacter, isSafe, isAlphanumeric] at fits
  delta Char.isAlphanum Char.isAlpha Char.isUpper Char.isLower Char.isDigit at fits
  simp only [Bool.or_eq_true, Bool.and_eq_true, decide_eq_true_eq, beq_iff_eq] at fits
  rcases fits with (((((⟨_, below⟩ | ⟨_, below⟩) | ⟨_, below⟩) | same) | same) | same)
  · exact UInt32.le_trans below (by decide)
  · exact UInt32.le_trans below (by decide)
  · exact UInt32.le_trans below (by decide)
  · subst same; decide
  · subst same; decide
  · subst same; decide

theorem byteLength_name {name : List Char} (fits : name.all nameCharacter = true) :
    byteLength name = name.length := by
  induction name with
  | nil => rfl
  | cons character rest ih =>
    rw [List.all_cons, Bool.and_eq_true] at fits
    have later := ih fits.2
    unfold byteLength at later ⊢
    rw [List.map_cons, List.sum_cons, later, nameCharacter_size fits.1, List.length_cons,
      Nat.add_comm]

theorem nameCharacter_of_isSafe (fits : isSafe character = true) :
    nameCharacter character = true := by
  simp [nameCharacter, fits]

theorem all_nameCharacter (plain : text.all isSafe = true) : text.all nameCharacter = true := by
  rw [List.all_eq_true] at plain ⊢
  exact fun character member => nameCharacter_of_isSafe (plain character member)

theorem safe_all (text : List Char) : (safe text).all isSafe = true := by
  rw [safe, List.all_map, List.all_eq_true]
  intro character _
  dsimp only [Function.comp]
  split
  · assumption
  · decide

theorem isSafe_of_isHexDigit (hex : isHexDigit character = true) : isSafe character = true := by
  simp only [isHexDigit, Bool.or_eq_true, Bool.and_eq_true, decide_eq_true_eq] at hex
  simp only [isSafe, isAlphanumeric]
  delta Char.isAlphanum Char.isAlpha Char.isLower
  simp only [Bool.or_eq_true, Bool.and_eq_true, decide_eq_true_eq]
  rcases hex with digit | ⟨above, below⟩
  · exact Or.inl (Or.inl (Or.inr digit))
  · exact Or.inl (Or.inl (Or.inl (Or.inr ⟨above, UInt32.le_trans below (by decide)⟩)))

theorem readableName_all (server field : List Char) :
    (readableName server field).all nameCharacter = true := by
  rw [List.all_eq_true]
  intro character member
  have whole : (safe server ++ '.' :: safe field).all nameCharacter = true := by
    rw [List.all_append, List.all_cons, all_nameCharacter (safe_all server),
      all_nameCharacter (safe_all field)]
    rfl
  exact List.all_eq_true.mp whole character (List.mem_of_mem_take member)

theorem nameFor_all (server field : List Char) :
    (nameFor digest server field).all nameCharacter = true := by
  rcases nameFor_cases digest server field with ⟨safeServer, safeField, _, name⟩ | name
  · rw [name, List.all_append, List.all_cons, all_nameCharacter safeServer,
      all_nameCharacter safeField]
    rfl
  · have begins : ((readableName server field).take (maxName - nameDigest - 1)).all nameCharacter =
        true := by
      rw [List.all_eq_true]
      intro character member
      exact List.all_eq_true.mp (readableName_all server field) character
        (List.mem_of_mem_take member)
    have ends : (digest.ending (digested server field)).all nameCharacter = true := by
      rw [List.all_eq_true]
      intro character member
      exact nameCharacter_of_isSafe (isSafe_of_isHexDigit (ending_hex digest member))
    rw [name, List.all_append, List.all_cons, begins, ends]
    rfl

theorem nameFor_length (server field : List Char) :
    1 ≤ (nameFor digest server field).length ∧
      (nameFor digest server field).length ≤ maxName := by
  have bytes := byteLength_name (nameFor_all digest server field)
  rcases nameFor_cases digest server field with ⟨_, _, fits, name⟩ | name
  · rw [name] at bytes ⊢
    refine ⟨?_, bytes ▸ fits⟩
    rw [List.length_append, List.length_cons]
    omega
  · rw [name, List.length_append, List.length_cons, length_ending, List.length_take]
    have cut : maxName - nameDigest - 1 + (nameDigest + 1) = maxName := rfl
    omega

/-- Every name is one that a store takes. -/
theorem validName_nameFor (server field : List Char) :
    validName (nameFor digest server field) = true := by
  have fits := nameFor_all digest server field
  obtain ⟨some, short⟩ := nameFor_length digest server field
  unfold validName
  rw [byteLength_name fits, Bool.and_eq_true, Bool.and_eq_true, decide_eq_true_eq,
    decide_eq_true_eq]
  exact ⟨⟨some, short⟩, fits⟩

end Names

end Plug.Secrets
