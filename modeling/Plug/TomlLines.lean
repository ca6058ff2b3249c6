import Plug.TextLines

/-!
# TOML texts of one-line values

Each line of such a text is blank or a comment, names a table, or gives a key its value. Names can
be written bare, in quotation marks with escapes, or in apostrophes, with blanks around the dots
and the brackets. What a value is written like is a parameter.
-/

namespace Toml

open Text (isWhitespace trim trimEndMatches lines)

abbrev Name := List Char

inductive Line (Value : Type) where
  /-- A blank line or a comment. -/
  | nothing
  | table (array : Bool) (path : List Name)
  | entry (path : List Name) (value : Value)
deriving DecidableEq

/-! ### Names -/

def isBlank (character : Char) : Bool := character = ' ' || character = '\t'

def skipBlanks (text : List Char) : List Char := text.dropWhile isBlank

def isBare (character : Char) : Bool :=
  character.isAlphanum || character = '-' || character = '_'

def hexadecimal (digits : List Char) : Option Char :=
  let value := digits.foldl (fun value digit =>
    if digit.isDigit then value * 16 + (digit.toNat - 48)
    else value * 16 + (digit.toLower.toNat - 87)) 0
  if digits.all (fun digit => digit.isDigit || ('a' ≤ digit.toLower && digit.toLower ≤ 'f')) &&
      (value < 0xD800 || 0xDFFF < value && value < 0x110000) then
    some (Char.ofNat value)
  else none

def escaped : Char → Option Char
  | 'b' => some (Char.ofNat 8)
  | 't' => some '\t'
  | 'n' => some '\n'
  | 'f' => some (Char.ofNat 12)
  | 'r' => some '\r'
  | 'e' => some (Char.ofNat 27)
  | '"' => some '"'
  | '\\' => some '\\'
  | _ => none

/-- A name in quotation marks, from its first character on, and what comes after it. -/
def readBasic : List Char → Option (Name × List Char)
  | [] => none
  | '"' :: rest => some ([], rest)
  | '\\' :: 'x' :: a :: b :: rest =>
    (hexadecimal [a, b]).bind fun character =>
      (readBasic rest).map fun (name, later) => (character :: name, later)
  | '\\' :: 'u' :: a :: b :: c :: d :: rest =>
    (hexadecimal [a, b, c, d]).bind fun character =>
      (readBasic rest).map fun (name, later) => (character :: name, later)
  | '\\' :: 'U' :: a :: b :: c :: d :: e :: f :: g :: h :: rest =>
    (hexadecimal [a, b, c, d, e, f, g, h]).bind fun character =>
      (readBasic rest).map fun (name, later) => (character :: name, later)
  | '\\' :: escape :: rest =>
    (escaped escape).bind fun character =>
      (readBasic rest).map fun (name, later) => (character :: name, later)
  | ['\\'] => none
  | character :: rest => (readBasic rest).map fun (name, later) => (character :: name, later)

def readLiteral (text : List Char) : Option (Name × List Char) :=
  match text.dropWhile (· ≠ '\'') with
  | [] => none
  | _ :: later => some (text.takeWhile (· ≠ '\''), later)

def readName : List Char → Option (Name × List Char)
  | '"' :: rest => readBasic rest
  | '\'' :: rest => readLiteral rest
  | text =>
    if text.takeWhile isBare = [] then none
    else some (text.takeWhile isBare, text.dropWhile isBare)

/-- A name, further names after dots, and what comes then. There are no more names than the bound
allows. -/
def readPath : Nat → List Char → Option (List Name × List Char)
  | 0, _ => none
  | bound + 1, text =>
    (readName text).bind fun (name, later) =>
      match skipBlanks later with
      | '.' :: rest => (readPath bound (skipBlanks rest)).map fun (path, last) => (name :: path, last)
      | last => some ([name], last)

/-! ### Lines -/

/-- Nothing is left but blanks and a comment. -/
def ended (text : List Char) : Bool :=
  match skipBlanks text with
  | [] => true
  | first :: _ => first = '#'

/-- Control characters have no place in a line, other than the tab. -/
def isAllowed (character : Char) : Bool :=
  character = '\t' || (32 ≤ character.toNat && character.toNat ≠ 127)

variable {Value : Type} (readValue : List Char → Option Value)

/-- A line from its first character on. `readValue` reads a value with what may stand behind it. -/
def readContent : List Char → Option (Line Value)
  | [] => some .nothing
  | '#' :: _ => some .nothing
  | '[' :: '[' :: text =>
    (readPath text.length (skipBlanks text)).bind fun (path, later) =>
      match later with
      | ']' :: ']' :: last => if ended last then some (.table true path) else none
      | _ => none
  | '[' :: text =>
    (readPath text.length (skipBlanks text)).bind fun (path, later) =>
      match later with
      | ']' :: last => if ended last then some (.table false path) else none
      | _ => none
  | text =>
    (readPath text.length text).bind fun (path, later) =>
      match later with
      | '=' :: last => (readValue (skipBlanks last)).map fun value => .entry path value
      | _ => none

def readLine (text : List Char) : Option (Line Value) :=
  if text.all isAllowed then readContent readValue (skipBlanks text) else none

example : readLine some "  [ a . \"\\u0062.\" ] # c".toList =
    some (.table false ["a".toList, "b.".toList]) := by
  decide

/-! ### What a text defines -/

inductive Definition (Value : Type) where
  | table (array : Bool) (path : List Name)
  /-- A key has its table's path before its own. -/
  | entry (path : List Name) (value : Value)
deriving DecidableEq

/-- What lines define when the first of them stand in a table. -/
def definitions : List Name → List (List Char) → List (Definition Value)
  | _, [] => []
  | current, text :: rest =>
    match readLine readValue text with
    | some (.table array path) => .table array path :: definitions path rest
    | some (.entry path value) => .entry (current ++ path) value :: definitions current rest
    | _ => definitions current rest

/-- Every line is one of TOML. -/
def Readable (texts : List (List Char)) : Prop :=
  ∀ text ∈ texts, (readLine readValue text).isSome = true

instance (texts : List (List Char)) : Decidable (Readable readValue texts) :=
  inferInstanceAs (Decidable (∀ text ∈ texts, _))

/-! ### Where a line begins -/

variable {readValue} {text : List Char} {line : Line Value}

theorem readLine_whole (read : readLine readValue text = some line) : Text.Whole text := by
  unfold readLine at read
  split at read
  · next allowed =>
    rw [List.all_eq_true] at allowed
    constructor
    · intro inside
      exact absurd (allowed '\n' inside) (by decide)
    · intro inside
      exact absurd (allowed '\r' inside) (by decide)
  · cases read

theorem isBare_code {character : Char} (bare : isBare character = true) :
    (48 ≤ character.toNat ∧ character.toNat ≤ 57) ∨
      (65 ≤ character.toNat ∧ character.toNat ≤ 90) ∨
      (97 ≤ character.toNat ∧ character.toNat ≤ 122) ∨ character.toNat = 45 ∨
      character.toNat = 95 := by
  simp only [isBare, Bool.or_eq_true, decide_eq_true_eq] at bare
  rcases bare with ((plain | rfl) | rfl)
  · have code := Text.isAlphanum_code plain
    omega
  · exact .inr (.inr (.inr (.inl rfl)))
  · exact .inr (.inr (.inr (.inr rfl)))

theorem isBare_not_whitespace {character : Char} (bare : isBare character = true) :
    isWhitespace character = false := by
  have code := isBare_code bare
  exact Text.isWhitespace_visible (by omega) (by omega)

/-- A name begins with its quote or a bare character. -/
theorem readName_head {first : Char} {rest : List Char} {name : Name × List Char}
    (read : readName (first :: rest) = some name) : isWhitespace first = false := by
  unfold readName at read
  split at read
  · next same =>
    cases same
    rfl
  · next same =>
    cases same
    rfl
  · split at read
    · cases read
    · next filled =>
      apply isBare_not_whitespace
      by_contra other
      exact filled (List.takeWhile_cons_of_neg other)

theorem readPath_head {bound : Nat} {first : Char} {rest : List Char}
    {path : List Name × List Char} (read : readPath bound (first :: rest) = some path) :
    isWhitespace first = false := by
  cases bound with
  | zero => cases read
  | succ bound =>
    obtain ⟨name, named, -⟩ := Option.bind_eq_some_iff.mp read
    exact readName_head named

theorem readPath_ne_nil {bound : Nat} {path : List Name} {later : List Char}
    (read : readPath bound text = some (path, later)) : path ≠ [] := by
  cases bound with
  | zero => cases read
  | succ bound =>
    obtain ⟨⟨name, after⟩, -, read⟩ := Option.bind_eq_some_iff.mp read
    dsimp only at read
    split at read
    · obtain ⟨⟨names, last⟩, -, pair⟩ := Option.map_eq_some_iff.mp read
      cases pair
      exact List.cons_ne_nil name names
    · cases read
      exact List.cons_ne_nil name []

/-- What a line is, by its first character. -/
theorem readContent_cases {first : Char} {rest : List Char}
    (read : readContent readValue (first :: rest) = some line) :
    isWhitespace first = false ∧ (first = '[' ↔ ∃ array path, line = .table array path) := by
  unfold readContent at read
  split at read
  · next same => cases same
  · next same =>
    cases same
    cases read
    exact ⟨rfl, iff_of_false (by decide) nofun⟩
  · next same =>
    cases same
    obtain ⟨⟨path, later⟩, -, read⟩ := Option.bind_eq_some_iff.mp read
    refine ⟨rfl, iff_of_true rfl ?_⟩
    dsimp only at read
    split at read
    · split at read
      · cases read
        exact ⟨true, path, rfl⟩
      · cases read
    · cases read
  · next same =>
    cases same
    obtain ⟨⟨path, later⟩, -, read⟩ := Option.bind_eq_some_iff.mp read
    refine ⟨rfl, iff_of_true rfl ?_⟩
    dsimp only at read
    split at read
    · split at read
      · cases read
        exact ⟨false, path, rfl⟩
      · cases read
    · cases read
  · next other =>
    obtain ⟨⟨path, later⟩, found, read⟩ := Option.bind_eq_some_iff.mp read
    refine ⟨readPath_head found, iff_of_false ?_ ?_⟩
    · rintro rfl
      exact other rest rfl
    · rintro ⟨array, named, rfl⟩
      dsimp only at read
      split at read
      · obtain ⟨value, -, entry⟩ := Option.map_eq_some_iff.mp read
        cases entry
      · cases read

theorem readLine_start (read : readLine readValue text = some line) :
    text.dropWhile isWhitespace = skipBlanks text := by
  apply Text.dropWhile_of_head
  · intro character blank
    rcases Bool.or_eq_true_iff.mp blank with space | tab
    · rw [of_decide_eq_true space]
      rfl
    · rw [of_decide_eq_true tab]
      rfl
  · intro character head
    unfold readLine at read
    split at read
    · cases start : skipBlanks text with
      | nil =>
        rw [skipBlanks] at start
        rw [start] at head
        cases head
      | cons first rest =>
        rw [start] at read
        rw [skipBlanks] at start
        rw [start] at head
        cases head
        exact (readContent_cases read).1
    · cases read

/-- A line begins with a bracket exactly if it names a table. -/
theorem trim_bracket (read : readLine readValue text = some line) :
    (trim text).head? = some '[' ↔ ∃ array path, line = .table array path := by
  have start := readLine_start read
  have content : readContent readValue (skipBlanks text) = some line := by
    unfold readLine at read
    split at read
    · exact read
    · cases read
  rw [trim, start]
  cases skipped : skipBlanks text with
  | nil =>
    rw [skipped] at content
    cases content
    refine iff_of_false (by decide) ?_
    rintro ⟨array, path, same⟩
    cases same
  | cons first rest =>
    rw [skipped] at content
    obtain ⟨kept, table⟩ := readContent_cases content
    rw [Text.trimEndMatches_head kept, Option.some.injEq]
    exact table

/-- A key has a name. -/
theorem entry_path {path : List Name} {value : Value}
    (read : readLine readValue text = some (.entry path value)) : path ≠ [] := by
  unfold readLine at read
  split at read
  · unfold readContent at read
    split at read
    · cases read
    · cases read
    · obtain ⟨⟨names, later⟩, -, table⟩ := Option.bind_eq_some_iff.mp read
      dsimp only at table
      split at table
      · split at table <;> cases table
      · cases table
    · obtain ⟨⟨names, later⟩, -, table⟩ := Option.bind_eq_some_iff.mp read
      dsimp only at table
      split at table
      · split at table <;> cases table
      · cases table
    · obtain ⟨⟨names, later⟩, found, entry⟩ := Option.bind_eq_some_iff.mp read
      dsimp only at entry
      split at entry
      · obtain ⟨value, -, same⟩ := Option.map_eq_some_iff.mp entry
        cases same
        exact readPath_ne_nil found
      · cases entry
  · cases read

/-! ### Defining lines -/

theorem definitions_nothing {rest : List (List Char)} {current : List Name}
    (read : readLine readValue text = some .nothing) :
    definitions readValue current (text :: rest) = definitions readValue current rest := by
  rw [definitions, read]

theorem definitions_table {rest : List (List Char)} {current path : List Name} {array : Bool}
    (read : readLine readValue text = some (.table array path)) :
    definitions readValue current (text :: rest) =
      .table array path :: definitions readValue path rest := by
  rw [definitions, read]

theorem definitions_entry {rest : List (List Char)} {current path : List Name} {value : Value}
    (read : readLine readValue text = some (.entry path value)) :
    definitions readValue current (text :: rest) =
      .entry (current ++ path) value :: definitions readValue current rest := by
  rw [definitions, read]

/-- An empty last line defines nothing. -/
theorem definitions_blank (current : List Name) (front : List (List Char)) :
    definitions readValue current (front ++ [[]]) = definitions readValue current front := by
  induction front generalizing current with
  | nil => rfl
  | cons text rest ih =>
    rw [List.cons_append, definitions, definitions]
    simp only [ih]

end Toml
