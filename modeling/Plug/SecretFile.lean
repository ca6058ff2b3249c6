import Plug.Dotenv
import Plug.SecretNames
import Plug.Utf8

/-!
# The file of secrets

The file store keeps its secrets in the `.env` file beside the configuration, which a person may
have written. It tells the lines of a name by how they begin and writes a value between quotes;
what is read back is what the parser of such files makes of them. As a store it is a map.

What the disk answers is part of a call. A file that is replaced is renamed into place as a whole.
-/

namespace Plug.SecretFile

open Text Dotenv Secrets

/-- The reasons for which reading or replacing the file fails. -/
structure Disk where
  read : Option String
  createDir : Option String
  writeTemp : Option String
  rename : Option String

/-- The bytes of the file, or none when there is no file yet. -/
abbrev Contents := Option (List UInt8)

inductive SecretError where
  | unavailable (store reason : String)
deriving DecidableEq

def unavailable (reason : String) : SecretError := .unavailable "file" reason

/-- `File::lines`. -/
def fileLines (disk : Disk) (contents : Contents) : Except SecretError (List (List Char)) :=
  match disk.read with
  | some reason => .error (unavailable reason)
  | none =>
    match contents with
    | none => .ok []
    | some bytes =>
      match Utf8.fromUtf8 bytes with
      | some content => .ok (lines content)
      | none => .error (unavailable "stream did not contain valid UTF-8")

/-- `File::write`. -/
def write (disk : Disk) (contents : Contents) (written : List (List Char)) :
    Except SecretError Unit × Contents :=
  let content := joinLines written
  let content := if content = [] then content else content ++ ['\n']
  match disk.createDir <|> disk.writeTemp <|> disk.rename with
  | some reason => (.error (unavailable reason), contents)
  | none => (.ok (), some (Utf8.encode content))

/-- The line assigns the name. -/
def assigns (line name : List Char) : Bool :=
  match stripPrefix name (line.dropWhile isWhitespace) with
  | some rest => (rest.dropWhile isWhitespace).head? == some '='
  | none => false

/-- The value as the right-hand side of a line. -/
def quoted (value : List Char) : Option (List Char) :=
  if '\n' ∈ value ∨ '\r' ∈ value then none
  else if '\'' ∉ value then some ('\'' :: value ++ ['\''])
  else if '"' ∉ value then some ('"' :: value ++ ['"'])
  else none

def get (disk : Disk) (contents : Contents) (name : List Char) :
    Except SecretError (Option (List Char)) :=
  match fileLines disk contents with
  | .error error => .error error
  | .ok read => .ok (parseDotenv (joinLines read) name)

def set (disk : Disk) (contents : Contents) (name value : List Char) :
    Except SecretError Unit × Contents :=
  match quoted value with
  | none => (.error (unavailable
      "a value with both kinds of quote, or a line break, does not fit a line"), contents)
  | some value =>
    match fileLines disk contents with
    | .error error => (.error error, contents)
    | .ok read =>
      write disk contents (read.filter (fun line => !assigns line name) ++ [name ++ '=' :: value])

def remove (disk : Disk) (contents : Contents) (name : List Char) :
    Except SecretError Unit × Contents :=
  match fileLines disk contents with
  | .error error => (.error error, contents)
  | .ok read =>
    let kept := read.filter fun line => !assigns line name
    if kept.length = read.length then (.ok (), contents) else write disk contents kept

/-! ### Lines of a name -/

variable {name line value : List Char} {contents after : Contents} {disk : Disk}

/-- A character of a name is no blank, and has no meaning of its own in a line. -/
theorem nameCharacter_plain {character : Char} (fits : nameCharacter character = true) :
    isWhitespace character = false ∧ character ≠ '=' ∧ character ≠ '#' := by
  have code : (48 ≤ character.toNat ∧ character.toNat ≤ 57) ∨
      (65 ≤ character.toNat ∧ character.toNat ≤ 90) ∨
      (97 ≤ character.toNat ∧ character.toNat ≤ 122) ∨ character.toNat = 95 ∨
      character.toNat = 45 ∨ character.toNat = 46 := by
    simp only [nameCharacter, isSafe, isAlphanumeric, Bool.or_eq_true, beq_iff_eq] at fits
    rcases fits with ((plain | rfl) | rfl) | rfl
    · have plain := isAlphanum_code plain
      omega
    · exact .inr (.inr (.inr (.inl rfl)))
    · exact .inr (.inr (.inr (.inr (.inl rfl))))
    · exact .inr (.inr (.inr (.inr (.inr rfl))))
  refine ⟨?_, ?_, ?_⟩
  · exact isWhitespace_visible (by omega) (by omega)
  · rintro rfl
    exact absurd code (by decide)
  · rintro rfl
    exact absurd code (by decide)

/-- What a name is to a line: some characters, none of them a blank or a sign. -/
structure Plain (name : List Char) : Prop where
  filled : name ≠ []
  whitespace : ∀ character ∈ name, isWhitespace character = false
  equals : '=' ∉ name
  sign : '#' ∉ name

theorem plain_of_validName (valid : validName name = true) : Plain name := by
  simp only [validName, Bool.and_eq_true, decide_eq_true_eq] at valid
  obtain ⟨⟨long, _⟩, characters⟩ := valid
  have each : ∀ character ∈ name, isWhitespace character = false ∧ character ≠ '=' ∧
      character ≠ '#' :=
    fun character member => nameCharacter_plain (List.all_eq_true.mp characters character member)
  refine ⟨?_, fun character member => (each character member).1,
    fun member => (each '=' member).2.1 rfl, fun member => (each '#' member).2.2 rfl⟩
  rintro rfl
  exact absurd long (by decide)

theorem Plain.ends (plain : Plain name) : ∃ first last, name.head? = some first ∧
    isWhitespace first = false ∧ name.getLast? = some last ∧ isWhitespace last = false := by
  refine ⟨name.head plain.filled, name.getLast plain.filled, List.head?_eq_some_head plain.filled,
    plain.whitespace _ (List.head_mem plain.filled), List.getLast?_eq_some_getLast plain.filled,
    plain.whitespace _ (List.getLast_mem plain.filled)⟩

theorem Plain.trim (plain : Plain name) {back : List Char}
    (blank : ∀ character ∈ back, isWhitespace character = true) :
    Text.trim (name ++ back) = name := by
  obtain ⟨first, last, head, keptFirst, ends, keptLast⟩ := plain.ends
  rw [trim_append blank, trim_of_ends head keptFirst ends keptLast]

/-- A line that begins with a name and an equals sign assigns the name. -/
theorem assignment_named (plain : Plain name) {front back rest : List Char}
    (blankFront : ∀ character ∈ front, isWhitespace character = true)
    (blankBack : ∀ character ∈ back, isWhitespace character = true) :
    assignment (front ++ name ++ back ++ '=' :: rest) =
      some (name, valueOf (trim (trimEndMatches isWhitespace rest))) := by
  obtain ⟨first, last, head, keptFirst, ends, keptLast⟩ := plain.ends
  obtain ⟨others, rfl⟩ : ∃ others, name = first :: others := by
    cases name with
    | nil => cases head
    | cons other others =>
      rw [Option.some.inj head]
      exact ⟨others, rfl⟩
  have trimmed : Text.trim (front ++ (first :: others) ++ back ++ '=' :: rest) =
      (first :: others) ++ back ++ '=' :: trimEndMatches isWhitespace rest := by
    have stops : (front ++ (first :: others) ++ back ++ '=' :: rest).dropWhile isWhitespace =
        (first :: others) ++ back ++ '=' :: rest := by
      simp only [List.append_assoc, List.cons_append]
      exact dropWhile_append_cons blankFront keptFirst
    rw [Text.trim, stops]
    exact trimEndMatches_append_cons (by decide)
  have absent : '=' ∉ (first :: others) ++ back := by
    intro member
    rcases List.mem_append.mp member with inName | inBack
    · exact plain.equals inName
    · exact absurd (blankBack '=' inBack) (by decide)
  have unsigned : first ≠ '#' := fun same => plain.sign (same ▸ List.mem_cons_self)
  have noBlank : ' ' ∉ first :: others := by
    intro member
    exact absurd (plain.whitespace ' ' member) (by decide)
  unfold assignment
  dsimp only
  rw [trimmed, if_neg (by simp [unsigned]), splitOnce_character absent]
  dsimp only
  rw [plain.trim blankBack, if_neg (by simp [noBlank])]

/-- The lines that are told by how they begin are those that assign the name. -/
theorem assigns_iff (plain : Plain name) (line : List Char) :
    assigns line name = true ↔ ∃ value, assignment line = some (name, value) := by
  constructor
  · intro begins
    unfold assigns at begins
    split at begins
    · rename_i rest stripped
      have starts : ∃ after, rest.dropWhile isWhitespace = '=' :: after := by
        cases left : rest.dropWhile isWhitespace with
        | nil =>
          rw [left] at begins
          cases begins
        | cons first after =>
          rw [left] at begins
          exact ⟨after, congrArg (· :: after) (Option.some.inj (beq_iff_eq.mp begins))⟩
      obtain ⟨after, starts⟩ := starts
      obtain ⟨back, blankBack, _⟩ := dropWhile_eq_cons starts
      have front := List.takeWhile_append_dropWhile (p := isWhitespace) (l := line)
      rw [stripPrefix_eq_some_iff.mp stripped, back, ← List.append_assoc, ← List.append_assoc]
        at front
      rw [← front]
      exact ⟨_, assignment_named plain (fun _ member => List.mem_takeWhile_imp member) blankBack⟩
    · cases begins
  · rintro ⟨value, read⟩
    unfold assignment at read
    dsimp only at read
    split at read
    · cases read
    split at read
    · cases read
    rename_i before after found
    split at read
    · cases read
    obtain ⟨key, _⟩ := Prod.mk.inj (Option.some.inj read)
    have split := (splitOnce_eq_some_iff.mp found).1
    -- Nothing stands before the name: the line was trimmed.
    obtain ⟨front, back, parts, blankFront, blankBack⟩ := trim_parts before
    rw [key] at parts
    have nothing : front = [] := by
      cases front with
      | nil => rfl
      | cons first others =>
        have head : (Text.trim line).head? = some first := by
          rw [split, parts]
          rfl
        have kept := trim_head head
        rw [blankFront first List.mem_cons_self] at kept
        cases kept
    obtain ⟨ending, whole, _⟩ := trimEndMatches_rest isWhitespace (line.dropWhile isWhitespace)
    rw [← Text.trim, split, parts, nothing] at whole
    have line : line.dropWhile isWhitespace = name ++ (back ++ '=' :: (after ++ ending)) := by
      rw [whole]
      simp
    unfold assigns
    rw [line, stripPrefix_append]
    dsimp only
    rw [dropWhile_append_cons blankBack (by decide)]
    rfl

theorem quoted_eq {written : List Char} (fits : quoted value = some written) :
    ('\n' ∉ value ∧ '\r' ∉ value) ∧
      ∃ mark, (mark = '"' ∨ mark = '\'') ∧ written = mark :: value ++ [mark] := by
  unfold quoted at fits
  split at fits
  · cases fits
  rename_i unbroken
  refine ⟨not_or.mp unbroken, ?_⟩
  split at fits
  · exact ⟨'\'', Or.inr rfl, (Option.some.inj fits).symm⟩
  split at fits
  · exact ⟨'"', Or.inl rfl, (Option.some.inj fits).symm⟩
  · cases fits

theorem quoted_eq_none : quoted value = none ↔
    ('\n' ∈ value ∨ '\r' ∈ value) ∨ '\'' ∈ value ∧ '"' ∈ value := by
  unfold quoted
  split
  · rename_i broken
    simp [broken]
  split
  · rename_i unbroken absent
    simp [unbroken, absent]
  split
  · rename_i unbroken _ absent
    simp [unbroken, absent]
  · rename_i unbroken single double
    simp [unbroken, not_not.mp single, not_not.mp double]

/-- A value that is quoted is read back. -/
theorem assignment_quoted (plain : Plain name) {written : List Char}
    (fits : quoted value = some written) :
    assignment (name ++ '=' :: written) = some (name, value) := by
  obtain ⟨_, mark, which, rfl⟩ := quoted_eq fits
  have kept : isWhitespace mark = false := by
    rcases which with rfl | rfl
    · decide
    · decide
  have whole : trim (trimEndMatches isWhitespace (mark :: value ++ [mark])) =
      mark :: value ++ [mark] := by
    have last : (mark :: value ++ [mark]).getLast? = some mark := List.getLast?_concat
    rw [trimEndMatches_of_last last kept]
    exact trim_of_ends rfl kept last kept
  have bare : valueOf (mark :: value ++ [mark]) = value := by
    have long : 2 ≤ byteLength (mark :: value ++ [mark]) := by
      have first := Char.utf8Size_pos mark
      simp only [byteLength_append, byteLength_cons]
      omega
    have marked : (mark :: value ++ [mark]).head? = some '"' ∨
        (mark :: value ++ [mark]).head? = some '\'' := by
      rcases which with rfl | rfl
      · exact Or.inl rfl
      · exact Or.inr rfl
    have closed : (mark :: value ++ [mark]).getLast? = some mark := List.getLast?_concat
    have both : (mark :: value ++ [mark]).head? = some '"' ∧
        (mark :: value ++ [mark]).getLast? = some '"' ∨
        (mark :: value ++ [mark]).head? = some '\'' ∧
          (mark :: value ++ [mark]).getLast? = some '\'' := by
      rw [closed]
      rcases which with rfl | rfl
      · exact Or.inl ⟨rfl, rfl⟩
      · exact Or.inr ⟨rfl, rfl⟩
    rw [valueOf, if_pos marked, unquote, if_pos ⟨both, long⟩]
    exact List.dropLast_concat
  have named : assignment ([] ++ name ++ [] ++ '=' :: (mark :: value ++ [mark])) = _ :=
    assignment_named plain (fun _ member => absurd member List.not_mem_nil)
      fun _ member => absurd member List.not_mem_nil
  rw [whole, bare] at named
  simpa using named

/-! ### The file as a map -/

/-- The values that the file keeps, if its bytes are text. -/
def vars : Contents → Option Vars
  | none => some fun _ => none
  | some bytes => (Utf8.fromUtf8 bytes).map parseDotenv

theorem fileLines_vars {read : List (List Char)} (found : fileLines disk contents = .ok read) :
    vars contents = some (assignAll read) ∧ ∀ line ∈ read, '\n' ∉ line := by
  unfold fileLines at found
  split at found
  · cases found
  split at found
  · cases found
    exact ⟨rfl, fun _ member => absurd member List.not_mem_nil⟩
  split at found
  · rename_i content text
    cases found
    exact ⟨by rw [vars, text]; rfl, fun _ member => mem_lines member⟩
  · cases found

theorem get_vars {read : Option (List Char)} (got : get disk contents name = .ok read) :
    ∃ kept, vars contents = some kept ∧ read = kept name := by
  unfold get at got
  split at got
  · cases got
  · rename_i lines found
    obtain ⟨same, plain⟩ := fileLines_vars found
    rw [parseDotenv_joinLines plain] at got
    exact ⟨_, same, (Except.ok.inj got).symm⟩

theorem write_cases (disk : Disk) (contents : Contents) {written : List (List Char)}
    (plain : ∀ line ∈ written, '\n' ∉ line) :
    (∃ reason, write disk contents written = (.error (unavailable reason), contents)) ∨
      ∃ after, write disk contents written = (.ok (), after) ∧
        vars after = some (assignAll written) := by
  unfold write
  dsimp only
  split
  · exact Or.inl ⟨_, rfl⟩
  · refine Or.inr ⟨_, rfl, ?_⟩
    rw [vars, Utf8.fromUtf8_eq_some_iff.mpr rfl, Option.map_some]
    congr 1
    split
    · rename_i empty
      rw [empty, ← parseDotenv_joinLines plain, empty]
    · rename_i filled
      refine parseDotenv_ended plain ?_
      rintro rfl
      exact filled rfl

/-- Taking the lines of a name out takes its value out. -/
theorem assignAll_filter (plain : Plain name) (written : List (List Char)) :
    assignAll (written.filter fun line => !assigns line name) =
      Function.update (assignAll written) name none := by
  induction written using List.reverseRecOn with
  | nil =>
    funext key
    exact (congrFun (Function.update_eq_self name _) key).symm
  | append_singleton others line ih =>
    rw [List.filter_append, assignAll_concat]
    cases read : assignment line with
    | none =>
      have other : assigns line name = false := by
        rw [← Bool.not_eq_true, assigns_iff plain, read]
        exact fun found => nomatch found
      rw [List.filter_singleton, other, Bool.not_false, cond_true, assignAll_concat, read]
      exact ih
    | some entry =>
      obtain ⟨key, value⟩ := entry
      by_cases same : key = name
      · subst same
        have named : assigns line key = true := (assigns_iff plain line).mpr ⟨value, read⟩
        rw [List.filter_singleton, named, Bool.not_true, cond_false, List.append_nil]
        dsimp only
        rw [Function.update_idem]
        exact ih
      · have other : assigns line name = false := by
          rw [← Bool.not_eq_true, assigns_iff plain, read]
          rintro ⟨found, equal⟩
          exact same (Prod.mk.inj (Option.some.inj equal)).1
        rw [List.filter_singleton, other, Bool.not_false, cond_true, assignAll_concat, read]
        dsimp only
        rw [ih]
        exact Function.update_comm (Ne.symm same) _ _ _

theorem set_cases (plain : Plain name) (disk : Disk) (contents : Contents) (value : List Char) :
    (∃ error, set disk contents name value = (.error error, contents)) ∨
      ∃ before after, set disk contents name value = (.ok (), after) ∧ vars contents = some before ∧
        vars after = some (Function.update before name (some value)) := by
  unfold set
  split
  · exact Or.inl ⟨_, rfl⟩
  rename_i written fits
  split
  · exact Or.inl ⟨_, rfl⟩
  rename_i read found
  obtain ⟨before, whole⟩ := fileLines_vars found
  have one : '\n' ∉ name ++ '=' :: written := by
    obtain ⟨⟨unbroken, _⟩, mark, which, rfl⟩ := quoted_eq fits
    have inName : '\n' ∉ name := fun member => absurd (plain.whitespace '\n' member) (by decide)
    rcases which with rfl | rfl
    · simp [inName, unbroken]
    · simp [inName, unbroken]
  have each : ∀ line ∈ read.filter (fun line => !assigns line name) ++ [name ++ '=' :: written],
      '\n' ∉ line := by
    intro line member
    rcases List.mem_append.mp member with kept | last
    · exact whole line (List.mem_of_mem_filter kept)
    · exact List.mem_singleton.mp last ▸ one
  rcases write_cases disk contents each with ⟨reason, failed⟩ | ⟨after, stored, kept⟩
  · exact Or.inl ⟨_, failed⟩
  · refine Or.inr ⟨_, after, stored, before, kept.trans ?_⟩
    rw [assignAll_concat, assignment_quoted plain fits, assignAll_filter plain]
    exact congrArg some (Function.update_idem _ _ _)

theorem remove_cases (plain : Plain name) (disk : Disk) (contents : Contents) :
    (∃ error, remove disk contents name = (.error error, contents)) ∨
      ∃ before after, remove disk contents name = (.ok (), after) ∧ vars contents = some before ∧
        vars after = some (Function.update before name none) := by
  unfold remove
  split
  · exact Or.inl ⟨_, rfl⟩
  rename_i read found
  obtain ⟨before, whole⟩ := fileLines_vars found
  have taken := assignAll_filter plain read
  dsimp only
  split
  · rename_i same
    refine Or.inr ⟨_, contents, rfl, before, before.trans ?_⟩
    rw [← taken, List.filter_eq_self.mpr (List.length_filter_eq_length_iff.mp same)]
  · have each : ∀ line ∈ read.filter (fun line => !assigns line name), '\n' ∉ line :=
      fun line member => whole line (List.mem_of_mem_filter member)
    rcases write_cases disk contents each with ⟨reason, failed⟩ | ⟨after, stored, kept⟩
    · exact Or.inl ⟨_, failed⟩
    · exact Or.inr ⟨_, after, stored, before, kept.trans (congrArg some taken)⟩

/-! ### The store -/

/-- The disk lets the file be read and replaced, and the file is text. -/
def Serves (disk : Disk) (contents : Contents) : Prop :=
  disk.read = none ∧ disk.createDir = none ∧ disk.writeTemp = none ∧ disk.rename = none ∧
    vars contents ≠ none

theorem fileLines_readable (readable : disk.read = none) (text : vars contents ≠ none) :
    ∃ read, fileLines disk contents = .ok read := by
  unfold fileLines
  rw [readable]
  cases contents with
  | none => exact ⟨_, rfl⟩
  | some bytes =>
    cases decoded : Utf8.fromUtf8 bytes with
    | none => exact absurd (by rw [vars, decoded]; rfl) text
    | some content => exact ⟨lines content, by dsimp only; rw [decoded]⟩

theorem write_serves (serves : Serves disk contents) (written : List (List Char)) :
    (write disk contents written).1 = .ok () := by
  obtain ⟨_, created, filled, renamed, _⟩ := serves
  simp [write, created, filled, renamed]

theorem set_refused {error : SecretError}
    (refused : set disk contents name value = (.error error, after)) :
    ('\n' ∈ value ∨ '\r' ∈ value) ∨ ('\'' ∈ value ∧ '"' ∈ value) ∨ ¬ Serves disk contents := by
  rw [← or_assoc, ← quoted_eq_none, or_iff_not_imp_left]
  intro fits serves
  obtain ⟨written, quotable⟩ := Option.ne_none_iff_exists'.mp fits
  obtain ⟨read, found⟩ := fileLines_readable serves.1 serves.2.2.2.2
  have stored := write_serves serves
    (read.filter (fun line => !assigns line name) ++ [name ++ '=' :: written])
  simp only [set, quotable, found] at refused
  rw [refused] at stored
  cases stored

theorem get_eq (readable : disk.read = none) {kept : Vars} (keeps : vars contents = some kept) :
    get disk contents name = .ok (kept name) := by
  have text : vars contents ≠ none := by
    rw [keeps]
    exact Option.some_ne_none kept
  obtain ⟨read, found⟩ := fileLines_readable readable text
  have got : get disk contents name = .ok (parseDotenv (joinLines read) name) := by
    rw [get, found]
  obtain ⟨other, keepsOther, value⟩ := get_vars got
  obtain rfl := Option.some.inj (keeps.symm.trans keepsOther)
  rw [got, value]

/-- A change that succeeds is read back, and nothing else changes. -/
theorem get_updated {before : Vars} {result : Option (List Char)}
    (keeps : vars contents = some before)
    (changed : vars after = some (Function.update before name result)) :
    (∀ reading : Disk, reading.read = none → get reading after name = .ok result) ∧
      ∀ other, other ≠ name → ∀ reading, get reading after other = get reading contents other := by
  constructor
  · intro reading readable
    rw [get_eq readable changed, Function.update_self]
  · intro other differs reading
    cases readable : reading.read with
    | none => rw [get_eq readable changed, get_eq readable keeps, Function.update_of_ne differs]
    | some reason => simp only [get, fileLines, readable]

/-- The file store is a map, whatever the file has in it: a value that is set is the value read, a
name that is removed has none, the values of other names stay, and a change that fails leaves the
file as it is. Setting fails only for a value that does not fit a line, or because of the disk. -/
theorem file_store_map (disk : Disk) (contents : Contents) (name value : List Char)
    (valid : validName name = true) :
    (∀ after, set disk contents name value = (.ok (), after) →
      (∀ reading : Disk, reading.read = none → get reading after name = .ok (some value)) ∧
        ∀ other, other ≠ name → ∀ reading,
          get reading after other = get reading contents other) ∧
    (∀ error after, set disk contents name value = (.error error, after) →
      after = contents ∧ (('\n' ∈ value ∨ '\r' ∈ value) ∨ ('\'' ∈ value ∧ '"' ∈ value) ∨
        ¬ Serves disk contents)) ∧
    (∀ after, remove disk contents name = (.ok (), after) →
      (∀ reading : Disk, reading.read = none → get reading after name = .ok none) ∧
        ∀ other, other ≠ name → ∀ reading,
          get reading after other = get reading contents other) ∧
    ∀ error after, remove disk contents name = (.error error, after) → after = contents := by
  have plain := plain_of_validName valid
  refine ⟨?_, ?_, ?_, ?_⟩
  · intro after done
    rcases set_cases plain disk contents value with
      ⟨error, failed⟩ | ⟨before, other, stored, keeps, changed⟩
    · cases failed.symm.trans done
    · obtain rfl := (Prod.mk.inj (stored.symm.trans done)).2
      exact get_updated keeps changed
  · intro error after refused
    refine ⟨?_, set_refused refused⟩
    rcases set_cases plain disk contents value with ⟨other, failed⟩ | ⟨_, other, stored, _⟩
    · exact (Prod.mk.inj (refused.symm.trans failed)).2
    · cases stored.symm.trans refused
  · intro after done
    rcases remove_cases plain disk contents with
      ⟨error, failed⟩ | ⟨before, other, stored, keeps, changed⟩
    · cases failed.symm.trans done
    · obtain rfl := (Prod.mk.inj (stored.symm.trans done)).2
      exact get_updated keeps changed
  · intro error after refused
    rcases remove_cases plain disk contents with ⟨other, failed⟩ | ⟨_, other, stored, _⟩
    · exact (Prod.mk.inj (refused.symm.trans failed)).2
    · cases stored.symm.trans refused

def quiet : Disk := ⟨none, none, none, none⟩

/-- A file that a person wrote. -/
def sampleFile : Contents := some (Utf8.encode "# mine\r\nOTHER=1 # one\n API = old\n".toList)

theorem file_store_map_sample :
    ∃ after, set quiet sampleFile "API".toList "it's".toList = (.ok (), after) ∧
      get quiet after "API".toList = .ok (some "it's".toList) ∧
      get quiet after "OTHER".toList = .ok (some "1".toList) := by
  have stored : set quiet sampleFile "API".toList "it's".toList =
      (.ok (), some (Utf8.encode "# mine\nOTHER=1 # one\nAPI=\"it's\"\n".toList)) := by
    decide +kernel
  obtain ⟨reads, others⟩ := (file_store_map quiet sampleFile "API".toList "it's".toList
    (by decide)).1 _ stored
  refine ⟨_, stored, reads quiet rfl, (others "OTHER".toList (by decide) quiet).trans ?_⟩
  decide +kernel

end Plug.SecretFile
