import Plug.ServerNames

/-!
# Names in snake case

A tool's name in snake case has no underscore at an end and none beside another. In it the capitals
of ASCII are small letters, while other capitals stay as they are. So a capital that stays may stand
behind a letter that was made small, where it starts a word, if the name is brought into snake case
once more.
-/

namespace Plug.Catalog

open Text

/-- What the standard library says of the characters of ASCII, and that none is in both cases. -/
structure Casing.Lawful (casing : Casing) : Prop where
  upper : ∀ character : Char, character.toNat < 128 →
    casing.isUppercase character = character.isUpper
  lower : ∀ character : Char, character.toNat < 128 →
    casing.isLowercase character = character.isLower
  apart : ∀ character, casing.isUppercase character = true → casing.isLowercase character = false

/-- No underscore at an end, and none beside another. -/
structure Tidy (name : List Char) : Prop where
  front : StartsPlain name
  last : name.getLast? ≠ some '_'
  single : Single name

/-- Neither hyphens and dots nor capitals of ASCII. -/
def Folded (text : List Char) : Prop :=
  ∀ character ∈ text, character ≠ '-' ∧ character ≠ '.' ∧ character.isUpper = false

section Passes

variable (casing : Casing)

/-- The text starts with a capital of ASCII, with no small letter behind it. -/
def foldsNext : List Char → Bool
  | [] => false
  | next :: rest => next.isUpper && !rest.head?.any casing.isLowercase

/-- A capital that stays as it is starts no word, but would if the capitals of ASCII beside it were
small: it is behind one, with no small letter following, or it is behind another capital and before
one. -/
def splitsAt (previous character : Char) (rest : List Char) : Bool :=
  casing.isUppercase character && !character.isUpper &&
    (previous.isUpper && !rest.head?.any casing.isLowercase ||
      casing.isUppercase previous && foldsNext casing rest)

def splitsAgain : Option Char → List Char → Bool
  | _, [] => false
  | previous, character :: rest =>
    previous.any (fun previous => splitsAt casing previous character rest) ||
      splitsAgain (some character) rest

/-- Some capital starts a word. -/
def startsWords : Option Char → List Char → Bool
  | _, [] => false
  | previous, character :: rest =>
    casing.isUppercase character && startsWord casing previous rest ||
      startsWords (some character) rest

/-- What is written for a character. -/
def written (character : Char) : Char :=
  if character = '-' ∨ character = '.' then '_'
  else if casing.isUppercase character then character.toLower else character

end Passes

variable {casing : Casing}

/-! ### The classes of characters -/

variable {character : Char}

theorem isUpper_code (upper : character.isUpper = true) :
    65 ≤ character.toNat ∧ character.toNat ≤ 90 := by
  delta Char.isUpper at upper
  exact of_decide_eq_true upper

theorem isLower_code (lower : character.isLower = true) :
    97 ≤ character.toNat ∧ character.toNat ≤ 122 := by
  delta Char.isLower at lower
  simp only [Bool.and_eq_true, decide_eq_true_eq] at lower
  exact lower

theorem isLower_toLower (upper : character.isUpper = true) : character.toLower.isLower = true := by
  have folded : character.toLower ≠ character := by
    intro same
    delta Char.isUpper at upper
    delta Char.toLower at same
    simp only [decide_eq_true_eq] at upper
    rw [dif_pos upper] at same
    have code := congrArg Char.val same
    grind
  by_contra other
  exact folded (of_toLower (Bool.eq_false_iff.mpr other) rfl).symm

theorem isUpper_eq_false_of_isLower (lower : character.isLower = true) :
    character.isUpper = false := by
  have code := isLower_code lower
  by_contra upper
  have other := isUpper_code (Bool.not_eq_false _ ▸ upper)
  omega

namespace Casing.Lawful

variable (lawful : casing.Lawful)

include lawful

theorem isUppercase_of_isUpper (upper : character.isUpper = true) :
    casing.isUppercase character = true := by
  have code := isUpper_code upper
  rw [lawful.upper character (by omega), upper]

theorem isLowercase_toLower (upper : character.isUpper = true) :
    casing.isLowercase character.toLower = true := by
  have small := isLower_toLower upper
  have code := isLower_code small
  rw [lawful.lower _ (by omega), small]

theorem isUppercase_toLower (upper : character.isUpper = true) :
    casing.isUppercase character.toLower = false := by
  have small := isLower_toLower upper
  have code := isLower_code small
  rw [lawful.upper _ (by omega), isUpper_eq_false_of_isLower small]

theorem isDigit_eq_false (upper : casing.isUppercase character = true) :
    character.isDigit = false := by
  by_contra digit
  rw [Bool.not_eq_false] at digit
  have plain : character.isAlphanum = true := by
    simp [Char.isAlphanum, digit]
  have code := isAlphanum_code plain
  rw [lawful.upper character (by omega)] at upper
  delta Char.isDigit at digit
  delta Char.isUpper at upper
  simp only [Bool.and_eq_true, decide_eq_true_eq] at digit upper
  grind

/-- An underscore, a hyphen and a dot are in neither case and start no word. -/
theorem isUppercase_separator (separator : character = '-' ∨ character = '.' ∨ character = '_') :
    casing.isUppercase character = false := by
  rcases separator with rfl | rfl | rfl
  · exact lawful.upper '-' (by decide)
  · exact lawful.upper '.' (by decide)
  · exact lawful.upper '_' (by decide)

theorem isLowercase_separator (separator : character = '-' ∨ character = '.' ∨ character = '_') :
    casing.isLowercase character = false := by
  rcases separator with rfl | rfl | rfl
  · exact lawful.lower '-' (by decide)
  · exact lawful.lower '.' (by decide)
  · exact lawful.lower '_' (by decide)

theorem startsWord_underscore (rest : List Char) :
    startsWord casing (some '_') rest = false := by
  rw [startsWord, lawful.isLowercase_separator (Or.inr (Or.inr rfl)),
    lawful.isUppercase_separator (Or.inr (Or.inr rfl))]
  rfl

end Casing.Lawful

/-! ### The second pass -/

/-- Whether a word starts depends on the next character alone, and on whether that is a small
letter. -/
theorem startsWord_congr {rest other : List Char}
    (same : rest.head?.any casing.isLowercase = other.head?.any casing.isLowercase)
    (previous : Option Char) :
    startsWord casing previous rest = startsWord casing previous other := by
  cases previous with
  | none => rfl
  | some character => rw [startsWord, startsWord, same]

theorem collapse_head (rest : List Char) : (collapse false rest).head? = rest.head? := by
  cases rest with
  | nil => rfl
  | cons character rest =>
    rw [collapse]
    split
    · rename_i same
      rw [same]
      rfl
    · rfl

theorem collapse_eq {flag : Bool} {text : List Char} (single : Single text)
    (front : flag = true → StartsPlain text) : collapse flag text = text := by
  induction text generalizing flag with
  | nil => rfl
  | cons character rest ih =>
    obtain ⟨beside, later⟩ := List.isChain_cons.mp single
    rw [collapse]
    split
    · rename_i same
      have plain : StartsPlain rest := fun again => beside '_' again ⟨same, rfl⟩
      cases flag with
      | true => exact absurd (congrArg some same) (front rfl)
      | false =>
        rw [ih later fun _ => plain, same]
        rfl
    · rw [@ih false later fun never => absurd never Bool.false_ne_true]

theorem sanitized_last (casing : Casing) (name : List Char) :
    (sanitizeToolName casing name).getLast? ≠ some '_' := by
  have single := collapse_single true (separateWords casing none name)
  rw [sanitizeToolName]
  split
  · rename_i last
    obtain ⟨front, whole⟩ := List.getLast?_eq_some_iff.mp last
    rw [whole] at single ⊢
    rw [List.dropLast_concat]
    intro again
    obtain ⟨start, rfl⟩ := List.getLast?_eq_some_iff.mp again
    rw [List.append_assoc] at single
    have both : Single (['_'] ++ ['_']) := List.IsChain.right_of_append single
    exact (List.isChain_cons.mp both).1 '_' rfl ⟨rfl, rfl⟩
  · assumption

theorem sanitized_tidy (casing : Casing) (name : List Char) :
    Tidy (sanitizeToolName casing name) :=
  ⟨sanitized_front casing name, sanitized_last casing name, sanitized_single casing name⟩

theorem Tidy.sanitize_eq {name words : List Char} (tidy : Tidy words)
    (same : separateWords casing none name = words) : sanitizeToolName casing name = words := by
  have whole := collapse_eq tidy.single fun (_ : true = true) => tidy.front
  rw [sanitizeToolName, same, whole, if_neg tidy.last]

theorem written_plain (word : ¬ (character = '-' ∨ character = '.'))
    (plain : character.isUpper = false) : written casing character = character := by
  rw [written, if_neg word, toLower_plain plain, ite_self]

section Second

variable (lawful : casing.Lawful)

include lawful

theorem separateWords_cons (previous : Option Char) (character : Char) (rest : List Char) :
    separateWords casing previous (character :: rest) =
      (if casing.isUppercase character && startsWord casing previous rest then ['_'] else []) ++
        written casing character :: separateWords casing (some character) rest := by
  rw [separateWords, written]
  by_cases separator : character = '-' ∨ character = '.'
  · have plain := lawful.isUppercase_separator (separator.imp_right Or.inl)
    rw [if_pos separator, if_pos separator, plain]
    rfl
  · rw [if_neg separator, if_neg separator]
    by_cases upper : casing.isUppercase character = true
    · rw [if_pos upper, if_pos upper, upper, Bool.true_and]
    · rw [if_neg upper, if_neg upper, Bool.eq_false_iff.mpr upper]
      rfl

theorem written_folded (character : Char) : written casing character ≠ '-' ∧
    written casing character ≠ '.' ∧ (written casing character).isUpper = false := by
  unfold written
  by_cases separator : character = '-' ∨ character = '.'
  · rw [if_pos separator]
    decide
  · rw [if_neg separator]
    have apart := not_or.mp separator
    by_cases capital : character.isUpper = true
    · have small := isLower_toLower capital
      rw [if_pos (lawful.isUppercase_of_isUpper capital)]
      refine ⟨?_, ?_, isUpper_eq_false_of_isLower small⟩
      · intro same
        rw [same] at small
        cases small
      · intro same
        rw [same] at small
        cases small
    · have plain := Bool.eq_false_iff.mpr capital
      rw [toLower_plain plain, ite_self]
      exact ⟨apart.1, apart.2, plain⟩

theorem separateWords_folded (previous : Option Char) (name : List Char) :
    Folded (separateWords casing previous name) := by
  induction name generalizing previous with
  | nil => exact fun character member => absurd member List.not_mem_nil
  | cons first rest ih =>
    intro character member
    rw [separateWords_cons lawful] at member
    rcases List.mem_append.mp member with underscore | later
    · split at underscore
      · rw [List.mem_singleton.mp underscore]
        decide
      · exact absurd underscore List.not_mem_nil
    · rcases List.mem_cons.mp later with rfl | behind
      · exact written_folded lawful first
      · exact ih (some first) character behind

theorem sanitized_folded (name : List Char) : Folded (sanitizeToolName casing name) :=
  fun character member => separateWords_folded lawful none name character
    (collapse_subset true _ ((sanitized_starts casing name).subset member))

variable {text : List Char}

theorem Folded.separateWords_cons (folded : Folded (character :: text)) (previous : Option Char) :
    separateWords casing previous (character :: text) =
      (if casing.isUppercase character && startsWord casing previous text then ['_'] else []) ++
        character :: separateWords casing (some character) text := by
  obtain ⟨hyphen, dot, plain⟩ := folded character List.mem_cons_self
  rw [Catalog.separateWords_cons lawful, written_plain (not_or.mpr ⟨hyphen, dot⟩) plain]

/-- Only where a word starts something is put in. -/
theorem separateWords_eq_iff (folded : Folded text) (previous : Option Char) :
    separateWords casing previous text = text ↔ startsWords casing previous text = false := by
  have grows : ∀ (text : List Char) (previous : Option Char),
      Folded text → text.length ≤ (separateWords casing previous text).length := by
    intro text
    induction text with
    | nil => exact fun _ _ => Nat.le_refl 0
    | cons character rest ih =>
      intro previous folded
      have later := ih (some character) fun other member =>
        folded other (List.mem_cons_of_mem _ member)
      rw [folded.separateWords_cons lawful, List.length_append, List.length_cons, List.length_cons]
      omega
  induction text generalizing previous with
  | nil => exact iff_of_true rfl rfl
  | cons character rest ih =>
    have behind : Folded rest := fun other member => folded other (List.mem_cons_of_mem _ member)
    rw [folded.separateWords_cons lawful, startsWords, Bool.or_eq_false_iff]
    by_cases starts : (casing.isUppercase character && startsWord casing previous rest) = true
    · rw [if_pos starts, starts]
      refine iff_of_false ?_ fun quiet => absurd quiet.1 (by decide)
      intro same
      have length := congrArg List.length same
      have later := grows rest (some character) behind
      simp only [List.length_append, List.length_cons, List.length_nil] at length
      omega
    · rw [if_neg starts, Bool.eq_false_iff.mpr starts, List.nil_append, List.cons_inj_right]
      exact (ih behind (some character)).trans (and_iff_right rfl).symm

theorem separateWords_single (folded : Folded text) {previous : Char}
    (single : Single (previous :: text)) :
    Single (previous :: separateWords casing (some previous) text) := by
  induction text generalizing previous with
  | nil => exact single
  | cons character rest ih =>
    obtain ⟨beside, later⟩ := List.isChain_cons.mp single
    have behind := ih
      (fun other member => folded other (List.mem_cons_of_mem _ member)) later
    rw [folded.separateWords_cons lawful]
    split
    · rename_i starts
      rw [Bool.and_eq_true] at starts
      have plain : character ≠ '_' := by
        rintro rfl
        rw [lawful.isUppercase_separator (Or.inr (Or.inr rfl))] at starts
        cases starts.1
      have other : previous ≠ '_' := by
        rintro rfl
        rw [lawful.startsWord_underscore] at starts
        cases starts.2
      refine List.isChain_cons.mpr ⟨fun next _ both => other both.1, ?_⟩
      refine List.isChain_cons.mpr ⟨?_, behind⟩
      rintro next front ⟨_, rfl⟩
      exact plain (Option.some.inj front)
    · exact List.isChain_cons.mpr ⟨fun next front => beside next front, behind⟩

theorem separateWords_last (folded : Folded text) (previous : Option Char) :
    (separateWords casing previous text).getLast? = text.getLast? := by
  induction text generalizing previous with
  | nil => rfl
  | cons character rest ih =>
    have behind := ih
      (fun other member => folded other (List.mem_cons_of_mem _ member)) (some character)
    rw [folded.separateWords_cons lawful, List.getLast?_append, List.getLast?_cons, behind,
      List.getLast?_cons]
    rfl

theorem Tidy.separateWords (tidy : Tidy text) (folded : Folded text) :
    Tidy (separateWords casing none text) := by
  cases text with
  | nil => exact tidy
  | cons character rest =>
    have behind : Folded rest := fun other member => folded other (List.mem_cons_of_mem _ member)
    have whole : Catalog.separateWords casing none (character :: rest) =
        character :: Catalog.separateWords casing (some character) rest := by
      rw [folded.separateWords_cons lawful, startsWord, Bool.and_false]
      rfl
    have last := separateWords_last lawful folded none
    constructor
    · rw [whole]
      exact tidy.front
    · rw [last]
      exact tidy.last
    · rw [whole]
      exact separateWords_single lawful behind tidy.single

/-- A tidy name without capitals of ASCII is left as it is if no word starts in it. -/
theorem Tidy.sanitize_eq_iff (tidy : Tidy text) (folded : Folded text) :
    sanitizeToolName casing text = text ↔ startsWords casing none text = false := by
  rw [(tidy.separateWords lawful folded).sanitize_eq rfl, separateWords_eq_iff lawful folded]

/-! ### What the first pass leaves -/

theorem startsWords_concat_underscore (previous : Option Char) (text : List Char) :
    startsWords casing previous (text ++ ['_']) = startsWords casing previous text := by
  have plain : casing.isUppercase '_' = false :=
    lawful.isUppercase_separator (Or.inr (Or.inr rfl))
  have small : casing.isLowercase '_' = false :=
    lawful.isLowercase_separator (Or.inr (Or.inr rfl))
  induction text generalizing previous with
  | nil => simp [startsWords, plain]
  | cons character rest ih =>
    have next : (rest ++ ['_']).head?.any casing.isLowercase =
        rest.head?.any casing.isLowercase := by
      cases rest with
      | nil => exact small
      | cons first rest => rfl
    rw [List.cons_append, startsWords, startsWords, ih, startsWord_congr next]

/-- Underscores that are left out start no word and keep none from starting. -/
theorem startsWords_collapse {previous other : Option Char} {flag : Bool} {text : List Char}
    (alike : ∀ rest, startsWord casing previous rest = startsWord casing other rest)
    (behind : flag = true → ∀ rest, startsWord casing previous rest = false) :
    startsWords casing previous (collapse flag text) = startsWords casing other text := by
  have plain : casing.isUppercase '_' = false :=
    lawful.isUppercase_separator (Or.inr (Or.inr rfl))
  induction text generalizing previous other flag with
  | nil => rfl
  | cons character rest ih =>
    rw [collapse]
    by_cases separator : character = '_'
    · rw [if_pos separator, separator, startsWords, plain, Bool.false_and, Bool.false_or]
      cases flag with
      | true =>
        refine ih (fun rest => ?_) behind
        rw [behind rfl, lawful.startsWord_underscore]
      | false =>
        rw [if_neg Bool.false_ne_true, startsWords, plain, Bool.false_and, Bool.false_or]
        exact ih (fun rest => rfl) fun _ => lawful.startsWord_underscore
    · have next : (collapse false rest).head?.any casing.isLowercase =
          rest.head?.any casing.isLowercase := by
        rw [collapse_head]
      rw [if_neg separator, startsWords, startsWords, startsWord_congr next, alike,
        @ih (some character) (some character) false (fun rest => rfl)
          fun never => absurd never Bool.false_ne_true]

theorem startsWords_sanitized (name : List Char) :
    startsWords casing none (sanitizeToolName casing name) =
      startsWords casing none (separateWords casing none name) := by
  have whole : startsWords casing none (collapse true (separateWords casing none name)) =
      startsWords casing none (separateWords casing none name) :=
    startsWords_collapse lawful (fun rest => rfl) fun _ rest => rfl
  rw [sanitizeToolName]
  split
  · rename_i last
    obtain ⟨front, ends⟩ := List.getLast?_eq_some_iff.mp last
    rw [ends] at whole ⊢
    rw [List.dropLast_concat, ← whole, startsWords_concat_underscore lawful]
  · exact whole

theorem written_capital (capital : character.isUpper = true) :
    written casing character = character.toLower := by
  have upper := lawful.isUppercase_of_isUpper capital
  rw [written, if_neg, if_pos upper]
  intro separator
  rw [lawful.isUppercase_separator (separator.imp_right Or.inl)] at upper
  cases upper

/-- Behind a capital a word starts where a small letter follows. -/
theorem startsWord_capital {previous : Char} (upper : casing.isUppercase previous = true)
    (rest : List Char) :
    startsWord casing (some previous) rest = rest.head?.any casing.isLowercase := by
  rw [startsWord, lawful.apart previous upper, lawful.isDigit_eq_false upper, upper]
  simp

theorem foldsNext_eq_false {rest : List Char}
    (small : rest.head?.any casing.isLowercase = true) : foldsNext casing rest = false := by
  cases rest with
  | nil => rfl
  | cons next rest =>
    have lower : casing.isLowercase next = true := small
    have plain : next.isUpper = false := by
      by_contra capital
      have upper := lawful.isUppercase_of_isUpper (Bool.not_eq_false _ ▸ capital)
      rw [lawful.apart next upper] at lower
      cases lower
    rw [foldsNext, plain, Bool.false_and]

/-- Behind a capital that starts no word there is a small letter in the result where that was made
of a capital. -/
theorem next_isLowercase (upper : casing.isUppercase character = true) {rest : List Char}
    (other : rest.head?.any casing.isLowercase = false) :
    (separateWords casing (some character) rest).head?.any casing.isLowercase =
      foldsNext casing rest := by
  have small : casing.isLowercase '_' = false :=
    lawful.isLowercase_separator (Or.inr (Or.inr rfl))
  cases rest with
  | nil => rfl
  | cons next rest =>
    rw [separateWords_cons lawful, startsWord_capital lawful upper, foldsNext]
    by_cases capital : next.isUpper = true
    · rw [lawful.isUppercase_of_isUpper capital, capital, written_capital lawful capital]
      cases rest.head?.any casing.isLowercase with
      | true => exact small
      | false => exact lawful.isLowercase_toLower capital
    · have stays := Bool.eq_false_iff.mpr capital
      rw [stays, Bool.false_and]
      split
      · exact small
      · by_cases separator : next = '-' ∨ next = '.'
        · rw [written, if_pos separator]
          exact small
        · rw [written_plain separator stays]
          exact other

/-- What stands in front of a capital that stays decides with what follows. -/
theorem splits_behind (upper : casing.isUppercase character = true) (previous : Char)
    (rest : List Char) :
    (if startsWord casing (some previous) rest then false
      else startsWord casing (some (written casing previous))
        (separateWords casing (some character) rest)) =
      (previous.isUpper && !rest.head?.any casing.isLowercase ||
        casing.isUppercase previous && foldsNext casing rest) := by
  by_cases large : casing.isUppercase previous = true
  · rw [startsWord_capital lawful large, large, Bool.true_and]
    cases following : rest.head?.any casing.isLowercase with
    | true =>
      rw [foldsNext_eq_false lawful following]
      simp
    | false =>
      rw [if_neg Bool.false_ne_true]
      by_cases capital : previous.isUpper = true
      · rw [written_capital lawful capital, capital, startsWord, lawful.isLowercase_toLower capital]
        rfl
      · have stays := Bool.eq_false_iff.mpr capital
        have word : ¬ (previous = '-' ∨ previous = '.') := by
          intro separator
          rw [lawful.isUppercase_separator (separator.imp_right Or.inl)] at large
          cases large
        rw [written_plain word stays, startsWord_capital lawful large,
          next_isLowercase lawful upper following, stays]
        rfl
  · have other := Bool.eq_false_iff.mpr large
    have plain : previous.isUpper = false := by
      by_contra capital
      rw [Bool.not_eq_false] at capital
      exact large (lawful.isUppercase_of_isUpper capital)
    have same : ∀ text, startsWord casing (some previous) text =
        (casing.isLowercase previous || previous.isDigit) := by
      intro text
      rw [startsWord, other, Bool.false_and, Bool.or_false]
    rw [plain, other, same]
    split
    · rfl
    · rename_i starts
      by_cases separator : previous = '-' ∨ previous = '.'
      · rw [written, if_pos separator, lawful.startsWord_underscore]
        rfl
      · rw [written_plain separator plain, same, Bool.eq_false_iff.mpr starts]
        rfl

/-- A capital starts a word in the second pass alone where `splitsAt` has it. -/
theorem splitsAt_eq (previous character : Char) (rest : List Char) :
    (if casing.isUppercase character && startsWord casing (some previous) rest then false
      else casing.isUppercase (written casing character) &&
        startsWord casing (some (written casing previous))
          (separateWords casing (some character) rest)) =
      splitsAt casing previous character rest := by
  unfold splitsAt
  by_cases upper : casing.isUppercase character = true
  · by_cases capital : character.isUpper = true
    · rw [written_capital lawful capital, lawful.isUppercase_toLower capital, capital]
      simp
    · have word : ¬ (character = '-' ∨ character = '.') := by
        intro separator
        rw [lawful.isUppercase_separator (separator.imp_right Or.inl)] at upper
        cases upper
      have stays := Bool.eq_false_iff.mpr capital
      rw [written_plain word stays, upper, stays, Bool.true_and, Bool.true_and, Bool.not_false,
        Bool.true_and]
      exact splits_behind lawful upper previous rest
  · have other := Bool.eq_false_iff.mpr upper
    have still : casing.isUppercase (written casing character) = false := by
      unfold written
      split
      · exact lawful.isUppercase_separator (Or.inr (Or.inr rfl))
      · exact other
    rw [still, other]
    rfl

theorem startsWords_separateWords (previous : Option Char) (name : List Char) :
    startsWords casing (previous.map (written casing)) (separateWords casing previous name) =
      splitsAgain casing previous name := by
  have plain : casing.isUppercase '_' = false :=
    lawful.isUppercase_separator (Or.inr (Or.inr rfl))
  induction name generalizing previous with
  | nil => rfl
  | cons character rest ih =>
    have behind := ih (some character)
    rw [Option.map_some] at behind
    rw [separateWords_cons lawful, splitsAgain]
    cases previous with
    | none =>
      rw [startsWord, Bool.and_false, if_neg Bool.false_ne_true, List.nil_append, startsWords,
        Option.map_none, startsWord, Bool.and_false, behind]
      rfl
    | some previous =>
      rw [Option.map_some, Option.any_some, ← splitsAt_eq lawful, ← behind]
      split
      · rw [List.singleton_append, startsWords, plain, startsWords, lawful.startsWord_underscore]
        simp
      · rw [List.nil_append, startsWords]

theorem startsWords_twice (name : List Char) :
    startsWords casing none (sanitizeToolName casing name) = splitsAgain casing none name := by
  rw [startsWords_sanitized lawful]
  exact startsWords_separateWords lawful none name

end Second

/-- A name in snake case is tidy, and is left as it is by a second pass if and only if no capital
that stays starts a word behind letters that were made small. -/
theorem sanitized_again_iff (lawful : casing.Lawful) (name : List Char) :
    (Tidy (sanitizeToolName casing name) ∧
      contains ['_', '_'] (sanitizeToolName casing name) = false) ∧
    (sanitizeToolName casing (sanitizeToolName casing name) = sanitizeToolName casing name ↔
      splitsAgain casing none name = false) := by
  have tidy := sanitized_tidy casing name
  refine ⟨⟨tidy, ?_⟩, ?_⟩
  · by_contra inside
    obtain ⟨front, rest, whole⟩ := contains_iff_within.mp (Bool.not_eq_false _ ▸ inside)
    have single := tidy.single
    rw [← whole, List.append_assoc] at single
    have both : Single ('_' :: '_' :: rest) := List.IsChain.right_of_append single
    exact (List.isChain_cons.mp both).1 '_' rfl ⟨rfl, rfl⟩
  · rw [tidy.sanitize_eq_iff lawful (sanitized_folded lawful name), startsWords_twice lawful]

/-- The classes of the characters up to 255. -/
def latinCasing : Casing where
  isUppercase character :=
    character.isUpper || decide (192 ≤ character.toNat ∧ character.toNat ≤ 222 ∧
      character.toNat ≠ 215)
  isLowercase character :=
    character.isLower || decide (character.toNat = 170 ∨ character.toNat = 181 ∨
      character.toNat = 186 ∨
      223 ≤ character.toNat ∧ character.toNat ≤ 255 ∧ character.toNat ≠ 247)
  toUppercase character := [character.toUpper]

theorem latinCasing_lawful : latinCasing.Lawful where
  upper character ascii := by
    have low : ¬ (192 ≤ character.toNat ∧ character.toNat ≤ 222 ∧ character.toNat ≠ 215) := by
      omega
    simp [latinCasing, low]
  lower character ascii := by
    have low : ¬ (character.toNat = 170 ∨ character.toNat = 181 ∨ character.toNat = 186 ∨
        223 ≤ character.toNat ∧ character.toNat ≤ 255 ∧ character.toNat ≠ 247) := by
      omega
    simp [latinCasing, low]
  apart character upper := by
    dsimp only [latinCasing] at upper ⊢
    rw [Bool.or_eq_true, decide_eq_true_eq] at upper
    rw [Bool.or_eq_false_iff, decide_eq_false_iff_not]
    have codes : character.isUpper = true ∧ character.toNat ≤ 90 ∨ 192 ≤ character.toNat ∧
        character.toNat ≤ 222 := by
      rcases upper with capital | ⟨above, below, _⟩
      · have code := isUpper_code capital
        exact Or.inl ⟨capital, code.2⟩
      · exact Or.inr ⟨above, below⟩
    refine ⟨?_, by omega⟩
    by_contra small
    have code := isLower_code (Bool.not_eq_false _ ▸ small)
    rcases codes with ⟨_, below⟩ | ⟨above, _⟩
    · omega
    · omega

theorem sanitized_again_export :
    sanitizeToolName latinCasing (sanitizeToolName latinCasing "DataÉxport-v2".toList) =
      sanitizeToolName latinCasing "DataÉxport-v2".toList :=
  (sanitized_again_iff latinCasing_lawful "DataÉxport-v2".toList).2.mpr (by decide)

theorem capital_split_again :
    ¬ ∀ name, sanitizeToolName latinCasing (sanitizeToolName latinCasing name) =
      sanitizeToolName latinCasing name := by
  intro always
  have again := always "AÉ".toList
  revert again
  decide

end Plug.Catalog
