import Plug.Text

/-!
# Searching text

Where the search for a text finds it, what a split at a delimiter leaves, and what trimming leaves.
-/

namespace Text

variable {needle delimiter text before rest ending : List Char}

/-! ### The first occurrence -/

/-- The text is found at the first place where it occurs. -/
theorem find_eq_some_iff {place : Nat} : find needle text = some place ↔
    place ≤ text.length ∧ needle <+: text.drop place ∧
      ∀ other < place, ¬ needle <+: text.drop other := by
  induction text generalizing place with
  | nil =>
    rw [find]
    constructor
    · intro found
      split at found
      · rename_i empty
        cases found
        rw [empty]
        exact ⟨Nat.le_refl _, List.nil_prefix, fun _ less => absurd less (Nat.not_lt_zero _)⟩
      · cases found
    · rintro ⟨bound, occurs, _⟩
      rw [List.drop_nil] at occurs
      rw [if_pos (List.prefix_nil.mp occurs), Nat.le_zero.mp bound]
  | cons character others ih =>
    rw [find]
    split
    · rename_i here
      have occurs : needle <+: character :: others := List.isPrefixOf_iff_prefix.mp here
      constructor
      · intro found
        cases found
        exact ⟨Nat.zero_le _, occurs, fun _ less => absurd less (Nat.not_lt_zero _)⟩
      · rintro ⟨_, _, first⟩
        cases place with
        | zero => rfl
        | succ place => exact absurd occurs (first 0 (Nat.succ_pos place))
    · rename_i elsewhere
      have absent : ¬ needle <+: character :: others := fun occurs =>
        elsewhere (List.isPrefixOf_iff_prefix.mpr occurs)
      rw [Option.map_eq_some_iff]
      constructor
      · rintro ⟨later, found, rfl⟩
        obtain ⟨bound, occurs, first⟩ := ih.mp found
        refine ⟨Nat.succ_le_succ bound, occurs, ?_⟩
        intro other less
        cases other with
        | zero => exact absent
        | succ other => exact first other (Nat.lt_of_succ_lt_succ less)
      · rintro ⟨bound, occurs, first⟩
        cases place with
        | zero => exact absurd occurs absent
        | succ place =>
          refine ⟨place, ih.mpr ⟨Nat.le_of_succ_le_succ bound, occurs, ?_⟩, rfl⟩
          intro other less
          exact first (other + 1) (Nat.succ_lt_succ less)

theorem contains_iff_within : contains needle text = true ↔ needle <:+: text := by
  rw [contains]
  induction text with
  | nil =>
    rw [find, List.infix_nil]
    split <;> simp_all
  | cons character others ih =>
    rw [find, List.infix_cons_iff]
    split
    · rename_i here
      exact iff_of_true rfl (Or.inl (List.isPrefixOf_iff_prefix.mp here))
    · rename_i elsewhere
      rw [Option.isSome_map, ih, or_iff_right]
      exact fun occurs => elsewhere (List.isPrefixOf_iff_prefix.mpr occurs)

/-- A split is at the first delimiter. -/
theorem splitOnce_eq_some_iff : splitOnce delimiter text = some (before, rest) ↔
    text = before ++ delimiter ++ rest ∧
      ∀ other < before.length, ¬ delimiter <+: text.drop other := by
  rw [splitOnce, Option.map_eq_some_iff]
  constructor
  · rintro ⟨place, found, same⟩
    obtain ⟨bound, ⟨tail, occurs⟩, first⟩ := find_eq_some_iff.mp found
    cases same
    rw [List.length_take_of_le bound]
    refine ⟨?_, first⟩
    have after : text.drop (place + delimiter.length) = tail := by
      rw [← List.drop_drop, ← occurs, List.drop_left]
    rw [after, List.append_assoc, occurs, List.take_append_drop]
  · rintro ⟨whole, first⟩
    refine ⟨before.length, find_eq_some_iff.mpr ⟨?_, ?_, first⟩, ?_⟩
    · rw [whole, List.length_append, List.length_append]
      omega
    · rw [whole, List.append_assoc, List.drop_left]
      exact List.prefix_append _ _
    · rw [whole, Prod.mk.injEq]
      constructor
      · rw [List.append_assoc, List.take_left]
      · rw [← List.length_append, List.drop_left]

/-- What stands before a first delimiter decides the split of any text that goes on behind it. -/
theorem splitOnce_append
    (first : splitOnce delimiter (before ++ delimiter) = some (before, [])) (rest : List Char) :
    splitOnce delimiter (before ++ delimiter ++ rest) = some (before, rest) := by
  rw [splitOnce_eq_some_iff]
  refine ⟨rfl, ?_⟩
  intro other less occurs
  apply (splitOnce_eq_some_iff.mp first).2 other less
  have inside : other ≤ (before ++ delimiter).length := by
    rw [List.length_append]
    omega
  rw [List.drop_append_of_le_length inside] at occurs
  refine List.prefix_of_prefix_length_le occurs (List.prefix_append _ rest) ?_
  rw [List.length_drop, List.length_append]
  omega

variable {character : Char}

/-- A delimiter of one character that the first part does not have. -/
theorem splitOnce_character (absent : character ∉ before) (rest : List Char) :
    splitOnce [character] (before ++ character :: rest) = some (before, rest) := by
  rw [splitOnce_eq_some_iff]
  refine ⟨by rw [List.append_assoc, List.singleton_append], ?_⟩
  intro other less occurs
  rw [List.drop_append_of_le_length (by omega)] at occurs
  cases split : before.drop other with
  | nil => exact absurd (List.drop_eq_nil_iff.mp split) (by omega)
  | cons first others =>
    rw [split, List.cons_append, List.cons_prefix_cons] at occurs
    apply absent
    rw [occurs.1]
    exact List.mem_of_mem_drop (split ▸ List.mem_cons_self)

theorem stripPrefix_append (start rest : List Char) : stripPrefix start (start ++ rest) = some rest := by
  rw [stripPrefix, if_pos (List.isPrefixOf_iff_prefix.mpr (List.prefix_append start rest)),
    List.drop_left]

theorem stripPrefix_eq_some_iff {start text rest : List Char} :
    stripPrefix start text = some rest ↔ text = start ++ rest := by
  constructor
  · intro found
    rw [stripPrefix] at found
    split at found
    · rename_i begins
      obtain ⟨after, rfl⟩ := List.isPrefixOf_iff_prefix.mp begins
      rw [List.drop_left] at found
      rw [Option.some.inj found]
    · cases found
  · rintro rfl
    exact stripPrefix_append start rest

/-- A number is read from its own digits if it has 64 bits. -/
theorem parseU64_toDigits (number : Nat) : parseU64 (Nat.toDigits 10 number) =
    if number ≤ 18446744073709551615 then some number else none := by
  have digits : ∀ digit ∈ Nat.toDigits 10 number, digit.isDigit = true := fun _ member =>
    Nat.isDigit_of_mem_toDigits (by decide) (by decide) member
  have unsigned : stripPrefix ['+'] (Nat.toDigits 10 number) = none := by
    rw [stripPrefix, if_neg]
    intro signed
    obtain ⟨rest, same⟩ := List.isPrefixOf_iff_prefix.mp signed
    exact absurd (digits '+' (same ▸ List.mem_cons_self)) (by decide)
  have value : (Nat.toDigits 10 number).foldl
      (fun value character => value * 10 + (character.toNat - 48)) 0 = number := by
    have read := Nat.ofDigitChars_ten_toDigits (n := number)
    rw [Nat.ofDigitChars_eq_foldl] at read
    refine Eq.trans (congrArg (fun step => List.foldl step 0 (Nat.toDigits 10 number)) ?_) read
    funext value character
    rw [Nat.mul_comm]
    rfl
  have filled : (Nat.toDigits 10 number).isEmpty = false := by
    rw [List.isEmpty_eq_false_iff]
    exact Nat.toDigits_ne_nil
  have all : (Nat.toDigits 10 number).any (fun character => !character.isDigit) = false := by
    rw [List.any_eq_false]
    intro digit member
    simp [digits digit member]
  simp only [parseU64, unsigned, Option.getD_none, filled, all, value, Bool.or_self,
    Bool.false_eq_true, if_false]

/-! ### Ends of a text -/

theorem stripSuffix_eq_some_iff : stripSuffix ending text = some before ↔
    text = before ++ ending := by
  rw [stripSuffix]
  constructor
  · intro found
    split at found
    · rename_i ends
      cases found
      obtain ⟨start, rfl⟩ := List.isSuffixOf_iff_suffix.mp ends
      rw [List.length_append, Nat.add_sub_cancel, List.take_left]
    · cases found
  · rintro rfl
    rw [if_pos (List.isSuffixOf_iff_suffix.mpr (List.suffix_append before ending)),
      List.length_append, Nat.add_sub_cancel, List.take_left]

variable {trimmed : Char → Bool}

theorem trimEndMatches_starts (trimmed : Char → Bool) (text : List Char) :
    trimEndMatches trimmed text <+: text := by
  rw [trimEndMatches, ← List.reverse_suffix, List.reverse_reverse]
  exact List.dropWhile_suffix trimmed

/-- What is left does not end in a trimmed character. -/
theorem trimEndMatches_last (last : (trimEndMatches trimmed text).getLast? = some character) :
    trimmed character = false := by
  rw [trimEndMatches, List.getLast?_reverse] at last
  have kept := List.head?_dropWhile_not trimmed text.reverse
  rw [last] at kept
  exact kept

/-- A text that ends in a character that is kept stays whole. -/
theorem trimEndMatches_of_last (last : text.getLast? = some character)
    (kept : trimmed character = false) : trimEndMatches trimmed text = text := by
  rw [trimEndMatches]
  cases reversed : text.reverse with
  | nil =>
    rw [List.reverse_eq_nil_iff.mp reversed] at last
    cases last
  | cons first others =>
    have same : first = character := by
      rw [← List.head?_reverse, reversed] at last
      exact Option.some.inj last
    rw [same, List.dropWhile_cons_of_neg (by rw [kept]; exact Bool.false_ne_true), ← same,
      ← reversed, List.reverse_reverse]

/-- Each character is the separator or in one of the parts. -/
theorem mem_splitOn {separator : Char} {text : List Char} (member : character ∈ text) :
    character = separator ∨ ∃ part ∈ text.splitOn separator, character ∈ part := by
  induction text with
  | nil => cases member
  | cons first rest ih =>
    rw [List.splitOn, List.splitOnP_cons_eq_if_modifyHead, ← List.splitOn]
    obtain ⟨head, others, parts⟩ := List.exists_cons_of_ne_nil (List.splitOn_ne_nil separator rest)
    rw [parts] at ih ⊢
    by_cases same : first = separator
    · rw [if_pos (beq_iff_eq.mpr same)]
      rcases List.mem_cons.mp member with rfl | later
      · exact .inl same
      · exact (ih later).imp_right fun ⟨part, among, inside⟩ =>
          ⟨part, List.mem_cons_of_mem _ among, inside⟩
    · rw [if_neg (by simpa using same), List.modifyHead_cons]
      rcases List.mem_cons.mp member with rfl | later
      · exact .inr ⟨_, List.mem_cons_self, List.mem_cons_self⟩
      · refine (ih later).imp_right fun ⟨part, among, inside⟩ => ?_
        rcases List.mem_cons.mp among with rfl | other
        · exact ⟨_, List.mem_cons_self, List.mem_cons_of_mem _ inside⟩
        · exact ⟨part, List.mem_cons_of_mem _ other, inside⟩

/-- The separator is in none of the parts. -/
theorem splitOn_plain {separator : Char} {text word : List Char}
    (member : word ∈ text.splitOn separator) : separator ∉ word := by
  induction text generalizing word with
  | nil =>
    rw [List.splitOn_nil, List.mem_singleton] at member
    rw [member]
    exact List.not_mem_nil
  | cons character rest ih =>
    rw [List.splitOn_cons_eq_if_modifyHead] at member
    split at member
    · cases List.mem_cons.mp member with
      | inl empty =>
        rw [empty]
        exact List.not_mem_nil
      | inr later => exact ih later
    · rename_i other
      cases split : rest.splitOn separator with
      | nil => exact absurd split (List.splitOn_ne_nil _ _)
      | cons first words =>
        rw [split, List.modifyHead_cons] at member
        cases List.mem_cons.mp member with
        | inl same =>
          have plain : separator ∉ first :=
            ih (by rw [split]; exact List.mem_cons_self)
          rw [same, List.mem_cons, not_or]
          exact ⟨fun equal => other (by simp [equal]), plain⟩
        | inr later =>
          exact ih (by rw [split]; exact List.mem_cons_of_mem _ later)

theorem isAlphanum_code (plain : character.isAlphanum = true) :
    (48 ≤ character.toNat ∧ character.toNat ≤ 57) ∨
      (65 ≤ character.toNat ∧ character.toNat ≤ 90) ∨
      (97 ≤ character.toNat ∧ character.toNat ≤ 122) := by
  delta Char.isAlphanum Char.isAlpha Char.isUpper Char.isLower Char.isDigit at plain
  simp only [Bool.or_eq_true, Bool.and_eq_true, decide_eq_true_eq] at plain
  rcases plain with ((⟨low, high⟩ | ⟨low, high⟩) | ⟨low, high⟩)
  · exact .inr (.inl ⟨low, high⟩)
  · exact .inr (.inr ⟨low, high⟩)
  · exact .inl ⟨low, high⟩

/-- A visible character of the first hundred and twenty-eight is no white space. -/
theorem isWhitespace_visible (low : 33 ≤ character.toNat) (high : character.toNat ≤ 126) :
    isWhitespace character = false := by
  unfold isWhitespace
  simp only [Bool.or_eq_false_iff, Bool.and_eq_false_iff, decide_eq_false_iff_not,
    beq_eq_false_iff_ne]
  omega

/-- Only a small letter is the lower case of another character. -/
theorem of_toLower {sign : Char} (other : sign.isLower = false) (folds : character.toLower = sign) :
    character = sign := by
  delta Char.toLower at folds
  split at folds
  · rename_i upper
    subst folds
    delta Char.isLower at other
    simp at upper other
    grind
  · exact folds

theorem toLower_plain (plain : character.isUpper = false) : character.toLower = character := by
  delta Char.isUpper at plain
  delta Char.toLower
  rw [dif_neg]
  simpa using plain

theorem toAsciiLowercase_plain {text : List Char}
    (plain : ∀ character ∈ text, character.isUpper = false) : toAsciiLowercase text = text :=
  (List.map_congr_left fun character member => toLower_plain (plain character member)).trans
    (List.map_id' text)

end Text
