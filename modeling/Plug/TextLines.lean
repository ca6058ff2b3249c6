import Mathlib.Data.List.TakeWhile
import Plug.TextSearch

/-!
# Lines of a text

A text is read line by line and lines are joined again. Joining forgets which line ends there were
and whether the last line had one, so that an empty last line is not found again.
-/

namespace Text

/-- `str::strip_suffix` for the carriage return before a line's end. -/
def withoutReturn (line : List Char) : List Char :=
  (stripSuffix ['\r'] line).getD line

/-- `str::lines`. -/
def lines (text : List Char) : List (List Char) :=
  let pieces := text.splitOn '\n'
  pieces.dropLast.map withoutReturn ++ pieces.getLast?.toList.filter (· ≠ [])

/-- The lines with a line break between each two. -/
def joinLines (lines : List (List Char)) : List Char := ['\n'].intercalate lines

example : lines "a\r\n\nb".toList = ["a".toList, [], "b".toList] := by decide

/-- A line that stays one when it is written and read again. -/
def Whole (line : List Char) : Prop := '\n' ∉ line ∧ '\r' ∉ line

instance : DecidablePred Whole := fun line =>
  inferInstanceAs (Decidable ('\n' ∉ line ∧ '\r' ∉ line))

theorem withoutReturn_whole {line : List Char} (whole : Whole line) : withoutReturn line = line := by
  unfold withoutReturn
  cases stripped : stripSuffix ['\r'] line with
  | none => rfl
  | some front =>
    rw [stripSuffix_eq_some_iff] at stripped
    refine absurd ?_ whole.2
    rw [stripped]
    exact List.mem_append_right front (List.mem_singleton_self '\r')

variable {written : List (List Char)} {trimmed : Char → Bool} {text : List Char}

/-- Lines that are joined are the parts of the text. -/
theorem splitOn_joinLines (plain : ∀ line ∈ written, '\n' ∉ line) (filled : written ≠ []) :
    (joinLines written).splitOn '\n' = written :=
  List.splitOn_intercalate '\n' plain filled

/-- Lines that are joined are found again, but for an empty last one. -/
theorem lines_joinLines (whole : ∀ line ∈ written, Whole line) :
    lines (joinLines written) =
      if written.getLast? = some [] then written.dropLast else written := by
  cases written with
  | nil => rfl
  | cons first rest =>
    have pieces := splitOn_joinLines (fun line member => (whole line member).1)
      (List.cons_ne_nil first rest)
    have others : (first :: rest).dropLast.map withoutReturn = (first :: rest).dropLast := by
      have each : ∀ line ∈ (first :: rest).dropLast, withoutReturn line = id line :=
        fun line member => withoutReturn_whole (whole line (List.dropLast_subset _ member))
      rw [List.map_congr_left each, List.map_id]
    rw [lines]
    simp only [pieces]
    rw [others]
    rw [List.getLast?_eq_some_getLast (List.cons_ne_nil first rest)]
    by_cases empty : (first :: rest).getLast (List.cons_ne_nil first rest) = []
    · simp [empty]
    · have parts := List.dropLast_concat_getLast (List.cons_ne_nil first rest)
      simp [empty, parts]

theorem joinLines_cons {first : List Char} {rest : List (List Char)} (filled : rest ≠ []) :
    joinLines (first :: rest) = first ++ '\n' :: joinLines rest := by
  cases rest with
  | nil => exact absurd rfl filled
  | cons second others => simp [joinLines, List.intercalate, List.intersperse]

/-- Lines of which the last one has a line break as well. -/
theorem joinLines_break (filled : written ≠ []) :
    joinLines written ++ ['\n'] = written.flatMap fun line => line ++ ['\n'] := by
  induction written with
  | nil => exact absurd rfl filled
  | cons first rest ih =>
    cases rest with
    | nil => simp [joinLines, List.intercalate, List.intersperse]
    | cons second others =>
      have shorter := ih (List.cons_ne_nil second others)
      rw [joinLines_cons (List.cons_ne_nil second others), List.flatMap_cons, ← shorter]
      simp

/-- An empty line at the end is a line break at the end. -/
theorem joinLines_blank (written : List (List Char)) :
    joinLines (written ++ [[]]) = written.flatMap fun line => line ++ ['\n'] := by
  induction written with
  | nil => rfl
  | cons first rest ih =>
    rw [List.cons_append, joinLines_cons (by simp), List.flatMap_cons, ih]
    simp

/-- An empty last line is lost when it is not the only one. -/
theorem joinLines_dropLast_iff (whole : ∀ line ∈ written, Whole line)
    (blank : written.getLast? = some []) :
    joinLines written.dropLast = joinLines written ↔ written = [[]] := by
  constructor
  · intro same
    have filled : written ≠ [] := by
      rintro rfl
      cases blank
    by_cases alone : written.dropLast = []
    · have parts := List.dropLast_concat_getLast filled
      rw [List.getLast?_eq_some_getLast filled] at blank
      rw [alone, Option.some.inj blank] at parts
      exact parts.symm
    · have front := splitOn_joinLines
        (fun line member => (whole line (List.dropLast_subset _ member)).1) alone
      rw [same, splitOn_joinLines (fun line member => (whole line member).1) filled] at front
      have shorter := congrArg List.length front
      rw [List.length_dropLast] at shorter
      have positive := List.length_pos_iff.mpr filled
      omega
  · rintro rfl
    rfl

/-- What is skipped and what stops the skipping. -/
theorem dropWhile_eq_cons {Item : Type} {skips : Item → Bool} {items : List Item} {item : Item}
    {rest : List Item} (found : items.dropWhile skips = item :: rest) :
    items = items.takeWhile skips ++ item :: rest ∧
      (∀ other ∈ items.takeWhile skips, skips other = true) ∧ skips item = false := by
  refine ⟨?_, fun other member => List.mem_takeWhile_imp member, ?_⟩
  · rw [← found, List.takeWhile_append_dropWhile]
  · have stops := List.head?_dropWhile_not skips items
    rw [found] at stops
    exact stops

theorem dropWhile_append_cons {Item : Type} {skips : Item → Bool} {front rest : List Item}
    {item : Item} (skipped : ∀ other ∈ front, skips other = true) (stops : skips item = false) :
    (front ++ item :: rest).dropWhile skips = item :: rest := by
  rw [List.dropWhile_append_of_pos skipped, List.dropWhile_cons_of_neg]
  rw [stops]
  exact Bool.false_ne_true

theorem dropWhile_dropWhile {skipped : Char → Bool}
    (weaker : ∀ character, skipped character = true → trimmed character = true) (text : List Char) :
    (text.dropWhile skipped).dropWhile trimmed = text.dropWhile trimmed := by
  induction text with
  | nil => rfl
  | cons first rest ih =>
    by_cases skips : skipped first = true
    · rw [List.dropWhile_cons_of_pos skips, List.dropWhile_cons_of_pos (weaker first skips)]
      exact ih
    · rw [List.dropWhile_cons_of_neg skips]

theorem dropWhile_of_head {skipped : Char → Bool}
    (weaker : ∀ character, skipped character = true → trimmed character = true)
    (kept : ∀ character, (text.dropWhile skipped).head? = some character → trimmed character =
      false) : text.dropWhile trimmed = text.dropWhile skipped := by
  rw [← dropWhile_dropWhile weaker text]
  cases left : text.dropWhile skipped with
  | nil => rfl
  | cons first rest =>
    rw [List.dropWhile_cons_of_neg]
    rw [kept first (by rw [left]; rfl)]
    exact Bool.false_ne_true

theorem trimEndMatches_rest (trimmed : Char → Bool) (text : List Char) :
    ∃ ending, text = trimEndMatches trimmed text ++ ending ∧
      ∀ character ∈ ending, trimmed character = true := by
  refine ⟨(text.reverse.takeWhile trimmed).reverse, ?_, ?_⟩
  · rw [trimEndMatches, ← List.reverse_append, List.takeWhile_append_dropWhile,
      List.reverse_reverse]
  · exact fun character member => List.mem_takeWhile_imp (List.mem_reverse.mp member)

/-- Trimming the end leaves a first character that is kept. -/
theorem trimEndMatches_head {first : Char} {rest : List Char} (kept : trimmed first = false) :
    (trimEndMatches trimmed (first :: rest)).head? = some first := by
  obtain ⟨ending, parts⟩ := trimEndMatches_starts trimmed (first :: rest)
  cases left : trimEndMatches trimmed (first :: rest) with
  | nil =>
    rw [trimEndMatches, List.reverse_eq_nil_iff, List.dropWhile_eq_nil_iff] at left
    have gone := left first (List.mem_reverse.mpr (List.mem_cons_self ..))
    rw [kept] at gone
    cases gone
  | cons other others =>
    rw [left] at parts
    cases parts
    rfl

theorem trimEndMatches_append {back : List Char}
    (blank : ∀ character ∈ back, trimmed character = true) :
    trimEndMatches trimmed (text ++ back) = trimEndMatches trimmed text := by
  rw [trimEndMatches, List.reverse_append, List.dropWhile_append_of_pos, trimEndMatches]
  exact fun character member => blank character (List.mem_reverse.mp member)

/-- Trimming the end stops at a character that is kept. -/
theorem trimEndMatches_append_cons {front rest : List Char} {character : Char}
    (kept : trimmed character = false) :
    trimEndMatches trimmed (front ++ character :: rest) =
      front ++ character :: trimEndMatches trimmed rest := by
  obtain ⟨ending, parts, blank⟩ := trimEndMatches_rest trimmed rest
  have whole : front ++ character :: rest =
      (front ++ character :: trimEndMatches trimmed rest) ++ ending := by
    rw [List.append_assoc, List.cons_append, ← parts]
  rw [whole, trimEndMatches_append blank]
  cases last : (trimEndMatches trimmed rest).getLast? with
  | none =>
    rw [List.getLast?_eq_none_iff.mp last]
    exact trimEndMatches_of_last List.getLast?_concat kept
  | some other =>
    refine trimEndMatches_of_last ?_ (trimEndMatches_last last)
    rw [List.getLast?_append, List.getLast?_cons, last]
    rfl

theorem trim_append {back : List Char} (blank : ∀ character ∈ back, isWhitespace character = true) :
    trim (text ++ back) = trim text := by
  rw [trim, List.dropWhile_append]
  split
  · rename_i empty
    rw [trim, List.isEmpty_iff.mp empty, List.dropWhile_eq_nil_iff.mpr blank]
  · exact trimEndMatches_append blank

/-- What is trimmed stands between blanks. -/
theorem trim_parts (text : List Char) : ∃ front back, text = front ++ trim text ++ back ∧
    (∀ character ∈ front, isWhitespace character = true) ∧
    ∀ character ∈ back, isWhitespace character = true := by
  obtain ⟨back, parts, blank⟩ := trimEndMatches_rest isWhitespace (text.dropWhile isWhitespace)
  refine ⟨text.takeWhile isWhitespace, back, ?_, ?_, blank⟩
  · rw [List.append_assoc, trim, ← parts, List.takeWhile_append_dropWhile]
  · exact fun character member => List.mem_takeWhile_imp member

theorem trim_head {first : Char} (head : (trim text).head? = some first) :
    isWhitespace first = false := by
  obtain ⟨rest, parts⟩ := trimEndMatches_starts isWhitespace (text.dropWhile isWhitespace)
  have stops := List.head?_dropWhile_not isWhitespace text
  rw [← parts, List.head?_append, ← trim, head] at stops
  exact stops

theorem trim_of_ends {first last : Char} (head : text.head? = some first)
    (keptFirst : isWhitespace first = false) (ends : text.getLast? = some last)
    (keptLast : isWhitespace last = false) : trim text = text := by
  cases text with
  | nil => cases head
  | cons other rest =>
    cases head
    rw [trim, List.dropWhile_cons_of_neg (by rw [keptFirst]; exact Bool.false_ne_true)]
    exact trimEndMatches_of_last ends keptLast

/-- What a line is read as does not depend on its end, and an empty line is read as nothing. -/
theorem filterMap_lines {Item : Type} {reads : List Char → Option Item}
    (unended : ∀ line, reads (withoutReturn line) = reads line) (empty : reads [] = none)
    (text : List Char) : (lines text).filterMap reads = (text.splitOn '\n').filterMap reads := by
  have filled := List.splitOn_ne_nil '\n' text
  have parts := List.dropLast_concat_getLast filled
  have same : reads ∘ withoutReturn = reads := funext unended
  have last : (some ((text.splitOn '\n').getLast filled)).toList.filter (· ≠ []) =
      [(text.splitOn '\n').getLast filled].filter (· ≠ []) := rfl
  rw [lines, List.getLast?_eq_some_getLast filled]
  simp only [List.filterMap_append, List.filterMap_map, same, last]
  refine Eq.trans ?_ (congrArg (List.filterMap reads) parts)
  rw [List.filterMap_append]
  by_cases blank : (text.splitOn '\n').getLast filled = []
  · simp [blank, empty]
  · simp [blank]

theorem mem_lines {line : List Char} (member : line ∈ lines text) : '\n' ∉ line := by
  rcases List.mem_append.mp member with ended | last
  · obtain ⟨piece, among, rfl⟩ := List.mem_map.mp ended
    have plain := splitOn_plain (List.dropLast_subset _ among)
    unfold withoutReturn
    cases stripped : stripSuffix ['\r'] piece with
    | none => exact plain
    | some front =>
      rw [stripSuffix_eq_some_iff.mp stripped] at plain
      exact fun inside => plain (List.mem_append_left _ inside)
  · have among := Option.mem_toList.mp (List.mem_filter.mp last).1
    exact splitOn_plain (List.mem_of_getLast? among)

end Text
