import Plug.TextSearch
import Plug.ToolNaming
import Plug.Wildcards

/-!
# Which tools the patterns switch off

The matcher looks for the parts of a pattern one after the other, each at its leftmost place. It
finds them exactly in the texts of the pattern.
-/

namespace Plug.ToolNaming

open Text
open Wildcards (After Matches)

variable {pattern text : List Char}

/-- Behind a star the parts are found wherever they come, and the last at the end. -/
theorem matchParts_iff_after {parts : List (List Char)} (filled : parts ≠ []) {first : Bool}
    (anywhere : first = false ∨ pattern.head? = some '*')
    (ends : pattern.getLast? = some '*' → parts.getLast? = some []) (remainder : List Char) :
    matchParts pattern first remainder parts = true ↔ After parts remainder := by
  induction parts generalizing first remainder with
  | nil => exact absurd rfl filled
  | cons part rest ih =>
    have skipped : (first && pattern.head? != some '*') = false := by
      obtain later | star := anywhere
      · rw [later, Bool.false_and]
      · rw [star, bne_self_eq_false, Bool.and_false]
    rw [matchParts, skipped, if_neg Bool.false_ne_true]
    by_cases last : rest = []
    · obtain rfl := last
      rw [Wildcards.after_last]
      by_cases empty : part = []
      · rw [if_pos empty, matchParts, empty]
        exact iff_of_true rfl List.nil_suffix
      · have unstarred : (pattern.getLast? != some '*') = true := by
          rw [bne_iff_ne]
          intro star
          exact empty (Option.some.inj (ends star))
        rw [if_neg empty, unstarred, List.isEmpty_nil, Bool.and_self, if_pos rfl]
        exact List.isSuffixOf_iff_suffix
    · have later : pattern.getLast? = some '*' → rest.getLast? = some [] := by
        intro star
        have whole := ends star
        rwa [List.getLast?_cons_of_ne_nil last] at whole
      by_cases empty : part = []
      · rw [if_pos empty, empty, Wildcards.after_cons_nil last]
        exact ih last anywhere later remainder
      · have more : rest.isEmpty = false := List.isEmpty_eq_false_iff.mpr last
        rw [if_neg empty, more, Bool.false_and, if_neg Bool.false_ne_true]
        cases place : find part remainder with
        | some found =>
          obtain ⟨_, here, leftmost⟩ := find_eq_some_iff.mp place
          rw [Wildcards.after_leftmost last here leftmost]
          exact ih last (Or.inl rfl) later _
        | none =>
          refine iff_of_false Bool.false_ne_true (Wildcards.not_after last fun inside => ?_)
          have met := contains_iff_within.mpr inside
          rw [contains, place] at met
          cases met

/-- The matcher accepts exactly the texts of a pattern. -/
theorem wildcardMatch_iff (pattern text : List Char) :
    wildcardMatch pattern text = true ↔ Matches '*' pattern text := by
  rw [wildcardMatch]
  by_cases star : pattern = ['*']
  · rw [if_pos star, star]
    have any : Matches '*' ['*'] (text ++ []) := .any text .nothing
    rw [List.append_nil] at any
    exact iff_of_true rfl any
  · rw [if_neg star, Wildcards.matches_iff_spread]
    dsimp only
    cases split : pattern.splitOn '*' with
    | nil => exact absurd split (List.splitOn_ne_nil '*' pattern)
    | cons part rest =>
      by_cases single : rest = []
      · have whole := @List.intercalate_splitOn _ pattern _ _ '*'
        rw [split, single, List.intercalate_singleton] at whole
        rw [single, List.length_singleton, if_pos rfl, beq_iff_eq, whole]
        exact eq_comm
      · have many : ¬ (part :: rest).length = 1 := by
          rw [List.length_cons, Nat.add_eq_right]
          exact mt List.length_eq_zero_iff.mp single
        have ends : pattern.getLast? = some '*' → rest.getLast? = some [] := by
          intro last
          have whole := Wildcards.last_splitOn last
          rwa [split, List.getLast?_cons_of_ne_nil single] at whole
        have start := Wildcards.head_splitOn split single
        rw [if_neg many, matchParts]
        by_cases empty : part = []
        · rw [if_pos empty, empty, Wildcards.spread_cons_nil single]
          exact matchParts_iff_after single (Or.inr (start.mp empty)) ends text
        · have anchored : (true && pattern.head? != some '*') = true := by
            rw [Bool.true_and, bne_iff_ne]
            exact mt start.mpr empty
          rw [if_neg empty, anchored, if_pos rfl, Bool.and_eq_true,
            matchParts_iff_after single (Or.inl rfl) ends, Wildcards.spread_cons single,
            List.isPrefixOf_iff_prefix]
          constructor
          · rintro ⟨⟨later, rfl⟩, after⟩
            rw [List.drop_left] at after
            exact ⟨later, rfl, after⟩
          · rintro ⟨later, rfl, after⟩
            rw [List.drop_left]
            exact ⟨List.prefix_append part later, after⟩

theorem toLower_star (character : Char) : character.toLower = '*' ↔ character = '*' := by
  constructor
  · exact of_toLower (by decide)
  · rintro rfl
    rfl

/-- A tool is switched off if its name is a text of a pattern but for the case of ASCII letters. -/
theorem isDisabledTool_iff (patterns : List (List Char)) (toolName : List Char) :
    isDisabledTool patterns toolName = true ↔ ∃ pattern ∈ patterns, ∃ text,
      Matches '*' pattern text ∧ toAsciiLowercase text = toAsciiLowercase toolName := by
  have each : ∀ pattern : List Char,
      (if pattern.all fun character => !character.isUpper then
        wildcardMatch pattern (toAsciiLowercase toolName)
      else wildcardMatch (toAsciiLowercase pattern) (toAsciiLowercase toolName)) = true ↔
      ∃ text, Matches '*' pattern text ∧
        toAsciiLowercase text = toAsciiLowercase toolName := by
    intro pattern
    have folded : wildcardMatch (toAsciiLowercase pattern) (toAsciiLowercase toolName) = true ↔
        ∃ text, Matches '*' pattern text ∧ toAsciiLowercase text = toAsciiLowercase toolName := by
      rw [wildcardMatch_iff]
      exact Wildcards.matches_map toLower_star
    split
    · rename_i lower
      have plain : toAsciiLowercase pattern = pattern := by
        apply toAsciiLowercase_plain
        intro character member
        have small := List.all_eq_true.mp lower character member
        rwa [Bool.not_eq_true'] at small
      rwa [plain] at folded
    · exact folded
  cases patterns with
  | nil => simp [isDisabledTool]
  | cons pattern rest =>
    rw [isDisabledTool, List.isEmpty_cons, if_neg Bool.false_ne_true, List.any_eq_true]
    exact exists_congr fun pattern => and_congr_right fun _ => each pattern

/-- The matcher and the switch mean what the patterns say. -/
theorem patterns_matched : (∀ pattern text, wildcardMatch pattern text = true ↔
      Matches '*' pattern text) ∧
    ∀ patterns toolName, isDisabledTool patterns toolName = true ↔ ∃ pattern ∈ patterns, ∃ text,
      Matches '*' pattern text ∧ toAsciiLowercase text = toAsciiLowercase toolName :=
  ⟨wildcardMatch_iff, isDisabledTool_iff⟩

end Plug.ToolNaming
