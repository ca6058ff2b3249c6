import Mathlib.Data.List.Infix

/-!
# Patterns with a wildcard

In a pattern one symbol stands for any text and every other for itself. What is between the
wildcards are the parts of the pattern. A text matches if the parts are found in it in order, the
first at the start and the last at the end, and it is enough to look for each of the others at its
leftmost place.
-/

namespace Wildcards

variable {Symbol : Type} {star : Symbol}

/-- The texts of a pattern. -/
inductive Matches (star : Symbol) : List Symbol → List Symbol → Prop where
  | nothing : Matches star [] []
  | symbol {symbol pattern text} (plain : symbol ≠ star) (rest : Matches star pattern text) :
    Matches star (symbol :: pattern) (symbol :: text)
  | any {pattern text} (gap : List Symbol) (rest : Matches star pattern text) :
    Matches star (star :: pattern) (gap ++ text)

/-- A text is made of the parts, with gaps between them. -/
def Spread : List (List Symbol) → List Symbol → Prop
  | [], _ => False
  | [part], text => text = part
  | part :: next :: parts, text =>
    ∃ gap later, text = part ++ (gap ++ later) ∧ Spread (next :: parts) later

/-- The parts come behind a gap. -/
def After (parts : List (List Symbol)) (text : List Symbol) : Prop :=
  ∃ gap later, text = gap ++ later ∧ Spread parts later

variable {part next : List Symbol} {parts : List (List Symbol)} {text : List Symbol}

/-! ### Parts of a pattern -/

theorem spread_cons_nil (filled : parts ≠ []) : Spread ([] :: parts) text ↔ After parts text := by
  cases parts with
  | nil => exact absurd rfl filled
  | cons next parts => exact Iff.rfl

theorem spread_cons (filled : parts ≠ []) : Spread (part :: parts) text ↔
    ∃ later, text = part ++ later ∧ After parts later := by
  cases parts with
  | nil => exact absurd rfl filled
  | cons next parts =>
    constructor
    · rintro ⟨gap, later, whole, rest⟩
      exact ⟨gap ++ later, whole, gap, later, rfl, rest⟩
    · rintro ⟨_, whole, gap, later, rfl, rest⟩
      exact ⟨gap, later, whole, rest⟩

/-- The first part with a symbol more. -/
theorem spread_symbol {symbol : Symbol} : Spread ((symbol :: part) :: parts) text ↔
    ∃ rest, text = symbol :: rest ∧ Spread (part :: parts) rest := by
  cases parts with
  | nil =>
    constructor
    · intro same
      exact ⟨part, same, rfl⟩
    · rintro ⟨_, same, rfl⟩
      exact same
  | cons next parts =>
    constructor
    · rintro ⟨gap, later, whole, rest⟩
      exact ⟨part ++ (gap ++ later), whole, gap, later, rfl, rest⟩
    · rintro ⟨_, whole, gap, later, rfl, rest⟩
      exact ⟨gap, later, whole, rest⟩

variable {pattern : List Symbol}

/-- The texts of a pattern are those that its parts are spread over. -/
theorem matches_iff_spread [DecidableEq Symbol] :
    Matches star pattern text ↔ Spread (pattern.splitOn star) text := by
  induction pattern generalizing text with
  | nil =>
    rw [List.splitOn_nil]
    constructor
    · rintro ⟨⟩
      rfl
    · rintro rfl
      exact .nothing
  | cons symbol pattern ih =>
    have filled : pattern.splitOn star ≠ [] := List.splitOn_ne_nil star pattern
    by_cases same : symbol = star
    · obtain rfl := same
      rw [List.splitOn_cons_eq_if_modifyHead, if_pos (beq_self_eq_true symbol), spread_cons_nil filled]
      constructor
      · intro matched
        cases matched with
        | symbol plain _ => exact absurd rfl plain
        | any gap rest => exact ⟨gap, _, rfl, ih.mp rest⟩
      · rintro ⟨gap, later, rfl, rest⟩
        exact .any gap (ih.mpr rest)
    · have split : ∃ part parts, pattern.splitOn star = part :: parts :=
        List.exists_cons_of_ne_nil filled
      obtain ⟨part, parts, split⟩ := split
      rw [List.splitOn_cons_eq_if_modifyHead, if_neg (mt eq_of_beq same), split,
        List.modifyHead_cons, spread_symbol]
      constructor
      · intro matched
        cases matched with
        | symbol _ rest => exact ⟨_, rfl, split ▸ ih.mp rest⟩
        | any _ _ => exact absurd rfl same
      · rintro ⟨rest, rfl, spread⟩
        exact .symbol same (ih.mpr (split ▸ spread))

/-! ### The first part and the last -/

theorem head_splitOn [DecidableEq Symbol] (split : pattern.splitOn star = part :: parts)
    (filled : parts ≠ []) : part = [] ↔ pattern.head? = some star := by
  cases pattern with
  | nil =>
    rw [List.splitOn_nil] at split
    exact absurd (List.cons.inj split).2.symm filled
  | cons symbol pattern =>
    rw [List.splitOn_cons_eq_if_modifyHead] at split
    rw [List.head?_cons, Option.some.injEq]
    by_cases same : symbol = star
    · rw [if_pos (beq_iff_eq.mpr same)] at split
      exact iff_of_true (List.cons.inj split).1.symm same
    · rw [if_neg (mt eq_of_beq same)] at split
      refine iff_of_false ?_ same
      rintro rfl
      cases rest : pattern.splitOn star with
      | nil => exact List.splitOn_ne_nil star pattern rest
      | cons first others =>
        rw [rest] at split
        cases (List.cons.inj split).1

theorem last_splitOn [DecidableEq Symbol] (ends : pattern.getLast? = some star) :
    (pattern.splitOn star).getLast? = some [] := by
  obtain ⟨front, rfl⟩ := List.getLast?_eq_some_iff.mp ends
  rw [List.splitOn_append_cons_self, List.splitOn_nil, List.getLast?_concat]

/-! ### Looking for the parts -/

theorem After.further {rest : List Symbol} (after : After parts rest) (ends : rest <:+ text) :
    After parts text := by
  obtain ⟨gap, later, rfl, spread⟩ := after
  obtain ⟨front, rfl⟩ := ends
  exact ⟨front ++ gap, later, (List.append_assoc front gap later).symm, spread⟩

theorem after_last : After [part] text ↔ part <:+ text := by
  constructor
  · rintro ⟨gap, later, rfl, same⟩
    rw [show later = part from same]
    exact List.suffix_append gap part
  · rintro ⟨gap, rfl⟩
    exact ⟨gap, part, rfl, rfl⟩

theorem after_cons_nil (filled : parts ≠ []) : After ([] :: parts) text ↔ After parts text := by
  constructor
  · rintro ⟨gap, later, rfl, spread⟩
    exact ((spread_cons_nil filled).mp spread).further (List.suffix_append gap later)
  · intro after
    exact ⟨[], text, rfl, (spread_cons_nil filled).mpr after⟩

/-- If a part is found further on, the others come behind its leftmost place too. -/
theorem after_leftmost (filled : parts ≠ []) {place : Nat} (found : part <+: text.drop place)
    (leftmost : ∀ other < place, ¬ part <+: text.drop other) :
    After (part :: parts) text ↔ After parts (text.drop (place + part.length)) := by
  constructor
  · rintro ⟨gap, _, rfl, spread⟩
    obtain ⟨later, rfl, after⟩ := (spread_cons filled).mp spread
    have early : place ≤ gap.length := by
      by_contra late
      apply leftmost gap.length (Nat.lt_of_not_le late)
      rw [List.drop_left]
      exact List.prefix_append part later
    refine after.further ?_
    have behind := List.drop_suffix_drop_left (gap ++ (part ++ later))
      (Nat.add_le_add_right early part.length)
    rwa [← List.append_assoc, ← List.length_append, List.drop_left, List.append_assoc] at behind
  · intro after
    obtain ⟨later, rest⟩ := found
    refine ⟨text.take place, text.drop place, (List.take_append_drop place text).symm, ?_⟩
    refine (spread_cons filled).mpr ⟨later, rest.symm, ?_⟩
    rw [← List.drop_drop, ← rest, List.drop_left] at after
    exact after

/-- A part that is found nowhere is in no such text. -/
theorem not_after (filled : parts ≠ []) (nowhere : ¬ part <:+: text) :
    ¬ After (part :: parts) text := by
  rintro ⟨gap, _, rfl, spread⟩
  obtain ⟨later, rfl, _⟩ := (spread_cons filled).mp spread
  exact nowhere ⟨gap, later, List.append_assoc gap part later⟩

/-! ### Folded texts -/

/-- A folding that keeps the wildcard, and makes none, may be done to the pattern as well. -/
theorem matches_map {fold : Symbol → Symbol} (kept : ∀ symbol, fold symbol = star ↔ symbol = star) :
    Matches star (pattern.map fold) (text.map fold) ↔
      ∃ other, Matches star pattern other ∧ other.map fold = text.map fold := by
  induction pattern generalizing text with
  | nil =>
    constructor
    · intro matched
      generalize folded : text.map fold = other at matched
      cases matched
      exact ⟨[], .nothing, rfl⟩
    · rintro ⟨other, matched, same⟩
      cases matched
      rw [← same]
      exact .nothing
  | cons symbol pattern ih =>
    by_cases isStar : symbol = star
    · obtain rfl := isStar
      rw [List.map_cons, (kept symbol).mpr rfl]
      constructor
      · intro matched
        generalize folded : text.map fold = whole at matched
        cases matched with
        | symbol plain _ => exact absurd rfl plain
        | any gap rest =>
          obtain ⟨front, later, rfl, rfl, rfl⟩ := List.map_eq_append_iff.mp folded
          obtain ⟨other, matched, same⟩ := ih.mp rest
          refine ⟨front ++ other, .any front matched, ?_⟩
          rw [List.map_append, same]
      · rintro ⟨other, matched, same⟩
        cases matched with
        | symbol plain _ => exact absurd rfl plain
        | any gap rest =>
          rw [← same, List.map_append]
          exact .any _ (ih.mpr ⟨_, rest, rfl⟩)
    · have plain : fold symbol ≠ star := mt (kept symbol).mp isStar
      rw [List.map_cons]
      constructor
      · intro matched
        generalize folded : text.map fold = whole at matched
        generalize head : fold symbol = first at matched plain
        cases matched with
        | symbol _ rest =>
          obtain ⟨own, later, rfl, same, rfl⟩ := List.map_eq_cons_iff.mp folded
          obtain ⟨other, matched, tail⟩ := ih.mp rest
          refine ⟨symbol :: other, .symbol isStar matched, ?_⟩
          rw [List.map_cons, head, tail]
        | any _ _ => exact absurd rfl plain
      · rintro ⟨other, matched, same⟩
        cases matched with
        | symbol _ rest =>
          rw [← same, List.map_cons]
          exact .symbol plain (ih.mpr ⟨_, rest, rfl⟩)
        | any _ _ => exact absurd rfl isStar

end Wildcards
