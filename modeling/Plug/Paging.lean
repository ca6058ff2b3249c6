import Mathlib.Data.List.Infix

/-!
# Reading a list in pages

A list is served in pages, each with a cursor for the page behind it unless there is none. A walk
follows the cursors from one page on. Where a cursor stands for an offset into the list, a walk
from the start comes to an end and has read every item once.
-/

namespace Paging

variable {Item Cursor : Type} {serve : Option Cursor → Option (List Item × Option Cursor)}

/-- The pages that are read from a cursor on, up to a page that names no other. -/
inductive Walk (serve : Option Cursor → Option (List Item × Option Cursor)) :
    Option Cursor → List (List Item) → Prop where
  | last {cursor page} (served : serve cursor = some (page, none)) : Walk serve cursor [page]
  | further {cursor page next pages} (served : serve cursor = some (page, some next))
      (rest : Walk serve (some next) pages) : Walk serve cursor (page :: pages)

/-- Without a cursor, following each page's cursor reads the list once, in full pages but for the
last. For any cursor the page is a part of the list. -/
structure CoversOnce (size : Nat) (items : List Item)
    (serve : Option Cursor → Option (List Item × Option Cursor)) : Prop where
  walk : ∃ pages, Walk serve none pages ∧ pages.flatten = items ∧
    ∀ page ∈ pages.dropLast, page.length = size
  segment : ∀ cursor, ∃ page next, serve cursor = some (page, next) ∧ page <:+: items

/-- A page begins at an offset. The next one begins where it ends, if that is within the list. -/
structure ServesAt (size : Nat) (items : List Item) (offset : Option Cursor → Nat)
    (serve : Option Cursor → Option (List Item × Option Cursor)) : Prop where
  last : ∀ cursor, items.length ≤ offset cursor + size →
    serve cursor = some ((items.drop (offset cursor)).take size, none)
  further : ∀ cursor, offset cursor + size < items.length → ∃ next,
    serve cursor = some ((items.drop (offset cursor)).take size, some next) ∧
      offset (some next) = offset cursor + size

variable {size : Nat} {items : List Item} {offset : Option Cursor → Nat}

/-- The offset grows with each page, up to the end of the list. -/
theorem ServesAt.walk (serves : ServesAt size items offset serve) (positive : 0 < size)
    (cursor : Option Cursor) : ∃ pages, Walk serve cursor pages ∧
      pages.flatten = items.drop (offset cursor) ∧ ∀ page ∈ pages.dropLast, page.length = size := by
  induction left : items.length - offset cursor using Nat.strong_induction_on generalizing cursor with
  | _ left ih =>
    by_cases more : offset cursor + size < items.length
    · obtain ⟨next, served, moved⟩ := serves.further cursor more
      obtain ⟨pages, walk, whole, full⟩ :=
        ih (items.length - offset (some next)) (by omega) (some next) rfl
      refine ⟨_ :: pages, .further served walk, ?_, ?_⟩
      · rw [List.flatten_cons, whole, moved, ← List.drop_drop, List.take_append_drop]
      · have filled : pages ≠ [] := by
          rintro rfl
          cases walk
        rw [List.dropLast_cons_of_ne_nil filled]
        rw [List.forall_mem_cons]
        refine ⟨?_, full⟩
        rw [List.length_take, List.length_drop]
        omega
    · refine ⟨_, .last (serves.last cursor (by omega)), ?_, fun page member => ?_⟩
      · rw [List.flatten_singleton, List.take_of_length_le]
        rw [List.length_drop]
        omega
      · cases member

theorem ServesAt.coversOnce (serves : ServesAt size items offset serve) (positive : 0 < size)
    (start : offset none = 0) : CoversOnce size items serve where
  walk := by
    obtain ⟨pages, walk, whole, full⟩ := serves.walk positive none
    rw [start, List.drop_zero] at whole
    exact ⟨pages, walk, whole, full⟩
  segment cursor := by
    have inside : (items.drop (offset cursor)).take size <:+: items :=
      (List.take_prefix _ _).isInfix.trans (List.drop_suffix _ _).isInfix
    by_cases more : offset cursor + size < items.length
    · obtain ⟨next, served, _⟩ := serves.further cursor more
      exact ⟨_, _, served, inside⟩
    · exact ⟨_, _, serves.last cursor (Nat.le_of_not_lt more), inside⟩

end Paging
