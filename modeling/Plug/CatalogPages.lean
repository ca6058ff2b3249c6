import Plug.Paging
import Plug.TaskStore
import Plug.TextSearch

/-!
# Pages of the catalog and of the tasks

A list is served 500 items at a time. A client's cursor is read as the offset of its page, and
where it is none of an item, the page is the first. Adding to an offset and cutting the list are
the two steps that can fail: on overflow, and outside of the list.
-/

namespace Plug.Pages

open Paging (CoversOnce ServesAt)
open Tasks (ListTasksResult paginateTasks parseUsize)

variable {Item : Type}

def pageSize : Nat := 500

/-- `usize` addition. Where it overflows, the code stops or gets another sum. -/
def checkedAdd (first second : Nat) : Option Nat :=
  if first + second ≤ 18446744073709551615 then some (first + second) else none

/-- `items[start..stop]`, which panics outside of the list. -/
def slice (items : List Item) (start stop : Nat) : Option (List Item) :=
  if start ≤ stop ∧ stop ≤ items.length then some ((items.take stop).drop start) else none

def startOf (count : Nat) (cursor : Option String) : Nat :=
  ((cursor.bind parseUsize).filter fun index => index < count).getD 0

/-- A page and the cursor of the next, for `build`. There is no result where the code stops. -/
def paginatedResult {Result : Type} (items : List Item) (cursor : Option String)
    (build : List Item → Option String → Result) : Option Result :=
  let start := startOf items.length cursor
  (checkedAdd start pageSize).bind fun last =>
    let stop := min last items.length
    (slice items start stop).map fun page =>
      build page (if stop < items.length then some (toString stop) else none)

/-! ### Cursors -/

theorem parseUsize_eq (text : String) : parseUsize text = Text.parseU64 text.toList := by
  unfold parseUsize Text.parseU64
  split
  · rename_i rest same
    have signed : Text.stripPrefix ['+'] text.toList = some rest := by
      rw [same]
      exact Text.stripPrefix_append ['+'] rest
    rw [signed]
    rfl
  · rename_i unsigned
    have kept : Text.stripPrefix ['+'] text.toList = none := by
      rw [Text.stripPrefix, if_neg]
      intro begins
      obtain ⟨rest, same⟩ := List.isPrefixOf_iff_prefix.mp begins
      exact unsigned rest same.symm
    rw [kept]
    rfl

theorem parseUsize_toString {number : Nat} (small : number ≤ 18446744073709551615) :
    parseUsize (toString number) = some number := by
  have digits : (toString number).toList = Nat.toDigits 10 number := Nat.toList_repr
  rw [parseUsize_eq, digits, Text.parseU64_toDigits, if_pos small]

variable {items : List Item}

theorem startOf_le (count : Nat) (cursor : Option String) : startOf count cursor ≤ count := by
  unfold startOf
  cases kept : (cursor.bind parseUsize).filter fun index => index < count with
  | none => exact Nat.zero_le _
  | some index =>
    obtain ⟨_, less⟩ := Option.filter_eq_some_iff.mp kept
    exact Nat.le_of_lt (of_decide_eq_true less)

theorem startOf_toString {count number : Nat} (small : number ≤ 18446744073709551615)
    (less : number < count) : startOf count (some (toString number)) = number := by
  rw [startOf, Option.bind_some, parseUsize_toString small,
    Option.filter_some, decide_eq_true less]
  rfl

/-! ### Pages -/

/-- For a list that can be in memory nothing stops the code. -/
theorem paginatedResult_eq {Result : Type} (fits : items.length ≤ 9223372036854775807)
    (cursor : Option String) (build : List Item → Option String → Result) :
    paginatedResult items cursor build =
      let start := startOf items.length cursor
      let stop := min (start + pageSize) items.length
      some (build ((items.take stop).drop start)
        (if stop < items.length then some (toString stop) else none)) := by
  have bounded := startOf_le items.length cursor
  have size : pageSize = 500 := rfl
  have added : checkedAdd (startOf items.length cursor) pageSize =
      some (startOf items.length cursor + pageSize) := if_pos (by omega)
  have within : startOf items.length cursor ≤ min (startOf items.length cursor + pageSize)
      items.length ∧ min (startOf items.length cursor + pageSize) items.length ≤ items.length := by
    omega
  unfold paginatedResult slice
  dsimp only
  rw [added, Option.bind_some, if_pos within]
  rfl

theorem servesAt (fits : items.length ≤ 9223372036854775807) :
    ServesAt pageSize items (startOf items.length)
      (fun cursor => paginatedResult items cursor Prod.mk) where
  last cursor ends := by
    rw [paginatedResult_eq fits]
    dsimp only
    rw [Nat.min_eq_right ends, if_neg (Nat.lt_irrefl _), List.take_length, List.take_of_length_le]
    rw [List.length_drop]
    omega
  further cursor more := by
    have small : startOf items.length cursor + pageSize ≤ 18446744073709551615 := by omega
    refine ⟨toString (startOf items.length cursor + pageSize), ?_, startOf_toString small more⟩
    rw [paginatedResult_eq fits]
    dsimp only
    rw [Nat.min_eq_left (Nat.le_of_lt more), if_pos more, List.drop_take, Nat.add_sub_cancel_left]

theorem paginateTasks_eq {tasks : List Tasks.Task} (fits : tasks.length ≤ 9223372036854775807)
    (cursor : Option String) :
    paginatedResult tasks cursor ListTasksResult.mk = some (paginateTasks tasks cursor) :=
  paginatedResult_eq fits cursor ListTasksResult.mk

/-- Both ways to serve pages go through a list once, and neither stops at any cursor. -/
theorem pages_cover_once (items : List Item) (tasks : List Tasks.Task)
    (fits : items.length ≤ 9223372036854775807) (tasksFit : tasks.length ≤ 9223372036854775807) :
    CoversOnce pageSize items (fun cursor => paginatedResult items cursor Prod.mk) ∧
    CoversOnce pageSize tasks (fun cursor =>
      (paginatedResult tasks cursor ListTasksResult.mk).map fun result =>
        (result.tasks, result.nextCursor)) ∧
    ∀ cursor, paginatedResult tasks cursor ListTasksResult.mk =
      some (paginateTasks tasks cursor) := by
  have positive : 0 < pageSize := by decide
  refine ⟨(servesAt fits).coversOnce positive rfl, ?_, paginateTasks_eq tasksFit⟩
  have same : (fun cursor => (paginatedResult tasks cursor ListTasksResult.mk).map fun result =>
      (result.tasks, result.nextCursor)) =
      fun cursor => paginatedResult tasks cursor Prod.mk := by
    funext cursor
    rw [paginatedResult_eq tasksFit, paginatedResult_eq tasksFit]
    rfl
  rw [same]
  exact (servesAt tasksFit).coversOnce positive rfl

theorem pages_cover_once_three :
    CoversOnce pageSize [1, 2, 3] (fun cursor => paginatedResult [1, 2, 3] cursor Prod.mk) :=
  (pages_cover_once [1, 2, 3] [] (by decide) (by decide)).1

end Plug.Pages
