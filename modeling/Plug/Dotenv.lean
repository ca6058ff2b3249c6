import Mathlib.Data.List.Induction
import Mathlib.Logic.Function.Basic
import Plug.TextLines

/-!
# Files of assignments

A `.env` file assigns a value to a key on a line. Blanks around the key and the value do not
count, a value in quotation marks or apostrophes is what stands between them, and a sign after a
blank begins a comment in a value without them. Of two lines for a key the later one counts.
-/

namespace Plug.Dotenv

open Text

/-- The value without the quotation marks or apostrophes around it. -/
def unquote (value : List Char) : List Char :=
  if (value.head? = some '"' ∧ value.getLast? = some '"' ∨
      value.head? = some '\'' ∧ value.getLast? = some '\'') ∧ 2 ≤ byteLength value then
    value.tail.dropLast
  else value

/-- Where a comment begins: at a sign that is first or after a blank. -/
def commentStart : Option Char → List Char → Option Nat
  | _, [] => none
  | previous, character :: rest =>
    if character = '#' ∧ previous.all isWhitespace then some 0
    else (commentStart (some character) rest).map (· + 1)

def withoutComment (value : List Char) : List Char :=
  match commentStart none value with
  | some start => trimEndMatches isWhitespace (value.take start)
  | none => value

/-- The value of what is written after the equals sign. -/
def valueOf (written : List Char) : List Char :=
  if written.head? = some '"' ∨ written.head? = some '\'' then unquote written
  else withoutComment (unquote written)

/-- The key and the value of a line that has them. -/
def assignment (line : List Char) : Option (List Char × List Char) :=
  let trimmed := trim line
  if trimmed = [] ∨ trimmed.head? = some '#' then none
  else match splitOnce ['='] trimmed with
  | none => none
  | some (before, after) =>
    let key := trim before
    if key = [] ∨ ' ' ∈ key then none else some (key, valueOf (trim after))

/-- The values by their keys. -/
abbrev Vars := List Char → Option (List Char)

/-- The lines' assignments, one after the other. -/
def assignAll (lines : List (List Char)) : Vars :=
  lines.foldl (fun vars line =>
    match assignment line with
    | some (key, value) => Function.update vars key (some value)
    | none => vars) fun _ => none

def parseDotenv (content : List Char) : Vars := assignAll (lines content)

example : [" KEY = 'a #b' ", "KEY=a #b", "KEY=a#b", "A KEY=b"].map (fun line =>
    assignment line.toList) = [some ("KEY".toList, "a #b".toList), some ("KEY".toList, "a".toList),
      some ("KEY".toList, "a#b".toList), none] := by
  decide

/-! ### Lines that are written and read again -/

theorem assignment_withoutReturn (line : List Char) :
    assignment (withoutReturn line) = assignment line := by
  have same : trim (withoutReturn line) = trim line := by
    unfold withoutReturn
    cases stripped : stripSuffix ['\r'] line with
    | none => rfl
    | some front =>
      rw [stripSuffix_eq_some_iff.mp stripped, trim_append]
      · rfl
      · intro character member
        rw [List.mem_singleton.mp member]
        decide
  unfold assignment
  rw [same]

theorem assignAll_concat (written : List (List Char)) (line : List Char) :
    assignAll (written ++ [line]) =
      match assignment line with
      | some (key, value) => Function.update (assignAll written) key (some value)
      | none => assignAll written := by
  rw [assignAll, List.foldl_append]
  rfl

/-- Only the assignments count. -/
theorem assignAll_eq (written : List (List Char)) : assignAll written =
    (written.filterMap assignment).foldl
      (fun (vars : Vars) entry => Function.update vars entry.1 (some entry.2)) fun _ => none := by
  induction written using List.reverseRecOn with
  | nil => rfl
  | append_singleton others line ih =>
    rw [assignAll_concat, List.filterMap_append, List.foldl_append, ← ih]
    cases read : assignment line with
    | none => simp [read]
    | some entry => simp [read]

theorem parseDotenv_eq (content : List Char) :
    parseDotenv content = assignAll (content.splitOn '\n') := by
  rw [parseDotenv, assignAll_eq, filterMap_lines assignment_withoutReturn rfl, ← assignAll_eq]

theorem parseDotenv_joinLines {written : List (List Char)}
    (plain : ∀ line ∈ written, '\n' ∉ line) :
    parseDotenv (joinLines written) = assignAll written := by
  cases written with
  | nil => rfl
  | cons first rest => rw [parseDotenv_eq, splitOn_joinLines plain (List.cons_ne_nil first rest)]

/-- A line break at the end assigns nothing. -/
theorem parseDotenv_ended {written : List (List Char)} (plain : ∀ line ∈ written, '\n' ∉ line)
    (filled : written ≠ []) : parseDotenv (joinLines written ++ ['\n']) = assignAll written := by
  rw [joinLines_break filled, ← joinLines_blank, parseDotenv_joinLines, assignAll_concat]
  · rfl
  · intro line member
    rcases List.mem_append.mp member with among | last
    · exact plain line among
    · rw [List.mem_singleton.mp last]
      exact List.not_mem_nil

end Plug.Dotenv
