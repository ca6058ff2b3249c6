import Mathlib.Data.List.Basic

/-!
# Texts with holes

A template is a text in which some places are holes, and filling it puts a value into each.
Replacing puts another text in the place of each occurrence of a text.
-/

namespace Templates

universe u v w
variable {Symbol : Type u} {Hole : Type v}

inductive Item (Symbol : Type u) (Hole : Type v) where
  | symbol (symbol : Symbol)
  | hole (hole : Hole)
deriving DecidableEq

/-- The text with the values in its holes. -/
def fill (value : Hole → List Symbol) : List (Item Symbol Hole) → List Symbol
  | [] => []
  | .symbol symbol :: rest => symbol :: fill value rest
  | .hole hole :: rest => value hole ++ fill value rest

/-! ### Replacing -/

section Replacing

variable [DecidableEq Symbol]

/-- The text with each occurrence of the needle replaced, from behind the symbols to skip. -/
def replaceFrom (needle replacement : List Symbol) : Nat → List Symbol → List Symbol
  | _, [] => []
  | skipped + 1, _ :: rest => replaceFrom needle replacement skipped rest
  | 0, symbol :: rest =>
    if needle.isPrefixOf (symbol :: rest) then
      replacement ++ replaceFrom needle replacement (needle.length - 1) rest
    else symbol :: replaceFrom needle replacement 0 rest

/-- The replacement before each symbol and at the end. -/
def interleave (replacement : List Symbol) : List Symbol → List Symbol
  | [] => replacement
  | symbol :: rest => replacement ++ symbol :: interleave replacement rest

/-- `str::replace`: the occurrences are searched from the left and do not overlap. An empty needle
occurs between any two symbols and at both ends. -/
def replace (needle replacement text : List Symbol) : List Symbol :=
  if needle = [] then interleave replacement text else replaceFrom needle replacement 0 text

end Replacing

end Templates
