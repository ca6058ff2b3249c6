import Mathlib.Data.List.Flatten
import Plug.JsonPaths
import Plug.Text

/-!
# JSON text

A value written without white space, and the nodes of a value with how deep each is nested.
-/

namespace JsonValues

variable {key : String} {value : Value} {members : Members}

/-! ### The writer -/

def hexDigit (digit : Nat) : Char :=
  Nat.digitChar digit

/-- A character of a string: quotes, backslashes and control characters are escaped. -/
def escapeChar (character : Char) : List Char :=
  match character with
  | '"' => ['\\', '"']
  | '\\' => ['\\', '\\']
  | '\x08' => ['\\', 'b']
  | '\x0c' => ['\\', 'f']
  | '\n' => ['\\', 'n']
  | '\r' => ['\\', 'r']
  | '\t' => ['\\', 't']
  | _ =>
    if character.toNat < 0x20 then
      ['\\', 'u', '0', '0', hexDigit (character.toNat / 16), hexDigit (character.toNat % 16)]
    else [character]

def writeString (text : String) : List Char :=
  '"' :: text.toList.flatMap escapeChar ++ ['"']

mutual

/-- `serde_json::to_vec`, as characters. -/
def Value.write : Value → List Char
  | .null => ['n', 'u', 'l', 'l']
  | .bool true => ['t', 'r', 'u', 'e']
  | .bool false => ['f', 'a', 'l', 's', 'e']
  | .number value => (toString value).toList
  | .decimal text => text.toList
  | .string text => writeString text
  | .array items => '[' :: writeItems items ++ [']']
  | .object members => '{' :: writeMembers members ++ ['}']

def writeItems : List Value → List Char
  | [] => []
  | [item] => item.write
  | item :: next :: rest => item.write ++ ',' :: writeItems (next :: rest)

def writeMembers : Members → List Char
  | [] => []
  | [(key, value)] => writeString key ++ ':' :: value.write
  | (key, value) :: next :: rest =>
    writeString key ++ ':' :: value.write ++ ',' :: writeMembers (next :: rest)

end

/-! ### Nodes -/

mutual

/-- The value and all values in it, each with its depth; the value itself is at the given one. -/
def Value.nodes (depth : Nat) : Value → List (Nat × Value)
  | .array items => (depth, .array items) :: itemNodes (depth + 1) items
  | .object members => (depth, .object members) :: memberNodes (depth + 1) members
  | value => [(depth, value)]

def itemNodes (depth : Nat) : List Value → List (Nat × Value)
  | [] => []
  | item :: rest => item.nodes depth ++ itemNodes depth rest

def memberNodes (depth : Nat) : Members → List (Nat × Value)
  | [] => []
  | (_, value) :: rest => value.nodes depth ++ memberNodes depth rest

end

theorem memberNodes_eq (depth : Nat) (members : Members) :
    memberNodes depth members = members.flatMap fun member => member.2.nodes depth := by
  induction members with
  | nil => rfl
  | cons member rest ih =>
    rw [memberNodes, ih, List.flatMap_cons]

/-! ### Lengths -/

/-- A character that is written as it is. -/
def isPlain (character : Char) : Bool :=
  character != '"' && character != '\\' && 0x20 ≤ character.toNat

theorem escapeChar_plain {character : Char} (plain : isPlain character) :
    escapeChar character = [character] := by
  simp only [isPlain, Bool.and_eq_true, bne_iff_ne, decide_eq_true_eq] at plain
  obtain ⟨⟨quote, backslash⟩, printed⟩ := plain
  unfold escapeChar
  split
  · exact absurd rfl quote
  · exact absurd rfl backslash
  · exact absurd printed (by decide)
  · exact absurd printed (by decide)
  · exact absurd printed (by decide)
  · exact absurd printed (by decide)
  · exact absurd printed (by decide)
  · rw [if_neg (by omega)]

theorem writeString_plain {text : String} (plain : text.toList.all isPlain) :
    writeString text = '"' :: text.toList ++ ['"'] := by
  have same : text.toList.flatMap escapeChar = text.toList := by
    generalize text.toList = characters at plain
    induction characters with
    | nil => rfl
    | cons first rest ih =>
      rw [List.all_cons, Bool.and_eq_true] at plain
      rw [List.flatMap_cons, escapeChar_plain plain.1, ih plain.2,
        List.singleton_append]
  rw [writeString, same]

/-- A member is written with its name, a colon and its value. -/
theorem writeMembers_length (member : (key, value) ∈ members) :
    Text.byteLength (writeString key) + 1 + Text.byteLength value.write ≤
      Text.byteLength (writeMembers members) := by
  induction members with
  | nil => cases member
  | cons first rest ih =>
    obtain ⟨name, held⟩ := first
    cases rest with
    | nil =>
      rw [List.mem_singleton, Prod.mk.injEq] at member
      obtain ⟨rfl, rfl⟩ := member
      simp only [writeMembers, Text.byteLength_append, Text.byteLength_cons]
      have colon : ':'.utf8Size = 1 := by decide
      omega
    | cons next others =>
      simp only [writeMembers, Text.byteLength_append, Text.byteLength_cons]
      have colon : ':'.utf8Size = 1 := by decide
      rcases List.mem_cons.mp member with same | later
      · rw [Prod.mk.injEq] at same
        obtain ⟨rfl, rfl⟩ := same
        omega
      · have longer := ih later
        omega

example : (Value.object [("a", .array [.null, .bool true]), ("b", .number (-5))]).write =
    "\x7b\"a\":[null,true],\"b\":-5\x7d".toList := by
  decide

end JsonValues
