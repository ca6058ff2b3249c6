/-!
# JSON values

A parsed JSON document, and how code reads it: a member that is missing reads as null, and a
value of another kind has no text, number or members.
-/

namespace JsonValues

inductive Value where
  | null
  | bool (value : Bool)
  /-- A number that is a 64-bit integer. -/
  | number (value : Int)
  /-- Any other number, as it is written. -/
  | decimal (text : String)
  | string (text : String)
  | array (items : List Value)
  | object (members : List (String × Value))

def Value.member? (value : Value) (key : String) : Option Value :=
  match value with
  | .object members => (members.find? fun member => member.1 = key).map Prod.snd
  | _ => none

def Value.get (value : Value) (key : String) : Value :=
  (value.member? key).getD .null

def Value.asStr : Value → Option String
  | .string text => some text
  | _ => none

def Value.asNat : Value → Option Nat
  | .number value => if 0 ≤ value then some value.toNat else none
  | _ => none

def Value.asArray : Value → Option (List Value)
  | .array items => some items
  | _ => none

def Value.asObject : Value → Option (List (String × Value))
  | .object members => some members
  | _ => none

def Value.isNull : Value → Bool
  | .null => true
  | _ => false

def Value.isText (value : Value) (text : String) : Bool :=
  value.asStr = some text

def Value.isFalse : Value → Bool
  | .bool value => !value
  | _ => false

/-- Every key of the members is one of these. -/
def keysAmong (allowed : List String) (members : List (String × Value)) : Bool :=
  members.all fun member => allowed.contains member.1

end JsonValues
