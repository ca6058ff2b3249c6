import Plug.Text

/-!
# Tool names and the rules that match them

A tool is listed under a wire name: a prefix, a delimiter and the tool's name.
While two servers share a prefix, each server's name is added to it, so a tool
has a name under either naming. Rules switch tools off by patterns in which `*`
stands for any text; they match names without regard to ASCII case.
-/

namespace Plug.ToolNaming

open Text

/-- The prefix a server's name gives: its first letter raised, and two brand
spellings. The model is used on the ASCII words of a server name only, where
raising a letter is the ASCII operation. -/
def formatServerPrefix (serverName : List Char) : List Char :=
  if toAsciiLowercase serverName = "github".toList then "GitHub".toList
  else if toAsciiLowercase serverName = "imessage".toList then "IMessage".toList
  else
    match serverName with
    | [] => []
    | first :: rest => first.toUpper :: rest

/-- A shared prefix with the server added. -/
def prefixForServer (shared serverName : List Char) : List Char :=
  let words := (serverName.splitOnP fun character => !character.isAlphanum).filter (· ≠ [])
  words.foldl (fun qualified word => qualified ++ formatServerPrefix word) shared

/-- The names a tool has under the other naming of its server. -/
def otherNames (wireName serverName delimiter : List Char) : List (List Char) :=
  match splitOnce delimiter wireName with
  | none => []
  | some (shared, rest) =>
    let suffix := prefixForServer [] serverName
    if suffix = [] then []
    else
      let unnumbered := trimEndMatches Char.isDigit shared
      let base := (stripSuffix suffix unnumbered).filter (· ≠ [])
      (shared ++ suffix ++ delimiter ++ rest) ::
        (base.map fun base => base ++ delimiter ++ rest).toList

/-- The parts of a pattern still to be found, in order, in the rest of the text.
`first` holds until a part has been found. -/
def matchParts (pattern : List Char) : Bool → List Char → List (List Char) → Bool
  | _, _, [] => true
  | first, remainder, part :: rest =>
    if part = [] then matchParts pattern first remainder rest
    else if first && pattern.head? != some '*' then
      part.isPrefixOf remainder && matchParts pattern false (remainder.drop part.length) rest
    else if rest.isEmpty && pattern.getLast? != some '*' then part.isSuffixOf remainder
    else
      match find part remainder with
      | some found => matchParts pattern false (remainder.drop (found + part.length)) rest
      | none => false

def wildcardMatch (pattern text : List Char) : Bool :=
  if pattern = ['*'] then true
  else
    let parts := pattern.splitOn '*'
    if parts.length = 1 then pattern == text else matchParts pattern true text parts

def isDisabledTool (patterns : List (List Char)) (toolName : List Char) : Bool :=
  if patterns.isEmpty then false
  else
    patterns.any fun pattern =>
      if pattern.all fun character => !character.isUpper then
        wildcardMatch pattern (toAsciiLowercase toolName)
      else wildcardMatch (toAsciiLowercase pattern) (toAsciiLowercase toolName)

example : otherNames "GmailWork2__send".toList "work".toList "__".toList =
    ["GmailWork2Work__send".toList, "Gmail__send".toList] := by
  decide

/-- A pattern without a star matches nothing but itself. -/
theorem wildcardMatch_plain {pattern : List Char} (plain : '*' ∉ pattern) (text : List Char) :
    wildcardMatch pattern text = decide (pattern = text) := by
  have other : pattern ≠ ['*'] := by
    rintro rfl
    exact plain List.mem_cons_self
  rw [wildcardMatch, if_neg other, List.splitOn_eq_singleton plain]
  dsimp only
  rw [List.length_singleton, if_pos rfl, beq_eq_decide]

example : wildcardMatch "slack__*_message".toList "slack__send_message".toList = true := by
  decide

theorem isUpper_toLower (character : Char) : character.toLower.isUpper = false := by
  delta Char.toLower Char.isUpper
  split
  · simp_all
    grind
  · simp_all

/-- A folded pattern is matched as it stands. -/
theorem isDisabledTool_folded (pattern toolName : List Char) :
    isDisabledTool [toAsciiLowercase pattern] toolName =
      wildcardMatch (toAsciiLowercase pattern) (toAsciiLowercase toolName) := by
  have folded : ((toAsciiLowercase pattern).all fun character => !character.isUpper) = true := by
    rw [List.all_eq_true]
    intro character member
    obtain ⟨letter, -, rfl⟩ := List.mem_map.mp member
    rw [isUpper_toLower, Bool.not_false]
  rw [isDisabledTool, List.isEmpty_cons, if_neg Bool.false_ne_true, List.any_cons, List.any_nil,
    Bool.or_false, if_pos folded]

end Plug.ToolNaming
