import Mathlib.Algebra.Ring.Nat

/-!
# Text as a list of characters

The string operations the source uses, over lists of characters. Byte offsets
play no part in any result, so a prefix, a suffix or a remainder of a string is
that of its characters. Case folding is ASCII only, as in `to_ascii_lowercase`.
-/

namespace Text

/-- Membership among texts is decided by one instance everywhere. -/
instance lawfulTexts : LawfulBEq (List Char) := inferInstance

/-- `str::to_ascii_lowercase`. -/
def toAsciiLowercase (text : List Char) : List Char :=
  text.map Char.toLower

/-- `str::find` for a string: where its first occurrence starts. -/
def find (needle : List Char) : List Char → Option Nat
  | [] => if needle = [] then some 0 else none
  | character :: rest =>
    if needle.isPrefixOf (character :: rest) then some 0
    else (find needle rest).map (· + 1)

/-- `str::split_once`: the text before and after the first delimiter. -/
def splitOnce (delimiter text : List Char) : Option (List Char × List Char) :=
  (find delimiter text).map fun start =>
    (text.take start, text.drop (start + delimiter.length))

/-- `str::trim_end_matches` for a class of characters. -/
def trimEndMatches (trimmed : Char → Bool) (text : List Char) : List Char :=
  (text.reverse.dropWhile trimmed).reverse

/-- `str::strip_prefix`. -/
def stripPrefix (start text : List Char) : Option (List Char) :=
  if start.isPrefixOf text then some (text.drop start.length) else none

/-- `str::strip_suffix`. -/
def stripSuffix (ending text : List Char) : Option (List Char) :=
  if ending.isSuffixOf text then some (text.take (text.length - ending.length)) else none

/-- `str::contains` for a string. -/
def contains (needle text : List Char) : Bool :=
  (find needle text).isSome

/-- `str::len`: the number of bytes. -/
def byteLength (text : List Char) : Nat :=
  (text.map Char.utf8Size).sum

theorem byteLength_append (first second : List Char) :
    byteLength (first ++ second) = byteLength first + byteLength second := by
  simp [byteLength]

theorem byteLength_cons (character : Char) (rest : List Char) :
    byteLength (character :: rest) = character.utf8Size + byteLength rest := rfl

/-- `str::parse::<u64>`. -/
def parseU64 (text : List Char) : Option Nat :=
  let digits := (stripPrefix ['+'] text).getD text
  if digits.isEmpty || digits.any (fun character => !character.isDigit) then none
  else
    let value := digits.foldl (fun value character => value * 10 + (character.toNat - 48)) 0
    if value ≤ 18446744073709551615 then some value else none

/-- `char::is_whitespace`: the Unicode white space characters. -/
def isWhitespace (character : Char) : Bool :=
  let code := character.toNat
  (9 ≤ code && code ≤ 13) || code == 32 || code == 0x85 || code == 0xA0 || code == 0x1680 ||
    (0x2000 ≤ code && code ≤ 0x200A) || code == 0x2028 || code == 0x2029 || code == 0x202F ||
    code == 0x205F || code == 0x3000

/-- `char::is_control`. -/
def isControl (character : Char) : Bool :=
  let code := character.toNat
  code < 0x20 || (0x7F ≤ code && code ≤ 0x9F)

/-- `str::trim`. -/
def trim (text : List Char) : List Char :=
  trimEndMatches isWhitespace (text.dropWhile isWhitespace)

/-- `str::split_whitespace`: the runs of characters that are not white space. -/
def splitWhitespace (text : List Char) : List (List Char) :=
  let runs := text.foldr (fun character runs =>
    match runs with
    | [] => []
    | run :: rest =>
      if isWhitespace character then [] :: run :: rest else (character :: run) :: rest) [[]]
  runs.filter (· ≠ [])

example : splitWhitespace " ab  c ".toList = ["ab".toList, "c".toList] := by decide

/-- `str::to_lowercase`, as far as a search for ASCII text can tell. Besides the
capital ASCII letters, the Kelvin sign and the dotted capital I are the only
characters whose lower case has an ASCII character in it. -/
def toLowercase (text : List Char) : List Char :=
  text.flatMap fun character =>
    if character.toNat = 0x212A then ['k']
    else if character.toNat = 0x130 then ['i', Char.ofNat 0x307]
    else [character.toLower]

/-- The decimal digits of a number tell it. -/
theorem toDigits_injective {number other : Nat}
    (same : Nat.toDigits 10 number = Nat.toDigits 10 other) : number = other := by
  rw [← Nat.ofDigitChars_ten_toDigits (n := number), same, Nat.ofDigitChars_ten_toDigits]

end Text
