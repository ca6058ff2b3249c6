import Plug.CatalogSnapshot
import Plug.TextSearch

/-!
# Rules and renamed tools

A tool gets another wire name when its server starts or stops to share a prefix with another one.
A rule for either name holds for the tool if each name is among the other names of the other. That
is so between the plain prefix and the one with the server added, but a name with a number is not
found from the others.
-/

namespace Plug.Catalog

open Text ToolNaming

/-- The wire name of a tool whose prefix, if servers share it, is one of the server's own. -/
def wireNameAmong (claims : List (List Char × List Char)) (inUse : List (List Char))
    (wirePrefix serverName toolName delimiter : List Char) : List Char :=
  buildWireName
    (((prefixesForServers claims inUse).lookup (wirePrefix, serverName)).getD wirePrefix)
    toolName delimiter

/-- Up to its first delimiter the one name is not empty, and the other has the server added there
and nothing else. -/
def Qualifies (serverName delimiter plain qualified : List Char) : Prop :=
  ∃ shared rest, shared ≠ [] ∧ splitOnce delimiter plain = some (shared, rest) ∧
    splitOnce delimiter qualified = some (shared ++ prefixForServer [] serverName, rest)

/-- The words of the server's name end in a letter. -/
def EndsInLetter (serverName : List Char) : Prop :=
  ∃ character, (prefixForServer [] serverName).getLast? = some character ∧
    character.isDigit = false

section OtherNames

variable {serverName delimiter wireName name : List Char}

theorem mem_otherNames_iff : name ∈ otherNames wireName serverName delimiter ↔
    ∃ shared rest, splitOnce delimiter wireName = some (shared, rest) ∧
      prefixForServer [] serverName ≠ [] ∧
      (name = shared ++ prefixForServer [] serverName ++ delimiter ++ rest ∨
        ∃ base, base ≠ [] ∧
          trimEndMatches Char.isDigit shared = base ++ prefixForServer [] serverName ∧
          name = base ++ delimiter ++ rest) := by
  rw [otherNames]
  cases split : splitOnce delimiter wireName with
  | none => simp
  | some parts =>
    obtain ⟨shared, rest⟩ := parts
    dsimp only
    by_cases empty : prefixForServer [] serverName = []
    · rw [if_pos empty]
      simp [empty]
    · rw [if_neg empty]
      simp only [List.mem_cons, Option.mem_toList, Option.map_eq_some_iff,
        Option.filter_eq_some_iff, stripSuffix_eq_some_iff, decide_eq_true_eq, Option.some.injEq,
        Prod.mk.injEq]
      constructor
      · rintro (added | ⟨base, ⟨whole, kept⟩, rfl⟩)
        · exact ⟨shared, rest, ⟨rfl, rfl⟩, empty, Or.inl added⟩
        · exact ⟨shared, rest, ⟨rfl, rfl⟩, empty, Or.inr ⟨base, kept, whole, rfl⟩⟩
      · rintro ⟨_, _, ⟨rfl, rfl⟩, _, added | ⟨base, kept, whole, rfl⟩⟩
        · exact Or.inl added
        · exact Or.inr ⟨base, ⟨whole, kept⟩, rfl⟩

end OtherNames

section Pairs

variable {serverName delimiter plain qualified : List Char}

/-- The plain name and the one with the server added know each other. -/
theorem known_of_qualifies (letter : EndsInLetter serverName)
    (qualifies : Qualifies serverName delimiter plain qualified) :
    qualified ∈ otherNames plain serverName delimiter ∧
      plain ∈ otherNames qualified serverName delimiter := by
  obtain ⟨shared, rest, nonempty, plainSplit, qualifiedSplit⟩ := qualifies
  obtain ⟨character, last, kept⟩ := letter
  have words : prefixForServer [] serverName ≠ [] := by
    intro empty
    rw [empty] at last
    cases last
  constructor
  · refine mem_otherNames_iff.mpr ⟨shared, rest, plainSplit, words, Or.inl ?_⟩
    exact (splitOnce_eq_some_iff.mp qualifiedSplit).1
  · refine mem_otherNames_iff.mpr ⟨_, rest, qualifiedSplit, words, Or.inr ⟨shared, nonempty, ?_, ?_⟩⟩
    · refine trimEndMatches_of_last ?_ kept
      rw [List.getLast?_append, last]
      rfl
    · exact (splitOnce_eq_some_iff.mp plainSplit).1

/-- The name with the server added is found from the plain one, and leads back to it. -/
theorem qualifies_of_known {shared rest base tail : List Char}
    (words : prefixForServer [] serverName ≠ [])
    (plainSplit : splitOnce delimiter plain = some (shared, rest))
    (added : qualified = shared ++ prefixForServer [] serverName ++ delimiter ++ rest)
    {front : List Char} (qualifiedSplit : splitOnce delimiter qualified = some (front, tail))
    (nonempty : base ≠ [])
    (trims : trimEndMatches Char.isDigit front = base ++ prefixForServer [] serverName)
    (back : plain = base ++ delimiter ++ tail) :
    EndsInLetter serverName ∧ Qualifies serverName delimiter plain qualified := by
  obtain ⟨plainWhole, plainFirst⟩ := splitOnce_eq_some_iff.mp plainSplit
  obtain ⟨qualifiedWhole, qualifiedFirst⟩ := splitOnce_eq_some_iff.mp qualifiedSplit
  have plainLength := congrArg List.length (plainWhole.symm.trans back)
  have qualifiedLength := congrArg List.length (added.symm.trans qualifiedWhole)
  simp only [List.length_append] at plainLength qualifiedLength
  -- nothing was trimmed, as the lengths show
  have whole : front = base ++ prefixForServer [] serverName := by
    have kept := trimEndMatches_starts Char.isDigit front
    rw [trims] at kept
    refine (kept.eq_of_length ?_).symm
    rw [List.length_append]
    omega
  -- an earlier delimiter in the plain name would be one in the other name
  have same : shared = base := by
    have shorter : shared.length ≤ base.length := by
      by_contra longer
      apply plainFirst base.length (by omega)
      rw [back, List.append_assoc, List.drop_left]
      exact List.prefix_append _ _
    have longer : base.length ≤ shared.length := by
      by_contra shorter
      apply qualifiedFirst (shared.length + (prefixForServer [] serverName).length)
      · rw [whole, List.length_append]
        omega
      · rw [added, List.append_assoc, ← List.length_append, List.drop_left]
        exact List.prefix_append _ _
    have starts : shared <+: base ++ delimiter ++ tail := by
      rw [← back, plainWhole, List.append_assoc]
      exact List.prefix_append _ _
    rw [List.append_assoc] at starts
    have inside := List.prefix_of_prefix_length_le starts (List.prefix_append base _) shorter
    exact inside.eq_of_length (Nat.le_antisymm shorter longer)
  have tails : rest = tail := by
    rw [plainWhole, same] at back
    exact List.append_cancel_left back
  constructor
  · have last := List.getLast?_eq_some_getLast words
    have ends : (trimEndMatches Char.isDigit front).getLast? =
        some ((prefixForServer [] serverName).getLast words) := by
      rw [trims, List.getLast?_append, last]
      rfl
    exact ⟨_, last, trimEndMatches_last ends⟩
  · refine ⟨base, tail, nonempty, ?_, ?_⟩
    · rw [plainSplit, same, tails]
    · rw [qualifiedSplit, whole]

/-- Two names know each other exactly if one is the other with the server added, whose words end in
a letter. -/
theorem known_iff (serverName delimiter first second : List Char) :
    (second ∈ otherNames first serverName delimiter ∧
        first ∈ otherNames second serverName delimiter) ↔
      EndsInLetter serverName ∧
        (Qualifies serverName delimiter first second ∨
          Qualifies serverName delimiter second first) := by
  constructor
  · rintro ⟨forward, backward⟩
    obtain ⟨shared, rest, firstSplit, words, forward⟩ := mem_otherNames_iff.mp forward
    obtain ⟨front, tail, secondSplit, _, backward⟩ := mem_otherNames_iff.mp backward
    have firstLength := congrArg List.length (splitOnce_eq_some_iff.mp firstSplit).1
    have secondLength := congrArg List.length (splitOnce_eq_some_iff.mp secondSplit).1
    have longer := List.length_pos_iff.mpr words
    rcases forward with added | ⟨base, nonempty, trims, shortened⟩
    · rcases backward with again | ⟨base, nonempty, trims, back⟩
      · have further := congrArg List.length added
        have once := congrArg List.length again
        simp only [List.length_append] at firstLength secondLength further once
        omega
      · obtain ⟨letter, qualifies⟩ :=
          qualifies_of_known words firstSplit added secondSplit nonempty trims back
        exact ⟨letter, Or.inl qualifies⟩
    · rcases backward with added | ⟨other, _, otherTrims, otherShortened⟩
      · obtain ⟨letter, qualifies⟩ :=
          qualifies_of_known words secondSplit added firstSplit nonempty trims shortened
        exact ⟨letter, Or.inr qualifies⟩
      · have kept := (trimEndMatches_starts Char.isDigit shared).length_le
        have otherKept := (trimEndMatches_starts Char.isDigit front).length_le
        have further := congrArg List.length shortened
        have once := congrArg List.length otherShortened
        rw [trims] at kept
        rw [otherTrims] at otherKept
        simp only [List.length_append] at firstLength secondLength further once kept otherKept
        omega
  · rintro ⟨letter, qualifies | qualifies⟩
    · exact known_of_qualifies letter qualifies
    · exact (known_of_qualifies letter qualifies).symm

end Pairs

/-- Whatever servers come and go: a rule for either of the names that a tool has before and after
holds under the other exactly if, up to the first delimiter, one name is the other with the
server's words behind it and no number, and these words end in a letter. -/
theorem rule_survives_iff (serverName wirePrefix toolName delimiter : List Char)
    (claims nextClaims : List (List Char × List Char)) (inUse nextInUse : List (List Char)) :
    (wireNameAmong nextClaims nextInUse wirePrefix serverName toolName delimiter ∈
          otherNames (wireNameAmong claims inUse wirePrefix serverName toolName delimiter)
            serverName delimiter ∧
        wireNameAmong claims inUse wirePrefix serverName toolName delimiter ∈
          otherNames (wireNameAmong nextClaims nextInUse wirePrefix serverName toolName delimiter)
            serverName delimiter) ↔
      EndsInLetter serverName ∧
        (Qualifies serverName delimiter
            (wireNameAmong claims inUse wirePrefix serverName toolName delimiter)
            (wireNameAmong nextClaims nextInUse wirePrefix serverName toolName delimiter) ∨
          Qualifies serverName delimiter
            (wireNameAmong nextClaims nextInUse wirePrefix serverName toolName delimiter)
            (wireNameAmong claims inUse wirePrefix serverName toolName delimiter)) :=
  known_iff serverName delimiter _ _

/-- A second account whose name reads the same takes the name without a number. -/
def twoAccounts : List (List Char × List Char) :=
  [("Gmail".toList, "google-work".toList), ("Gmail".toList, "google_work".toList)]

/-- The name with a number is not found from the plain one. -/
theorem numbered_unknown :
    ¬ ∀ (serverName wirePrefix toolName delimiter : List Char)
      (claims nextClaims : List (List Char × List Char)) (inUse nextInUse : List (List Char)),
      wireNameAmong claims inUse wirePrefix serverName toolName delimiter ≠
          wireNameAmong nextClaims nextInUse wirePrefix serverName toolName delimiter →
      wireNameAmong nextClaims nextInUse wirePrefix serverName toolName delimiter ∈
          otherNames (wireNameAmong claims inUse wirePrefix serverName toolName delimiter)
            serverName delimiter ∧
        wireNameAmong claims inUse wirePrefix serverName toolName delimiter ∈
          otherNames (wireNameAmong nextClaims nextInUse wirePrefix serverName toolName delimiter)
            serverName delimiter := by
  intro known
  have renamed := known "google_work".toList "Gmail".toList "send".toList "__".toList []
    twoAccounts [] [] (by decide +kernel)
  have missing : "GmailGoogleWork2__send".toList ∉
      otherNames "Gmail__send".toList "google_work".toList "__".toList := by decide
  have plain : wireNameAmong [] [] "Gmail".toList "google_work".toList "send".toList "__".toList =
      "Gmail__send".toList := by decide
  have numbered : wireNameAmong twoAccounts [] "Gmail".toList "google_work".toList "send".toList
      "__".toList = "GmailGoogleWork2__send".toList := by decide +kernel
  rw [plain, numbered] at renamed
  exact missing renamed.1

end Plug.Catalog
