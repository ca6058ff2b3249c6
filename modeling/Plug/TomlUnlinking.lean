import Plug.TomlLines

/-!
# Taking Plug out of a TOML file

A client's TOML file is cleared of Plug's tables line by line: a line that is one of three spellings
of the header starts what is left out, and a header that does not mention Plug ends it. What tables
and keys the lines define decides what has been taken out.
-/

namespace Plug.TomlUnlinking

open Text (trim contains lines joinLines Whole)
open Toml (Name Line Definition readLine definitions Readable)

def plugHeaders : List (List Char) :=
  ["[mcp_servers.plug]".toList, "[[mcp_servers.plug]]".toList, "[mcp_servers.\"plug\"]".toList]

def mentionsPlug (trimmed : List Char) : Bool :=
  contains ".plug".toList trimmed || contains "\"plug\"".toList trimmed

/-- The lines that `unlink_toml` keeps, from a line on. -/
def keptLines : Bool → List (List Char) → List (List Char)
  | _, [] => []
  | skipping, line :: rest =>
    let trimmed := trim line
    if trimmed ∈ plugHeaders then keptLines true rest
    else if skipping then
      if trimmed.head? = some '[' ∧ mentionsPlug trimmed = false then line :: keptLines false rest
      else keptLines true rest
    else line :: keptLines false rest

def unlinkToml (content : List Char) : List Char :=
  joinLines (keptLines false (lines content))

/-! ### What is to be taken out -/

def plugPath : List Name := ["mcp_servers".toList, "plug".toList]

section Texts

variable {Value : Type} (isTable : Value → Bool) (readValue : List Char → Option Value)

/-- Plug's table or a table in it, a key in one of them, or the key that holds Plug's table as its
value. -/
def ofPlug : Definition Value → Bool
  | .table _ path => plugPath.isPrefixOf path
  | .entry path value => plugPath.isPrefixOf path && (path ≠ plugPath || isTable value)

def remains (definition : Definition Value) : Bool := !ofPlug isTable definition

/-- The text without Plug is one of TOML and defines all that is not Plug's, and to take Plug out
again changes nothing. -/
structure Unlinked (content : List Char) : Prop where
  readable : Readable readValue (lines (unlinkToml content))
  others : definitions readValue [] (lines (unlinkToml content)) =
    (definitions readValue [] (lines content)).filter (remains isTable)
  again : unlinkToml (unlinkToml content) = unlinkToml content

/-- The headers of Plug's tables are seen and no others taken for them, and nothing of Plug's is
defined elsewhere. `current` is the table that the lines begin in. -/
def InOrder : List Name → List (List Char) → Prop
  | _, [] => True
  | current, line :: rest =>
    match readLine readValue line with
    | some (.table _ path) =>
      (if plugPath.isPrefixOf path = true then
        trim line ∈ plugHeaders ∨
          plugPath.isPrefixOf current = true ∧ mentionsPlug (trim line) = true
      else plugPath.isPrefixOf current = true → mentionsPlug (trim line) = false) ∧
        InOrder path rest
    | some (.entry path value) =>
      (ofPlug isTable (.entry (current ++ path) value) = true → plugPath.isPrefixOf current = true) ∧
        InOrder current rest
    | _ => InOrder current rest

instance InOrder.decidable : ∀ current lines, Decidable (InOrder isTable readValue current lines)
  | _, [] => isTrue trivial
  | current, line :: rest =>
    match found : readLine readValue line with
    | none =>
      have : Decidable (InOrder isTable readValue current rest) := InOrder.decidable current rest
      decidable_of_iff (InOrder isTable readValue current rest) (by simp [InOrder, found])
    | some .nothing =>
      have : Decidable (InOrder isTable readValue current rest) := InOrder.decidable current rest
      decidable_of_iff (InOrder isTable readValue current rest) (by simp [InOrder, found])
    | some (.table array path) =>
      have : Decidable (InOrder isTable readValue path rest) := InOrder.decidable path rest
      decidable_of_iff
        ((if plugPath.isPrefixOf path = true then
          trim line ∈ plugHeaders ∨
            plugPath.isPrefixOf current = true ∧ mentionsPlug (trim line) = true
        else plugPath.isPrefixOf current = true → mentionsPlug (trim line) = false) ∧
          InOrder isTable readValue path rest)
        (by simp only [InOrder, found])
    | some (.entry path value) =>
      have : Decidable (InOrder isTable readValue current rest) := InOrder.decidable current rest
      decidable_of_iff
        ((ofPlug isTable (.entry (current ++ path) value) = true →
          plugPath.isPrefixOf current = true) ∧ InOrder isTable readValue current rest)
        (by simp only [InOrder, found])

/-- The lines outside Plug's tables. -/
def outside : List Name → List (List Char) → List (List Char)
  | _, [] => []
  | current, line :: rest =>
    let current := match readLine readValue line with
      | some (.table _ path) => path
      | _ => current
    if plugPath.isPrefixOf current = true then outside current rest
    else line :: outside current rest

end Texts

variable {Value : Type} {isTable : Value → Bool} {readValue : List Char → Option Value}
  {line content : List Char} {rest : List (List Char)} {skipping : Bool}
  {current path : List Name} {array : Bool} {value : Value}

/-! ### One line -/

theorem readContent_plugHeader {header : List Char} (member : header ∈ plugHeaders)
    (ending : List Char) : ∃ array, Toml.readContent readValue (header ++ ending) =
      if Toml.ended ending = true then some (.table array plugPath) else none := by
  simp only [plugHeaders, List.mem_cons, List.not_mem_nil, or_false] at member
  rcases member with rfl | rfl | rfl
  · exact ⟨false, rfl⟩
  · exact ⟨true, rfl⟩
  · exact ⟨false, rfl⟩

/-- The three headers are headers of Plug's table. -/
theorem plugHeaders_path {read : Line Value} (header : trim line ∈ plugHeaders)
    (found : readLine readValue line = some read) : ∃ array, read = .table array plugPath := by
  have start := Toml.readLine_start found
  have starts := Text.trimEndMatches_starts Text.isWhitespace (line.dropWhile Text.isWhitespace)
  rw [← trim, start] at starts
  obtain ⟨ending, whole⟩ := starts
  obtain ⟨array, content⟩ := @readContent_plugHeader _ readValue _ header ending
  rw [whole] at content
  unfold readLine at found
  split at found
  · rw [content] at found
    split at found
    · exact ⟨array, (Option.some.inj found).symm⟩
    · cases found
  · cases found

/-- The line is left out by a loop that is skipping lines or not. -/
def drops (skipping : Bool) (line : List Char) : Bool :=
  trim line ∈ plugHeaders ||
    skipping && !((trim line).head? = some '[' && !mentionsPlug (trim line))

theorem keptLines_cons : keptLines skipping (line :: rest) =
    if drops skipping line = true then keptLines true rest else line :: keptLines false rest := by
  rw [keptLines]
  unfold drops
  by_cases header : trim line ∈ plugHeaders
  · simp [header]
  · cases skipping with
    | false => simp [header]
    | true =>
      by_cases ends : (trim line).head? = some '[' ∧ mentionsPlug (trim line) = false
      · simp [header, ends]
      · simp only [header, if_false, if_true, ends]
        rw [if_pos]
        by_cases bracket : (trim line).head? = some '['
        · simpa [bracket] using ends
        · simp [bracket]

theorem drops_table (read : readLine readValue line = some (.table array path)) :
    drops skipping line = true ↔
      trim line ∈ plugHeaders ∨ skipping = true ∧ mentionsPlug (trim line) = true := by
  have bracket := (Toml.trim_bracket read).mpr ⟨array, path, rfl⟩
  simp [drops, bracket]

/-- Only a header changes what the loop does. -/
theorem drops_other {read : Line Value} (found : readLine readValue line = some read)
    (other : ∀ array path, read ≠ .table array path) : drops skipping line = skipping := by
  have plain : (trim line).head? ≠ some '[' := by
    intro bracket
    obtain ⟨array, path, same⟩ := (Toml.trim_bracket found).mp bracket
    exact other array path same
  have unseen : trim line ∉ plugHeaders := by
    intro header
    obtain ⟨array, same⟩ := plugHeaders_path header found
    exact other array plugPath same
  simp [drops, plain, unseen]

/-! ### All lines -/

theorem kept_sublist (readable : Readable readValue rest) {before : List Name}
    (same : skipping = false → before = current) :
    (definitions readValue before (keptLines skipping rest)).Sublist
      (definitions readValue current rest) := by
  induction rest generalizing skipping before current with
  | nil => exact List.Sublist.refl _
  | cons line rest ih =>
    have readableRest : Readable readValue rest :=
      fun text member => readable text (List.mem_cons_of_mem line member)
    obtain ⟨read, found⟩ := Option.isSome_iff_exists.mp (readable line (List.mem_cons_self ..))
    rw [keptLines_cons]
    cases read with
    | nothing =>
      rw [drops_other found nofun, Toml.definitions_nothing found]
      cases skipping with
      | true => exact ih readableRest nofun
      | false =>
        rw [if_neg Bool.false_ne_true, Toml.definitions_nothing found]
        exact ih readableRest same
    | table array path =>
      rw [Toml.definitions_table found]
      split
      · apply List.Sublist.cons
        exact ih readableRest nofun
      · rw [Toml.definitions_table found]
        apply List.Sublist.cons_cons
        exact ih readableRest fun _ => rfl
    | entry path value =>
      rw [drops_other found nofun, Toml.definitions_entry found]
      cases skipping with
      | true =>
        apply List.Sublist.cons
        exact ih readableRest nofun
      | false =>
        rw [if_neg Bool.false_ne_true, Toml.definitions_entry found, same rfl]
        apply List.Sublist.cons_cons
        exact ih readableRest fun _ => rfl

/-- What is left after something that is to stay was left out is not all that is to stay. -/
theorem sublist_ne_cons_filter {Item : Type} {stays : Item → Bool} {item : Item}
    {left all : List Item} (sublist : left.Sublist all) (stay : stays item = true) :
    left ≠ item :: all.filter stays := by
  intro same
  have filtered := sublist.filter stays
  have kept : left.filter stays = left := by
    rw [same, List.filter_cons_of_pos stay, List.filter_filter]
    simp only [Bool.and_self]
  rw [kept, same] at filtered
  have longer := filtered.length_le
  rw [List.length_cons] at longer
  omega

theorem cons_ne_filter {Item : Type} {stays : Item → Bool} {item : Item} {left all : List Item}
    (goes : stays item = false) : item :: left ≠ all.filter stays := by
  intro same
  have member : item ∈ all.filter stays := same ▸ List.mem_cons_self ..
  have stay := (List.mem_filter.mp member).2
  rw [goes] at stay
  cases stay

/-- A key in a table of Plug's is Plug's. -/
theorem ofPlug_entry (inside : plugPath.isPrefixOf current = true) (named : path ≠ []) :
    ofPlug isTable (.entry (current ++ path) value) = true := by
  obtain ⟨later, rfl⟩ := List.isPrefixOf_iff_prefix.mp inside
  have starts : plugPath.isPrefixOf (plugPath ++ later ++ path) = true := by
    rw [List.isPrefixOf_iff_prefix, List.append_assoc]
    exact List.prefix_append plugPath (later ++ path)
  have longer : plugPath ++ later ++ path ≠ plugPath := by
    intro same
    have empty := List.append_right_eq_self.mp ((List.append_assoc ..).symm.trans same)
    exact named (List.append_eq_nil_iff.mp empty).2
  rw [ofPlug, starts, Bool.true_and, decide_eq_true longer, Bool.true_or]

/-- What is left is all that is not Plug's exactly if the lines are in order. -/
theorem kept_iff (readable : Readable readValue rest) {before : List Name}
    (state : skipping = plugPath.isPrefixOf current)
    (same : skipping = false → before = current) :
    definitions readValue before (keptLines skipping rest) =
        (definitions readValue current rest).filter (remains isTable) ↔
      InOrder isTable readValue current rest := by
  induction rest generalizing skipping before current with
  | nil => exact iff_of_true rfl trivial
  | cons line rest ih =>
    have readableRest : Readable readValue rest :=
      fun text member => readable text (List.mem_cons_of_mem line member)
    obtain ⟨read, found⟩ := Option.isSome_iff_exists.mp (readable line (List.mem_cons_self ..))
    rw [keptLines_cons, InOrder, found]
    cases read with
    | nothing =>
      rw [drops_other found nofun, Toml.definitions_nothing found]
      cases skipping with
      | true => exact ih readableRest state nofun
      | false =>
        rw [if_neg Bool.false_ne_true, Toml.definitions_nothing found]
        exact ih readableRest state same
    | table array path =>
      dsimp only
      rw [Toml.definitions_table found]
      by_cases drop : drops skipping line = true
      · have reason := (drops_table found).mp drop
        rw [if_pos drop]
        by_cases plug : plugPath.isPrefixOf path = true
        · rw [state] at reason
          rw [List.filter_cons_of_neg (by simp [remains, ofPlug, plug]), if_pos plug, and_iff_right reason]
          exact ih readableRest plug.symm nofun
        · have stays : remains isTable (.table array path) = true := by
            simp [remains, ofPlug, plug]
          rw [List.filter_cons_of_pos stays, if_neg plug]
          refine iff_of_false (sublist_ne_cons_filter (kept_sublist readableRest nofun) stays) ?_
          rintro ⟨unmentioned, -⟩
          rcases reason with header | ⟨skips, mentions⟩
          · obtain ⟨other, own⟩ := plugHeaders_path header found
            cases own
            exact plug (by decide)
          · rw [unmentioned (state.symm.trans skips)] at mentions
            cases mentions
      · rw [if_neg drop, Toml.definitions_table found]
        by_cases plug : plugPath.isPrefixOf path = true
        · rw [List.filter_cons_of_neg (by simp [remains, ofPlug, plug]), if_pos plug]
          refine iff_of_false (cons_ne_filter ?_) ?_
          · simp [remains, ofPlug, plug]
          · rintro ⟨seen, -⟩
            rw [← state] at seen
            exact drop ((drops_table found).mpr seen)
        · have unmentioned : plugPath.isPrefixOf current = true →
              mentionsPlug (trim line) = false := by
            intro inside
            by_contra mentions
            rw [Bool.not_eq_false] at mentions
            exact drop ((drops_table found).mpr (.inr ⟨state.trans inside, mentions⟩))
          rw [List.filter_cons_of_pos (by simp [remains, ofPlug, plug]), if_neg plug,
            and_iff_right unmentioned, List.cons.injEq, and_iff_right rfl]
          exact ih readableRest (Bool.eq_false_iff.mpr plug).symm
            fun _ => rfl
    | entry path value =>
      dsimp only
      rw [drops_other found nofun, Toml.definitions_entry found]
      cases skipping with
      | true =>
        have plug : ofPlug isTable (.entry (current ++ path) value) = true :=
          ofPlug_entry state.symm (Toml.entry_path found)
        rw [if_pos rfl, List.filter_cons_of_neg (by simp [remains, plug]),
          and_iff_right fun _ => state.symm]
        exact ih readableRest state nofun
      | false =>
        rw [if_neg Bool.false_ne_true, Toml.definitions_entry found, same rfl]
        by_cases plug : ofPlug isTable (.entry (current ++ path) value) = true
        · rw [List.filter_cons_of_neg (by simp [remains, plug])]
          refine iff_of_false (cons_ne_filter (by simp [remains, plug])) ?_
          rintro ⟨inside, -⟩
          rw [inside plug] at state
          cases state
        · rw [List.filter_cons_of_pos (by simp [remains, plug]), List.cons.injEq, and_iff_right rfl,
            and_iff_right fun own => absurd own plug]
          exact ih readableRest state fun _ => rfl

/-- The lines that stay in a text in order are those outside Plug's tables. -/
theorem keptLines_outside (readable : Readable readValue rest)
    (state : skipping = plugPath.isPrefixOf current)
    (order : InOrder isTable readValue current rest) :
    keptLines skipping rest = outside readValue current rest := by
  induction rest generalizing skipping current with
  | nil => rfl
  | cons line rest ih =>
    have readableRest : Readable readValue rest :=
      fun text member => readable text (List.mem_cons_of_mem line member)
    obtain ⟨read, found⟩ := Option.isSome_iff_exists.mp (readable line (List.mem_cons_self ..))
    rw [InOrder, found] at order
    rw [keptLines_cons, outside, found]
    cases read with
    | nothing =>
      rw [drops_other found nofun, state]
      dsimp only
      split
      · next inside => exact ih readableRest inside.symm order
      · next beyond =>
        rw [ih readableRest (Bool.eq_false_iff.mpr beyond).symm order]
    | table array path =>
      dsimp only at order ⊢
      have same : drops skipping line = plugPath.isPrefixOf path := by
        rw [Bool.eq_iff_iff, drops_table found, state]
        have seen := order.1
        constructor
        · intro reason
          by_contra plug
          rw [if_neg plug] at seen
          rcases reason with header | ⟨inside, mentions⟩
          · obtain ⟨other, own⟩ := plugHeaders_path header found
            cases own
            exact plug (by decide)
          · rw [seen inside] at mentions
            cases mentions
        · intro plug
          rwa [if_pos plug] at seen
      rw [same]
      split
      · next inside => exact ih readableRest inside.symm order.2
      · next beyond =>
        rw [ih readableRest (Bool.eq_false_iff.mpr beyond).symm order.2]
    | entry path value =>
      rw [drops_other found nofun, state]
      dsimp only at order ⊢
      split
      · next inside => exact ih readableRest inside.symm order.2
      · next beyond =>
        rw [ih readableRest (Bool.eq_false_iff.mpr beyond).symm order.2]

/-- Outside Plug's tables there is no header of one. -/
theorem outside_unlisted (readable : Readable readValue rest) :
    ∀ line ∈ outside readValue current rest, line ∈ rest ∧ trim line ∉ plugHeaders := by
  induction rest generalizing current with
  | nil => exact nofun
  | cons first rest ih =>
    have readableRest : Readable readValue rest :=
      fun text member => readable text (List.mem_cons_of_mem first member)
    obtain ⟨read, found⟩ := Option.isSome_iff_exists.mp (readable first (List.mem_cons_self ..))
    intro line member
    rw [outside] at member
    split_ifs at member with inside
    · obtain ⟨among, unlisted⟩ := ih readableRest line member
      exact ⟨List.mem_cons_of_mem first among, unlisted⟩
    · rcases List.mem_cons.mp member with rfl | later
      · refine ⟨List.mem_cons_self .., ?_⟩
        intro header
        obtain ⟨array, own⟩ := plugHeaders_path header found
        rw [found, own] at inside
        have starts : plugPath.isPrefixOf plugPath = true := by decide
        exact inside starts
      · obtain ⟨among, unlisted⟩ := ih readableRest line later
        exact ⟨List.mem_cons_of_mem first among, unlisted⟩

/-- Where no line is a header of Plug's, all stay. -/
theorem keptLines_all (unlisted : ∀ line ∈ rest, trim line ∉ plugHeaders) :
    keptLines false rest = rest := by
  induction rest with
  | nil => rfl
  | cons line rest ih =>
    have plain : drops false line = false := by
      simp [drops, unlisted line (List.mem_cons_self ..)]
    rw [keptLines_cons, plain, if_neg Bool.false_ne_true, ih]
    intro later member
    exact unlisted later (List.mem_cons_of_mem line member)

theorem keptLines_sublist : (keptLines skipping rest).Sublist rest := by
  induction rest generalizing skipping with
  | nil => exact List.Sublist.refl _
  | cons line rest ih =>
    rw [keptLines_cons]
    split
    · exact ih.cons line
    · exact ih.cons_cons line

/-- To take Plug out of a text in order again changes nothing exactly if no empty last line is
left. -/
theorem again_iff (readable : Readable readValue (lines content))
    (order : InOrder isTable readValue [] (lines content)) :
    unlinkToml (unlinkToml content) = unlinkToml content ↔
      ((outside readValue [] (lines content)).getLast? = some [] →
        outside readValue [] (lines content) = [[]]) := by
  have kept : keptLines false (lines content) = outside readValue [] (lines content) :=
    keptLines_outside readable rfl order
  have unlisted : ∀ line ∈ outside readValue [] (lines content), trim line ∉ plugHeaders :=
    fun line member => (outside_unlisted readable line member).2
  have whole : ∀ line ∈ outside readValue [] (lines content), Whole line := by
    intro line member
    obtain ⟨read, found⟩ := Option.isSome_iff_exists.mp
      (readable line (outside_unlisted readable line member).1)
    exact Toml.readLine_whole found
  unfold unlinkToml
  rw [kept, Text.lines_joinLines whole]
  split
  · next blank =>
    rw [keptLines_all fun line member => unlisted line (List.dropLast_subset _ member),
      Text.joinLines_dropLast_iff whole blank, forall_prop_of_true blank]
  · next filled =>
    rw [keptLines_all unlisted]
    exact iff_of_true rfl fun blank => absurd blank filled

/-- Taking Plug out of a TOML text of one-line values takes out what is Plug's and nothing else,
once and for all, exactly if the headers are in order and no empty last line is left. -/
theorem unlinked_iff (isTable : Value → Bool) (readValue : List Char → Option Value)
    (content : List Char) (readable : Readable readValue (lines content)) :
    Unlinked isTable readValue content ↔
      InOrder isTable readValue [] (lines content) ∧
        ((outside readValue [] (lines content)).getLast? = some [] →
          outside readValue [] (lines content) = [[]]) := by
  have among : ∀ line ∈ keptLines false (lines content), line ∈ lines content :=
    fun line member => keptLines_sublist.subset member
  have whole : ∀ line ∈ keptLines false (lines content), Whole line := by
    intro line member
    obtain ⟨read, found⟩ := Option.isSome_iff_exists.mp (readable line (among line member))
    exact Toml.readLine_whole found
  have written : lines (unlinkToml content) =
      if (keptLines false (lines content)).getLast? = some [] then
        (keptLines false (lines content)).dropLast
      else keptLines false (lines content) := Text.lines_joinLines whole
  have defined : definitions readValue [] (lines (unlinkToml content)) =
      definitions readValue [] (keptLines false (lines content)) := by
    rw [written]
    split
    · next blank =>
      have filled : keptLines false (lines content) ≠ [] := by
        intro empty
        rw [empty] at blank
        cases blank
      have parts := List.dropLast_concat_getLast filled
      rw [List.getLast?_eq_some_getLast filled] at blank
      rw [Option.some.inj blank] at parts
      rw [← Toml.definitions_blank, parts]
    · rfl
  have still : Readable readValue (lines (unlinkToml content)) := by
    rw [written]
    intro line member
    split at member
    · exact readable line (among line (List.dropLast_subset _ member))
    · exact readable line (among line member)
  constructor
  · rintro ⟨-, others, again⟩
    rw [defined] at others
    have order := (kept_iff readable rfl fun _ => rfl).mp others
    exact ⟨order, (again_iff readable order).mp again⟩
  · rintro ⟨order, last⟩
    refine ⟨still, ?_, (again_iff readable order).mpr last⟩
    rw [defined]
    exact (kept_iff readable rfl fun _ => rfl).mpr order

/-- A file in order: Plug's table, its environment under it, and another server. -/
def orderly : List Char :=
  "[mcp_servers.other]\ncommand = 1\n[mcp_servers.plug] \n[mcp_servers.plug.env]\nk = 1".toList

theorem unlinked_orderly : Unlinked (fun _ => false) some orderly :=
  (unlinked_iff (fun _ => false) some orderly (by decide)).mpr (by decide)

/-- The table after Plug's has a name that begins with Plug's, and is taken out with it. -/
theorem plugin_lost : ¬ Unlinked (fun _ => false) some
    "[mcp_servers.plug]\ncommand = 1\n[mcp_servers.plugin]\ncommand = 2".toList := by
  intro unlinked
  exact absurd unlinked.others (by decide)

end Plug.TomlUnlinking
