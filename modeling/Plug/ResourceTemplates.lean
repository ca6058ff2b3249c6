import Mathlib.Data.List.Basic
import Plug.Tables
import Plug.TextSearch

/-!
# Routes of resource templates

A resource is routed by its URI, or by an advertised template that the URI matches. A template has
literals with expressions between them, each of which stands for some text of the URI. The matcher
ends the text of an expression where the literal behind it occurs first, and never goes back.
-/

namespace Plug.ResourceTemplates

open Text (find splitOnce stripPrefix contains)

/-! ### The matcher -/

/-- Whether an expression may stand for text with slashes. -/
def isReserved (expression : List Char) : Bool :=
  expression.head? = some '+' || expression.head? = some '#'

/-- The loop of the matcher over the expressions of the template, as many as the fuel. -/
def matchesWithin : Nat → List Char → List Char → Bool
  | 0, _, _ => false
  | fuel + 1, template, uri =>
    match splitOnce ['{'] template with
    | none => uri = template
    | some (literal, opened) =>
      match stripPrefix literal uri with
      | none => false
      | some uri =>
        match splitOnce ['}'] opened with
        | none => false
        | some (expression, template) =>
          if expression = [] then false
          else
            let nextLiteral := ((splitOnce ['{'] template).map Prod.fst).getD template
            match if nextLiteral = [] then some uri.length else find nextLiteral uri with
            | none => false
            | some consumed =>
              let value := uri.take consumed
              if value = [] then false
              else if !isReserved expression && value.contains '/' then false
              else matchesWithin fuel template (uri.drop consumed)

/-- Every turn of the loop takes an expression off the template, so there are fewer turns than
characters. -/
def uriTemplateMatches (template uri : List Char) : Bool :=
  matchesWithin (template.length + 1) template uri

/-- The server of an exact route, or the one that has all the templates that the URI matches. -/
def resolveResourceRoute (routes : List (List Char × String)) (uri : List Char) : Option String :=
  match routes.lookup uri with
  | some server => some server
  | none =>
    let owners := (routes.filter fun (template, _) =>
      contains ['{'] template && uriTemplateMatches template uri).map Prod.snd
    match owners with
    | [] => none
    | first :: others => if others.any (· ≠ first) then none else some first

/-! ### Templates and their language -/

/-- A literal, and expressions with a literal behind each. -/
structure UriTemplate where
  literal : List Char
  parts : List (List Char × List Char)
deriving DecidableEq

/-- Literals have no opening brace, and expressions no closing brace but some text. -/
structure UriTemplate.WellFormed (template : UriTemplate) : Prop where
  literal : '{' ∉ template.literal
  literals : ∀ part ∈ template.parts, '{' ∉ part.2
  closed : ∀ part ∈ template.parts, '}' ∉ part.1
  filled : ∀ part ∈ template.parts, part.1 ≠ []

def textOf : List Char → List (List Char × List Char) → List Char
  | literal, [] => literal
  | literal, (expression, next) :: rest => literal ++ '{' :: (expression ++ '}' :: textOf next rest)

def UriTemplate.text (template : UriTemplate) : List Char :=
  textOf template.literal template.parts

/-- The URI can be cut into the literals and a text for each expression, which is not empty and
has a slash for a reserved expression only. -/
def Fits : List Char → List (List Char × List Char) → List Char → Prop
  | literal, [], uri => uri = literal
  | literal, (expression, next) :: rest, uri =>
    ∃ value tail, uri = literal ++ (value ++ tail) ∧ value ≠ [] ∧
      (isReserved expression = true ∨ '/' ∉ value) ∧ Fits next rest tail

/-- The language of a template. -/
def UriTemplate.Language (template : UriTemplate) (uri : List Char) : Prop :=
  Fits template.literal template.parts uri

/-- Where each text ends is forced: an expression without slashes comes before a literal with one,
or the expression is the last one and no literal comes. -/
def Forced : List (List Char × List Char) → Prop
  | [] => True
  | (expression, next) :: rest =>
    (isReserved expression = false ∧ '/' ∈ next ∨ next = [] ∧ rest = []) ∧ Forced rest

/-- The matcher over the parts of a template. -/
def matchesParts : List Char → List (List Char × List Char) → List Char → Bool
  | literal, [], uri => uri = literal
  | literal, (expression, next) :: rest, uri =>
    match stripPrefix literal uri with
    | none => false
    | some uri =>
      match if next = [] then some uri.length else find next uri with
      | none => false
      | some consumed =>
        let value := uri.take consumed
        if value = [] then false
        else if !isReserved expression && value.contains '/' then false
        else matchesParts next rest (uri.drop consumed)

variable {literal next expression value tail uri : List Char}
  {parts rest : List (List Char × List Char)} {template : UriTemplate}

/-! ### The parts of the text -/

theorem splitOnce_absent {delimiter : Char} {text : List Char} (absent : delimiter ∉ text) :
    splitOnce [delimiter] text = none := by
  cases split : splitOnce [delimiter] text with
  | none => rfl
  | some halves =>
    obtain ⟨front, back⟩ := halves
    have whole := (Text.splitOnce_eq_some_iff.mp split).1
    exact absurd (by rw [whole]; simp) absent

/-- What the matcher takes for the next literal is the literal behind the expression. -/
theorem nextLiteral_eq (plain : '{' ∉ next) (rest : List (List Char × List Char)) :
    ((splitOnce ['{'] (textOf next rest)).map Prod.fst).getD (textOf next rest) = next := by
  cases rest with
  | nil => rw [textOf, splitOnce_absent plain]; rfl
  | cons part rest =>
    obtain ⟨expression, later⟩ := part
    rw [textOf, Text.splitOnce_character plain]
    rfl

theorem matchesWithin_eq (fuel : Nat) (enough : parts.length < fuel) (plain : '{' ∉ literal)
    (literals : ∀ part ∈ parts, '{' ∉ part.2) (closed : ∀ part ∈ parts, '}' ∉ part.1)
    (filled : ∀ part ∈ parts, part.1 ≠ []) (uri : List Char) :
    matchesWithin fuel (textOf literal parts) uri = matchesParts literal parts uri := by
  induction parts generalizing fuel literal uri with
  | nil =>
    cases fuel with
    | zero => cases enough
    | succ fuel => rw [matchesWithin, textOf, splitOnce_absent plain, matchesParts]
  | cons part parts ih =>
    obtain ⟨expression, next⟩ := part
    cases fuel with
    | zero => cases enough
    | succ fuel =>
      have nextPlain : '{' ∉ next := literals _ List.mem_cons_self
      have expressionClosed : '}' ∉ expression := closed _ List.mem_cons_self
      have expressionFilled : expression ≠ [] := filled _ List.mem_cons_self
      rw [matchesWithin, textOf, Text.splitOnce_character plain, matchesParts]
      dsimp only
      cases stripPrefix literal uri with
      | none => rfl
      | some uri =>
        dsimp only
        rw [Text.splitOnce_character expressionClosed]
        dsimp only
        rw [if_neg expressionFilled, nextLiteral_eq nextPlain]
        cases (if next = [] then some uri.length else find next uri) with
        | none => rfl
        | some consumed =>
          dsimp only
          rw [ih fuel (Nat.lt_of_succ_lt_succ enough) nextPlain
            (fun part among => literals part (List.mem_cons_of_mem _ among))
            (fun part among => closed part (List.mem_cons_of_mem _ among))
            (fun part among => filled part (List.mem_cons_of_mem _ among))]

theorem length_lt_textOf (literal : List Char) (parts : List (List Char × List Char)) :
    parts.length < (textOf literal parts).length + 1 := by
  induction parts generalizing literal with
  | nil => simp
  | cons part parts ih =>
    obtain ⟨expression, next⟩ := part
    have shorter := ih next
    rw [textOf]
    simp only [List.length_cons, List.length_append]
    omega

theorem uriTemplateMatches_eq (wellFormed : template.WellFormed) (uri : List Char) :
    uriTemplateMatches template.text uri = matchesParts template.literal template.parts uri :=
  matchesWithin_eq _ (length_lt_textOf _ _) wellFormed.literal wellFormed.literals
    wellFormed.closed wellFormed.filled uri

/-! ### What is matched fits -/

theorem fits_of_matchesParts (matched : matchesParts literal parts uri = true) :
    Fits literal parts uri := by
  induction parts generalizing literal uri with
  | nil => simpa [matchesParts, Fits] using matched
  | cons part parts ih =>
    obtain ⟨expression, next⟩ := part
    rw [matchesParts] at matched
    split at matched
    · cases matched
    · rename_i behind stripped
      split at matched
      · cases matched
      · rename_i consumed _
        dsimp only at matched
        split_ifs at matched with empty slashed
        have whole : uri = literal ++ behind := Text.stripPrefix_eq_some_iff.mp stripped
        refine ⟨behind.take consumed, behind.drop consumed, ?_, empty, ?_,
          ih matched⟩
        · rw [List.take_append_drop]
          exact whole
        · cases reserved : isReserved expression with
          | true => exact .inl rfl
          | false => exact .inr (by simpa [reserved] using slashed)

theorem fits_starts (fits : Fits literal parts uri) : literal <+: uri := by
  cases parts with
  | nil => exact fits ▸ List.prefix_rfl
  | cons part parts =>
    obtain ⟨value, tail, whole, _⟩ := fits
    exact ⟨value ++ tail, whole.symm⟩

/-! ### Where the cut is forced -/

/-- A text with a slash is found behind one without, and not before. -/
theorem find_behind (slash : '/' ∈ next) (plain : '/' ∉ value) (starts : next <+: tail) :
    find next (value ++ tail) = some value.length := by
  rw [Text.find_eq_some_iff]
  refine ⟨by simp, by simpa using starts, ?_⟩
  intro place early occurs
  -- The first slash of the text is as far behind the value as in the literal.
  have earlier : place ≤ value.length := Nat.le_of_lt early
  rw [List.drop_append_of_le_length earlier] at occurs
  have behind : '/' ∉ value.drop place := fun among => plain (List.mem_of_mem_drop among)
  obtain ⟨others, same⟩ := occurs
  obtain ⟨rest, rfl⟩ := starts
  have first : (next ++ others).idxOf '/' = (value.drop place ++ (next ++ rest)).idxOf '/' :=
    congrArg _ same
  rw [List.idxOf_append_of_mem slash, List.idxOf_append_of_notMem behind,
    List.idxOf_append_of_mem slash, List.length_drop] at first
  omega

/-- The matcher follows a cut that is forced. -/
theorem matchesParts_of_fits (forced : Forced parts) (fits : Fits literal parts uri) :
    matchesParts literal parts uri = true := by
  induction parts generalizing literal uri with
  | nil => simpa [matchesParts, Fits] using fits
  | cons part parts ih =>
    obtain ⟨expression, next⟩ := part
    obtain ⟨ending, forced⟩ := forced
    obtain ⟨value, tail, rfl, filled, allowed, fitsTail⟩ := fits
    have later := ih forced fitsTail
    have noSlash : (!isReserved expression && value.contains '/') = false := by
      rcases allowed with reserved | plain
      · rw [reserved]; rfl
      · simp [plain]
    have consumed : (if next = [] then some (value ++ tail).length else find next (value ++ tail)) =
        some value.length := by
      rcases ending with ⟨simple, slash⟩ | ⟨rfl, rfl⟩
      · have some : next ≠ [] := List.ne_nil_of_mem slash
        have plain : '/' ∉ value := allowed.resolve_left (by simp [simple])
        rw [if_neg some, find_behind slash plain (fits_starts fitsTail)]
      · obtain rfl : tail = [] := fitsTail
        rw [if_pos rfl, List.append_nil]
    rw [matchesParts, Text.stripPrefix_append]
    dsimp only
    rw [consumed]
    dsimp only
    rw [List.take_left, List.drop_left, if_neg filled, noSlash, if_neg Bool.false_ne_true, later]

/-! ### Where the cut is not forced -/

/-- A template's language is not empty. -/
theorem exists_fits (literal : List Char) (parts : List (List Char × List Char)) :
    ∃ uri, Fits literal parts uri := by
  induction parts generalizing literal with
  | nil => exact ⟨literal, rfl⟩
  | cons part parts ih =>
    obtain ⟨expression, next⟩ := part
    obtain ⟨tail, fits⟩ := ih next
    exact ⟨literal ++ (['x'] ++ tail), ['x'], tail, rfl, by decide, .inr (by decide), fits⟩

/-- No text is left for an expression at the end of the URI. -/
theorem matchesParts_end (parts : List (List Char × List Char)) (further : parts ≠ []) :
    matchesParts [] parts [] = false := by
  cases parts with
  | nil => exact absurd rfl further
  | cons part parts =>
    obtain ⟨expression, next⟩ := part
    rw [matchesParts]
    cases next with
    | nil => rfl
    | cons => rfl

theorem find_self (starts : next <+: tail) : find next tail = some 0 := by
  rw [Text.find_eq_some_iff]
  exact ⟨Nat.zero_le _, starts, fun _ early => absurd early (Nat.not_lt_zero _)⟩

/-- When a cut is not forced, some URI has one and is not matched. -/
theorem exists_unmatched (unforced : ¬ Forced parts) (literal : List Char) :
    ∃ uri, Fits literal parts uri ∧ matchesParts literal parts uri = false := by
  induction parts generalizing literal with
  | nil => exact absurd trivial unforced
  | cons part parts ih =>
    obtain ⟨expression, next⟩ := part
    by_cases ending : isReserved expression = false ∧ '/' ∈ next ∨ next = [] ∧ parts = []
    · have later : ¬ Forced parts := fun forced => unforced ⟨ending, forced⟩
      rcases ending with ⟨simple, slash⟩ | ⟨_, rfl⟩
      · -- The first text is cut off rightly, and a later one is not.
        obtain ⟨tail, fits, unmatched⟩ := ih later next
        have plain : '/' ∉ ['x'] := by decide
        refine ⟨literal ++ (['x'] ++ tail), ⟨['x'], tail, rfl, by decide, .inr plain, fits⟩, ?_⟩
        have consumed : find next (['x'] ++ tail) = some 1 :=
          find_behind slash plain (fits_starts fits)
        rw [matchesParts, Text.stripPrefix_append]
        dsimp only
        rw [if_neg (List.ne_nil_of_mem slash), consumed]
        dsimp only
        change (if ['x'] = [] then false else if _ then false else matchesParts next parts tail) = _
        rw [unmatched]
        split_ifs <;> rfl
      · exact absurd trivial later
    · obtain ⟨tail, fits⟩ := exists_fits next parts
      by_cases empty : next = []
      · -- The first expression takes all, and nothing is left for the next one.
        have further : parts ≠ [] := fun none => ending (.inr ⟨empty, none⟩)
        refine ⟨literal ++ (['x'] ++ tail), ⟨['x'], tail, rfl, by decide, .inr (by decide), fits⟩, ?_⟩
        rw [matchesParts, Text.stripPrefix_append]
        dsimp only
        rw [if_pos empty]
        dsimp only
        rw [List.take_length, List.drop_length, empty, matchesParts_end parts further]
        split_ifs <;> rfl
      · -- The literal is taken for the end of the text when the text begins with it.
        have allowed : isReserved expression = true ∨ '/' ∉ next := by
          by_contra neither
          rw [not_or, Bool.not_eq_true, not_not] at neither
          exact ending (.inl neither)
        refine ⟨literal ++ (next ++ tail), ⟨next, tail, rfl, empty, allowed, fits⟩, ?_⟩
        rw [matchesParts, Text.stripPrefix_append]
        dsimp only
        rw [if_neg empty, find_self (List.prefix_append next tail)]
        rfl

/-- The matcher decides the language of a template exactly if its cuts are forced. -/
theorem matches_iff_forced (wellFormed : template.WellFormed) :
    (∀ uri, uriTemplateMatches template.text uri = true ↔ template.Language uri) ↔
      Forced template.parts := by
  constructor
  · intro decides
    by_contra unforced
    obtain ⟨uri, fits, unmatched⟩ := exists_unmatched unforced template.literal
    have matched := (decides uri).mpr fits
    rw [uriTemplateMatches_eq wellFormed, unmatched] at matched
    cases matched
  · intro forced uri
    rw [uriTemplateMatches_eq wellFormed]
    exact ⟨fits_of_matchesParts, matchesParts_of_fits forced⟩

/-! ### The routes -/

/-- A route is a template that the URI matches. -/
def MatchedBy (uri template : List Char) : Prop :=
  '{' ∈ template ∧ uriTemplateMatches template uri = true

variable {routes : List (List Char × String)} {server : String}

theorem contains_brace {text : List Char} : contains ['{'] text = true ↔ '{' ∈ text := by
  rw [Text.contains_iff_within]
  constructor
  · exact fun within => within.subset List.mem_cons_self
  · intro among
    obtain ⟨front, back, rfl⟩ := List.append_of_mem among
    exact ⟨front, back, by simp⟩

theorem mem_owners {owner : String} :
    owner ∈ (routes.filter fun (template, _) =>
        contains ['{'] template && uriTemplateMatches template uri).map Prod.snd ↔
      ∃ route, (route, owner) ∈ routes ∧ MatchedBy uri route := by
  constructor
  · intro among
    obtain ⟨route, kept, rfl⟩ := List.mem_map.mp among
    obtain ⟨own, matched⟩ := List.mem_filter.mp kept
    obtain ⟨brace, matched⟩ := Bool.and_eq_true_iff.mp matched
    exact ⟨route.1, own, contains_brace.mp brace, matched⟩
  · rintro ⟨route, own, brace, matched⟩
    refine List.mem_map.mpr ⟨(route, owner), List.mem_filter.mpr ⟨own, ?_⟩, rfl⟩
    rw [Bool.and_eq_true_iff]
    exact ⟨contains_brace.mpr brace, matched⟩

theorem resolve_iff (distinct : (routes.map Prod.fst).Nodup) :
    resolveResourceRoute routes uri = some server ↔
      (uri, server) ∈ routes ∨ (∀ owner, (uri, owner) ∉ routes) ∧
        (∃ route, (route, server) ∈ routes ∧ MatchedBy uri route) ∧
        ∀ route owner, (route, owner) ∈ routes → MatchedBy uri route → owner = server := by
  unfold resolveResourceRoute
  cases found : routes.lookup uri with
  | some owner =>
    have own := Tables.mem_of_lookup found
    constructor
    · intro same
      exact .inl (Option.some.inj same ▸ own)
    · rintro (member | ⟨absent, _⟩)
      · have decides := Tables.lookup_of_mem distinct member
        rw [found] at decides
        exact decides
      · exact absurd own (absent owner)
  | none =>
    have absent : ∀ owner, (uri, owner) ∉ routes := by
      intro owner member
      obtain ⟨other, same⟩ := Tables.lookup_exists member
      rw [found] at same
      cases same
    have among (owner : String) := @mem_owners uri routes owner
    dsimp only
    constructor
    · intro resolved
      right
      refine ⟨absent, ?_⟩
      split at resolved
      · cases resolved
      · rename_i first others owners
        split_ifs at resolved with differ
        cases resolved
        rw [owners] at among
        refine ⟨(among server).mp List.mem_cons_self, fun route owner own matched => ?_⟩
        rcases List.mem_cons.mp ((among owner).mpr ⟨route, own, matched⟩) with same | later
        · exact same
        · by_contra other
          exact differ (List.any_eq_true.mpr ⟨owner, later, decide_eq_true other⟩)
    · rintro (member | ⟨_, ⟨route, own, matched⟩, unique⟩)
      · exact absurd member (absent server)
      · have every : ∀ owner ∈ (routes.filter fun (template, _) =>
            contains ['{'] template && uriTemplateMatches template uri).map Prod.snd,
            owner = server := by
          intro owner listed
          obtain ⟨other, otherOwn, otherMatched⟩ := (among owner).mp listed
          exact unique other owner otherOwn otherMatched
        have listed := (among server).mpr ⟨route, own, matched⟩
        split
        · rename_i none
          rw [none] at listed
          cases listed
        · rename_i first others owners
          rw [owners] at every
          rw [if_neg, every first List.mem_cons_self]
          rw [List.any_eq_true]
          rintro ⟨owner, later, differ⟩
          have same := (every owner (List.mem_cons_of_mem _ later)).trans
            (every first List.mem_cons_self).symm
          exact of_decide_eq_true differ same

/-- The order of the route map makes no difference. -/
theorem resolve_perm (distinct : (routes.map Prod.fst).Nodup) {reordered : List (List Char × String)}
    (reorders : reordered.Perm routes) (uri : List Char) :
    resolveResourceRoute reordered uri = resolveResourceRoute routes uri := by
  have distinctReordered : (reordered.map Prod.fst).Nodup :=
    (reorders.map Prod.fst).nodup_iff.mpr distinct
  apply Option.ext
  intro server
  rw [resolve_iff distinctReordered, resolve_iff distinct]
  simp only [reorders.mem_iff]

/-- A URI is routed to the server that has it as an exact route, or else to the one that has all
templates that match it, whatever the order of the routes. A template matches exactly its language
if its cuts are forced, and only then. -/
theorem routed_and_matched (distinct : (routes.map Prod.fst).Nodup)
    (wellFormed : template.WellFormed) :
    (∀ uri server, resolveResourceRoute routes uri = some server ↔
        (uri, server) ∈ routes ∨ (∀ owner, (uri, owner) ∉ routes) ∧
          (∃ route, (route, server) ∈ routes ∧ MatchedBy uri route) ∧
          ∀ route owner, (route, owner) ∈ routes → MatchedBy uri route → owner = server) ∧
      (∀ reordered : List (List Char × String), reordered.Perm routes → ∀ uri,
        resolveResourceRoute reordered uri = resolveResourceRoute routes uri) ∧
      ((∀ uri, uriTemplateMatches template.text uri = true ↔ template.Language uri) ↔
        Forced template.parts) :=
  ⟨fun _ _ => resolve_iff distinct, fun _ reorders uri => resolve_perm distinct reorders uri,
    matches_iff_forced wellFormed⟩

/-- The literal behind the expression has a slash. -/
def dataTemplate : UriTemplate := ⟨"test://".toList, [("id".toList, "/data".toList)]⟩

theorem dataTemplate_matched : dataTemplate.Language "test://one/data".toList := by
  have wellFormed : dataTemplate.WellFormed := by
    constructor <;> decide
  have distinct : ([("test://\x7bid\x7d/data".toList, "fixture")].map Prod.fst).Nodup := by
    decide
  have routed := routed_and_matched distinct wellFormed
  have matched : uriTemplateMatches dataTemplate.text "test://one/data".toList = true := by
    decide
  exact (routed.2.2.mpr ⟨.inl ⟨by decide, by decide⟩, trivial⟩ _).mp matched

def textTemplate : UriTemplate := ⟨"file:///".toList, [("name".toList, ".txt".toList)]⟩

/-- The text of the expression ends at the first `.txt`, though the URI ends with the second. -/
theorem text_unmatched :
    textTemplate.WellFormed ∧ textTemplate.Language "file:///a.txt.txt".toList ∧
      uriTemplateMatches textTemplate.text "file:///a.txt.txt".toList = false := by
  refine ⟨by constructor <;> decide, ?_, by decide⟩
  exact ⟨"a.txt".toList, ".txt".toList, by decide, by decide, .inr (by decide), rfl⟩

end Plug.ResourceTemplates
