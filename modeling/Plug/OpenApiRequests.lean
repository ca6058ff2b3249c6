import Plug.JsonPaths
import Plug.Templates
import Plug.TextSearch

/-!
# Requests of an API's operations

A tool call becomes an HTTP request. The path of the operation is filled with arguments, segment
by segment, and each filled segment is pushed behind the path of the API. Other arguments are
query pairs and headers, in the order in which the operation declares them, and the token of the
server takes its own place among these.
-/

namespace Plug.OpenApi

open JsonValues (Value Members lookup)
open Text (toAsciiLowercase)

inductive ParameterLocation where
  | path
  | query
  | header
deriving DecidableEq

structure Parameter where
  name : String
  location : ParameterLocation
  required : Bool
deriving DecidableEq

/-- What of an operation its requests depend on. -/
structure Operation where
  path : List Char
  parameters : List Parameter
  bodyArgument : Option String
deriving DecidableEq

/-- Where an API is reached: an `http` or `https` URL with no query and no fragment. Its path has
a leading slash, and `behindRoot` is what comes behind that. -/
structure BaseUrl where
  scheme : String
  host : String
  port : Option Nat
  behindRoot : List Char
deriving DecidableEq

structure Url extends BaseUrl where
  query : List (String × String)
deriving DecidableEq

structure PlannedRequest where
  url : Url
  headers : List (String × String)
  body : Option Value

inductive TokenPlace where
  | bearer
  | header (name : String)
  | query (name : String)
deriving DecidableEq

/-- `str::eq_ignore_ascii_case`. -/
def eqIgnoreAsciiCase (name other : String) : Bool :=
  toAsciiLowercase name.toList = toAsciiLowercase other.toList

section Requests

variable (toJson : Value → String) (encode : List Char → List Char)

/-- A JSON value as it appears in a path, a query, or a header. -/
def plainText : Value → String
  | .string text => text
  | other => toJson other

/-! ### The path -/

/-- `PathSegmentsMut::pop_if_empty`. -/
def popIfEmpty (behindRoot : List Char) : List Char :=
  (Text.stripSuffix ['/'] behindRoot).getD behindRoot

/-- `PathSegmentsMut::push`: a dot segment is ignored, and no slash is added to a bare one. -/
def push (behindRoot segment : List Char) : List Char :=
  if segment = ".".toList ∨ segment = "..".toList then behindRoot
  else if behindRoot = [] then encode segment
  else behindRoot ++ '/' :: encode segment

def placeholder (name : String) : List Char :=
  '{' :: name.toList ++ "\x7d".toList

def argumentText (arguments : Members) (name : String) : List Char :=
  (((lookup name arguments).map (plainText toJson)).getD "").toList

/-- One segment of the path, with one placeholder after another replaced. -/
def fillInTurn (parameters : List Parameter) (arguments : Members) (segment : List Char) :
    List Char :=
  parameters.foldl (fun filled parameter =>
    if parameter.location ≠ .path then filled
    else if Text.contains (placeholder parameter.name) filled then
      Templates.replace (placeholder parameter.name)
        (argumentText toJson arguments parameter.name) filled
    else filled) segment

def Operation.segments (operation : Operation) : List (List Char) :=
  (operation.path.splitOn '/').filter fun segment => !segment.isEmpty

def requestPath (operation : Operation) (base : BaseUrl) (arguments : Members) : List Char :=
  operation.segments.foldl (fun behindRoot segment =>
    push encode behindRoot (fillInTurn toJson operation.parameters arguments segment))
    (popIfEmpty base.behindRoot)

/-! ### The query and the headers -/

def itemTexts : Value → List String
  | .array items => items.map (plainText toJson)
  | other => [plainText toJson other]

/-- The argument for a parameter, where null is none. -/
def given (arguments : Members) (parameter : Parameter) : Option Value :=
  (lookup parameter.name arguments).filter fun value => !value.isNull

/-- An argument that is not in the path, put where its parameter is declared. -/
def placeArgument (arguments : Members) (planned : Url × List (String × String))
    (parameter : Parameter) : Url × List (String × String) :=
  let (url, headers) := planned
  match given arguments parameter with
  | none => (url, headers)
  | some value =>
    match parameter.location with
    | .path => (url, headers)
    | .query =>
      let pairs := (itemTexts toJson value).map fun text => (parameter.name, text)
      ({ url with query := url.query ++ pairs }, headers)
    | .header =>
      -- Credentials come from the server's settings, never from a tool argument.
      if eqIgnoreAsciiCase parameter.name "authorization" then (url, headers)
      else (url, headers ++ [(parameter.name, plainText toJson value)])

def Operation.request (operation : Operation) (base : BaseUrl) (arguments : Members) :
    Except String PlannedRequest :=
  let missing := operation.parameters.find? fun parameter =>
    parameter.required && ((lookup parameter.name arguments).all Value.isNull)
  match missing with
  | some parameter => .error ("missing required argument '" ++ parameter.name ++ "'")
  | none =>
    let path := requestPath toJson encode operation base arguments
    let (url, headers) := operation.parameters.foldl (placeArgument toJson arguments)
      ({ base with behindRoot := path, query := [] }, [])
    let body := operation.bodyArgument.bind fun argument =>
      (lookup argument arguments).filter fun body => !body.isNull
    .ok ⟨url, headers, body⟩

/-- Put the token on a request. A tool argument never fills the same place. -/
def TokenPlace.apply (place : TokenPlace) (token : String) (planned : PlannedRequest) :
    PlannedRequest :=
  match place with
  | .bearer =>
    { planned with headers := planned.headers ++ [("authorization", "Bearer " ++ token)] }
  | .header name =>
    { planned with
      headers := (planned.headers.filter fun (key, _) => !eqIgnoreAsciiCase key name) ++
        [(name, token)] }
  | .query name =>
    let kept := planned.url.query.filter fun (key, _) => key ≠ name
    { planned with url := { planned.url with query := kept ++ [(name, token)] } }

/-! ### Placed arguments -/

/-- The query pairs that an argument map gives for a declared parameter. -/
def queryPairs (arguments : Members) (parameter : Parameter) : List (String × String) :=
  if parameter.location = .query then
    (((given arguments parameter).map (itemTexts toJson)).getD []).map fun text =>
      (parameter.name, text)
  else []

/-- The header that an argument map gives for a declared parameter. -/
def headerPairs (arguments : Members) (parameter : Parameter) : List (String × String) :=
  if parameter.location = .header ∧ eqIgnoreAsciiCase parameter.name "authorization" = false then
    ((given arguments parameter).map fun value => (parameter.name, plainText toJson value)).toList
  else []

variable {toJson encode} {operation : Operation} {base : BaseUrl} {arguments : Members}
  {planned : PlannedRequest}

theorem placeArgument_eq (url : Url) (headers : List (String × String)) (parameter : Parameter) :
    placeArgument toJson arguments (url, headers) parameter =
      ({ url with query := url.query ++ queryPairs toJson arguments parameter },
        headers ++ headerPairs toJson arguments parameter) := by
  unfold placeArgument queryPairs headerPairs
  cases given arguments parameter with
  | none => simp
  | some value =>
    cases parameter.location with
    | path => simp
    | query => simp
    | header =>
      cases eqIgnoreAsciiCase parameter.name "authorization" <;> simp

theorem placeArguments_eq (parameters : List Parameter) (url : Url)
    (headers : List (String × String)) :
    parameters.foldl (placeArgument toJson arguments) (url, headers) =
      ({ url with query := url.query ++ parameters.flatMap (queryPairs toJson arguments) },
        headers ++ parameters.flatMap (headerPairs toJson arguments)) := by
  induction parameters generalizing url headers with
  | nil => simp
  | cons parameter parameters ih =>
    rw [List.foldl_cons, placeArgument_eq, ih]
    simp only [List.flatMap_cons, List.append_assoc]

/-- What a request is made of, when it is made at all. -/
theorem request_eq (requested : operation.request toJson encode base arguments = .ok planned) :
    planned.url =
        { base with
          behindRoot := requestPath toJson encode operation base arguments
          query := operation.parameters.flatMap (queryPairs toJson arguments) } ∧
      planned.headers = operation.parameters.flatMap (headerPairs toJson arguments) := by
  unfold Operation.request at requested
  dsimp only at requested
  split at requested
  · cases requested
  · rw [placeArguments_eq] at requested
    cases requested
    exact ⟨rfl, rfl⟩

/-- No argument is the credential of a request. -/
theorem headers_unauthorized
    (requested : operation.request toJson encode base arguments = .ok planned)
    (header : String × String) (among : header ∈ planned.headers) :
    eqIgnoreAsciiCase header.1 "authorization" = false := by
  rw [(request_eq requested).2] at among
  obtain ⟨parameter, _, own⟩ := List.mem_flatMap.mp among
  unfold headerPairs at own
  split at own
  · rename_i allowed
    obtain ⟨value, _, named⟩ := Option.map_eq_some_iff.mp (Option.mem_toList.mp own)
    rw [← named]
    exact allowed.2
  · cases own

/-! ### Segments in their places -/

/-- `Url::path_segments`: a bare slash has one empty segment. -/
def BaseUrl.pathSegments (url : BaseUrl) : List (List Char) :=
  url.behindRoot.splitOn '/'

/-- The segments of an API's path, where its last slash begins no segment of its own. -/
def BaseUrl.baseSegments (base : BaseUrl) : List (List Char) :=
  if popIfEmpty base.behindRoot = [] then [] else (popIfEmpty base.behindRoot).splitOn '/'

/-- What `Url::path_segments` gives for a path of these segments. -/
def asPathSegments : List (List Char) → List (List Char)
  | [] => [[]]
  | segments => segments

/-- The segments that are pushed are those with other text than dots. -/
def undotted (segments : List (List Char)) : List (List Char) :=
  segments.filter fun segment => segment ≠ ".".toList ∧ segment ≠ "..".toList

def pathNames (parameters : List Parameter) : List String :=
  (parameters.filter fun parameter => parameter.location = .path).map Parameter.name

/-- A segment of the path, behind the characters to skip, with its placeholders as holes. -/
def templateFrom (names : List String) : Nat → List Char → List (Templates.Item Char String)
  | _, [] => []
  | skipped + 1, _ :: rest => templateFrom names skipped rest
  | 0, character :: rest =>
    match names.find? fun name => (placeholder name).isPrefixOf (character :: rest) with
    | some name => .hole name :: templateFrom names ((placeholder name).length - 1) rest
    | none => .symbol character :: templateFrom names 0 rest

/-- One segment of the path, with all its placeholders replaced at once. -/
def fillAtOnce (toJson : Value → String) (parameters : List Parameter) (arguments : Members)
    (segment : List Char) : List Char :=
  Templates.fill (argumentText toJson arguments) (templateFrom (pathNames parameters) 0 segment)

section Pushing

variable {behindRoot : List Char} {segments : List (List Char)}

theorem undotted_cons (segment : List Char) (segments : List (List Char)) :
    undotted (segment :: segments) =
      if segment = ".".toList ∨ segment = "..".toList then undotted segments
      else segment :: undotted segments := by
  unfold undotted
  rw [List.filter_cons]
  by_cases dotted : segment = ".".toList ∨ segment = "..".toList
  · rw [if_pos dotted, if_neg (by simpa [imp_iff_not_or] using dotted)]
  · rw [if_neg dotted, if_pos (by simpa using dotted)]

theorem pushAll_dotted (none : undotted segments = []) (behindRoot : List Char) :
    segments.foldl (push encode) behindRoot = behindRoot := by
  induction segments with
  | nil => rfl
  | cons segment segments ih =>
    rw [undotted_cons] at none
    split at none
    · rename_i dotted
      rw [List.foldl_cons, push, if_pos dotted, ih none]
    · cases none

variable (slashFree : ∀ text, '/' ∉ encode text)
include slashFree

theorem pushAll_further (further : behindRoot ≠ []) (segments : List (List Char)) :
    (segments.foldl (push encode) behindRoot).splitOn '/' =
      behindRoot.splitOn '/' ++ (undotted segments).map encode := by
  induction segments generalizing behindRoot with
  | nil => exact (List.append_nil _).symm
  | cons segment segments ih =>
    rw [List.foldl_cons, push, undotted_cons]
    split
    · exact ih further
    · have longer : behindRoot ++ '/' :: encode segment ≠ [] := by simp
      rw [ih longer, List.splitOn_append_cons_self,
        List.splitOn_eq_singleton (slashFree segment), List.append_assoc]
      rfl

/-- Nothing is lost behind a bare slash, when the first of several segments is not empty. -/
theorem pushAll_root (leading : ∀ first second rest, undotted segments = first :: second :: rest →
      encode first ≠ []) :
    (segments.foldl (push encode) []).splitOn '/' =
      asPathSegments ((undotted segments).map encode) := by
  induction segments with
  | nil => rfl
  | cons segment segments ih =>
    rw [List.foldl_cons, push]
    rw [undotted_cons] at leading ⊢
    split
    · rename_i dotted
      rw [if_pos dotted] at leading
      exact ih leading
    · rename_i proper
      rw [if_neg proper] at leading
      rw [if_pos rfl]
      cases others : undotted segments with
      | nil =>
        rw [pushAll_dotted others, List.splitOn_eq_singleton (slashFree segment)]
        rfl
      | cons second rest =>
        have filled : encode segment ≠ [] := leading segment second rest (by rw [others])
        rw [pushAll_further slashFree filled, List.splitOn_eq_singleton (slashFree segment), others]
        rfl

end Pushing

/-- For these arguments, it makes no difference that placeholders are replaced one after another. -/
def FilledAtOnce (toJson : Value → String) (operation : Operation) (arguments : Members) : Prop :=
  ∀ segment ∈ operation.segments,
    fillInTurn toJson operation.parameters arguments segment =
      fillAtOnce toJson operation.parameters arguments segment

/-- What is pushed behind a bare slash does not begin with an empty segment, unless that is all. -/
def LeadingFilled (toJson : Value → String) (encode : List Char → List Char)
    (operation : Operation) (base : BaseUrl) (arguments : Members) : Prop :=
  base.baseSegments = [] → ∀ first second rest,
    undotted (operation.segments.map (fillAtOnce toJson operation.parameters arguments)) =
      first :: second :: rest →
    encode first ≠ []

/-- Percent-encoding of the characters that have a meaning in a URL. -/
def escape (text : List Char) : List Char :=
  text.flatMap fun character =>
    match character with
    | '/' => "%2F".toList
    | '%' => "%25".toList
    | '?' => "%3F".toList
    | '#' => "%23".toList
    | ' ' => "%20".toList
    | other => [other]

theorem slash_not_mem_escape (text : List Char) : '/' ∉ escape text := by
  intro among
  obtain ⟨character, _, own⟩ := List.mem_flatMap.mp among
  split at own
  all_goals first
    | exact absurd own (by decide)
    | exact absurd (List.mem_singleton.mp own).symm ‹_›

def petApi : BaseUrl := ⟨"https", "api.example.com", none, "v1/".toList⟩

def getPet : Operation where
  path := "/pets/{petId}".toList
  parameters :=
    [⟨"petId", .path, true⟩, ⟨"tag", .query, false⟩, ⟨"X-Api-Key", .header, false⟩,
      ⟨"AUTHORIZATION", .header, false⟩]
  bodyArgument := none

/-- The path is filled with the text, two tags are asked for, and two credentials are tried. -/
def petArguments (petId : String) : Members :=
  [("petId", .string petId), ("tag", .array [.string "a b", .string "c"]),
    ("X-Api-Key", .string "mine"), ("AUTHORIZATION", .string "Bearer mine")]

/-- Whether a header is in the token's place. -/
def TokenPlace.coversHeader : TokenPlace → String × String → Bool
  | .bearer, (key, _) => eqIgnoreAsciiCase key "authorization"
  | .header name, (key, _) => eqIgnoreAsciiCase key name
  | .query _, _ => false

/-- Whether a query pair is in the token's place. -/
def TokenPlace.coversQuery : TokenPlace → String × String → Bool
  | .query name, (key, _) => key = name
  | _, _ => false

/-- The values that a request has in the token's place. -/
def TokenPlace.values (place : TokenPlace) (planned : PlannedRequest) : List String :=
  (planned.headers.filter place.coversHeader ++ planned.url.query.filter place.coversQuery).map
    Prod.snd

def TokenPlace.credential : TokenPlace → String → String
  | .bearer, token => "Bearer " ++ token
  | _, token => token

theorem eqIgnoreAsciiCase_self (name : String) : eqIgnoreAsciiCase name name = true :=
  decide_eq_true rfl

section Retaining

variable {Item : Type} {covers : Item → Bool} {items : List Item} {item : Item}

theorem filter_covered (covered : covers item = true) (others : ∀ other ∈ items, covers other = false) :
    (items ++ [item]).filter covers = [item] := by
  have none : items.filter covers = [] := by
    rw [List.filter_eq_nil_iff]
    intro other among
    simp [others other among]
  rw [List.filter_append, none, List.filter_singleton, covered]
  rfl

theorem filter_uncovered (covered : covers item = true) :
    (items ++ [item]).filter (!covers ·) = items.filter (!covers ·) := by
  rw [List.filter_append, List.filter_singleton, covered]
  exact List.append_nil _

theorem retained_uncovered (items : List Item) (other : Item) (among : other ∈ items.filter (!covers ·)) :
    covers other = false := by
  simpa using (List.mem_filter.mp among).2

end Retaining

/-- The token is the one value in its place, and everything else is as the arguments made it. -/
theorem apply_alone (requested : operation.request toJson encode base arguments = .ok planned)
    (place : TokenPlace) (token : String) :
    place.values (place.apply token planned) = [place.credential token] ∧
      (place.apply token planned).headers.filter (!place.coversHeader ·) =
        planned.headers.filter (!place.coversHeader ·) ∧
      (place.apply token planned).url.query.filter (!place.coversQuery ·) =
        planned.url.query.filter (!place.coversQuery ·) ∧
      (place.apply token planned).url.toBaseUrl = planned.url.toBaseUrl ∧
      (place.apply token planned).body = planned.body := by
  cases place with
  | bearer =>
    have own : TokenPlace.bearer.coversHeader ("authorization", "Bearer " ++ token) = true :=
      eqIgnoreAsciiCase_self "authorization"
    refine ⟨?_, filter_uncovered own, rfl, rfl, rfl⟩
    have alone := filter_covered own (headers_unauthorized requested)
    simp [TokenPlace.values, TokenPlace.apply, alone, TokenPlace.coversQuery, TokenPlace.credential]
  | header name =>
    have own : (TokenPlace.header name).coversHeader (name, token) = true :=
      eqIgnoreAsciiCase_self name
    have kept : (planned.headers.filter fun (key, _) => !eqIgnoreAsciiCase key name) =
        planned.headers.filter (!(TokenPlace.header name).coversHeader ·) := rfl
    refine ⟨?_, ?_, rfl, rfl, rfl⟩
    · have alone := filter_covered own (retained_uncovered planned.headers)
      simp [TokenPlace.values, TokenPlace.apply, kept, alone, TokenPlace.coversQuery,
        TokenPlace.credential]
    · rw [TokenPlace.apply, kept, filter_uncovered own, List.filter_filter]
      simp
  | query name =>
    have own : (TokenPlace.query name).coversQuery (name, token) = true := decide_eq_true rfl
    have kept : (planned.url.query.filter fun (key, _) => key ≠ name) =
        planned.url.query.filter (!(TokenPlace.query name).coversQuery ·) := by
      simp [TokenPlace.coversQuery]
    refine ⟨?_, rfl, ?_, rfl, rfl⟩
    · have alone := filter_covered own (retained_uncovered planned.url.query)
      have elsewhere : planned.headers.filter (TokenPlace.query name).coversHeader = [] :=
        List.filter_eq_nil_iff.mpr fun _ _ => Bool.false_ne_true
      dsimp only [TokenPlace.values, TokenPlace.apply]
      rw [kept, alone, elsewhere]
      rfl
    · dsimp only [TokenPlace.apply]
      rw [kept, filter_uncovered own, List.filter_filter]
      simp

theorem apply_alone_pet :
    ∃ planned, getPet.request (fun _ => "null") escape petApi (petArguments "7") = .ok planned ∧
      (TokenPlace.header "x-api-key").values
        ((TokenPlace.header "x-api-key").apply "secret" planned) = ["secret"] := by
  refine ⟨_, rfl, ?_⟩
  have alone := @apply_alone (fun _ => "null") escape getPet petApi (petArguments "7") _ rfl
    (.header "x-api-key") "secret"
  exact alone.1

end Requests

end Plug.OpenApi
