import Plug.CatalogPrefixes
import Plug.OpenApiRequests
import Plug.OpenApiSchemas

/-!
# Names of an API's operations

Every operation of a document gets a name of its own, which is made from its `operationId` or from
its method and path, and is numbered when another operation has it. A choice of operations is a
list of patterns for names and for operation ids. The listing that a person chooses from and the
document that is read for the choice number the operations alike, since an operation that is not
chosen takes its name as well.
-/

namespace Plug.OpenApi

open JsonValues (Value Members lookup)
open ToolNaming (wildcardMatch wildcardMatch_plain)

/-- Most operations one API server may expose. -/
def maxOperations : Nat := 50

def methods : List String := ["get", "put", "post", "delete", "patch", "head", "options"]

/-- An operation as the document has it. -/
structure Declared where
  path : List Char
  method : List Char
  operation : Value
  sharedParameters : Option Value

def Declared.operationId (declared : Declared) : Option (List Char) :=
  ((declared.operation.member? "operationId").bind Value.asStr).map String.toList

/-- An operation as it is listed. -/
structure ListedOperation where
  name : List Char
  method : List Char
  request : Operation
  description : List Char
  tag : Option String
deriving DecidableEq

structure OperationSummary where
  name : List Char
  method : List Char
  path : List Char
  summary : List Char
  tag : Option String
deriving DecidableEq

structure ApiDocument where
  title : String
  version : String
  baseUrl : BaseUrl
  operations : List ListedOperation
deriving DecidableEq

structure ApiSummary where
  title : String
  operations : List OperationSummary
deriving DecidableEq

/-! ### One operation -/

/-- The text with each run of other characters than ASCII letters, digits and hyphens as one
underscore. -/
def reduced (raw : List Char) : List Char :=
  raw.foldl (fun name character =>
    if character.isAlphanum || character = '-' then name ++ [character]
    else if name.getLast? ≠ some '_' then name ++ ['_']
    else name) []

def toolName (operationId : Option (List Char)) (method path : List Char) : List Char :=
  let raw := (operationId.filter fun id => Text.trim id ≠ []).getD (method ++ '_' :: path)
  let name := Text.trimEndMatches (· = '_') ((reduced raw).dropWhile (· = '_'))
  if name = [] then method else name

def asBool : Value → Option Bool
  | .bool value => some value
  | _ => none

/-- A parameter, unless it has no name or belongs to a cookie. -/
def declaredParameter (root value : Value) : Option Parameter := do
  let parameter := resolve root value
  let name ← (parameter.member? "name").bind Value.asStr
  let place ← (parameter.member? "in").bind Value.asStr
  let location ←
    if place = "path" then some ParameterLocation.path
    else if place = "query" then some .query
    else if place = "header" then some .header
    else none
  let required := ((parameter.member? "required").bind asBool).getD false
  some ⟨name, location, location = .path || required⟩

/-- The parameters of an operation come second, so that they replace those of the path. -/
def parametersOf (root : Value) (declared : Declared) : List Parameter :=
  let values := declared.sharedParameters.toList ++ (declared.operation.member? "parameters").toList
  let parameters := (values.filterMap Value.asArray).flatten.filterMap (declaredParameter root)
  parameters.foldl (fun kept parameter =>
    kept.filter (fun existing =>
      !(existing.name = parameter.name && existing.location = parameter.location)) ++ [parameter]) []

def isJson (mediaType : String) : Bool :=
  let essence := (mediaType.toList.splitOn ';').headD []
  let essence := Text.toAsciiLowercase (Text.trim essence)
  essence = "application/json".toList || "+json".toList.isSuffixOf essence

/-- Only a JSON body is offered, under a name that no parameter has. -/
def bodyArgument (root : Value) (declared : Declared) (parameters : List Parameter) :
    Option String := do
  let body := resolve root (← declared.operation.member? "requestBody")
  let content ← (body.member? "content").bind Value.asObject
  let _ ← content.find? fun (mediaType, _) => isJson mediaType
  some (if parameters.any fun parameter => parameter.name = "body" then "requestBody" else "body")

def buildOperation (root : Value) (name : List Char) (declared : Declared) : ListedOperation :=
  let parameters := parametersOf root declared
  let method := declared.method.map Char.toUpper
  let summary := (declared.operation.member? "summary").bind Value.asStr
  let detail := (declared.operation.member? "description").bind Value.asStr
  let description := match summary, detail with
    | some summary, some detail =>
      if summary ≠ detail then summary.toList ++ "\n\n".toList ++ detail.toList else summary.toList
    | some text, none => text.toList
    | none, some text => text.toList
    | none, none => method ++ ' ' :: declared.path
  { name
    method
    request := ⟨declared.path, parameters, bodyArgument root declared parameters⟩
    description
    tag := (pointer declared.operation "/tags/0".toList).bind Value.asStr }

/-- The first of the text's `str::lines`. -/
def firstLine (text : List Char) : List Char :=
  match Text.splitOnce ['\n'] text with
  | some (line, _) => (Text.stripSuffix ['\r'] line).getD line
  | none => text

def summarize (operation : ListedOperation) : OperationSummary where
  name := operation.name
  method := operation.method
  path := operation.request.path
  summary := firstLine operation.description
  tag := operation.tag

/-! ### A document -/

/-- The operations of the paths, each path's in the order of the methods. -/
def declarations (root : Value) (paths : Members) : List Declared :=
  paths.flatMap fun (path, item) =>
    let item := resolve root item
    methods.filterMap fun method =>
      ((item.member? method).filter fun value => value.asObject.isSome).map fun operation =>
        ⟨path.toList, method.toList, operation, item.member? "parameters"⟩

/-- Two operations that reduce to one name are both kept callable. -/
def ownName (names : List (List Char)) (name : List Char) : List Char :=
  if name ∈ names then
    match Catalog.firstFree names (name ++ ['_']) (names.length + 1) 2 with
    | some suffix => Catalog.numbered (name ++ ['_']) suffix
    | none => name
  else name

def isSelected (selected : List (List Char)) (name : List Char)
    (operationId : Option (List Char)) : Bool :=
  selected.isEmpty || selected.any fun pattern =>
    wildcardMatch pattern name || operationId.any fun id => wildcardMatch pattern id

/-- One turn of the loop over the operations: the operations that are kept, and all names. -/
def addOperation (root : Value) (selected : List (List Char))
    (kept : List ListedOperation × List (List Char)) (declared : Declared) :
    List ListedOperation × List (List Char) :=
  let (operations, names) := kept
  let name := ownName names (toolName declared.operationId declared.method declared.path)
  if isSelected selected name declared.operationId then
    (operations ++ [buildOperation root name declared], name :: names)
  else (operations, name :: names)

def checkVersion (root : Value) : Except String Unit :=
  match (root.member? "openapi").bind Value.asStr with
  | some version =>
    if "3.".toList.isPrefixOf version.toList then .ok ()
    else .error ("OpenAPI " ++ version ++ " is not supported; Plug reads OpenAPI 3")
  | none =>
    if (root.member? "swagger").isSome then
      .error "this is a Swagger 2 document; Plug reads OpenAPI 3"
    else .error "not an OpenAPI document: no 'openapi' field"

def pathsOf (root : Value) : Except String Members :=
  match (root.member? "paths").bind Value.asObject with
  | some paths => .ok paths
  | none => .error "OpenAPI document has no 'paths'"

def infoText (root : Value) (key default : String) : String :=
  (((root.member? "info").bind fun info => info.member? key).bind Value.asStr).getD default

section Documents

variable (baseUrl : Value → String → Option String → Except String BaseUrl)

def parseUnlimited (root : Value) (spec : String) (urlOverride : Option String)
    (selected : List (List Char)) : Except String ApiDocument := do
  checkVersion root
  let base ← baseUrl root spec urlOverride
  let paths ← pathsOf root
  let operations := ((declarations root paths).foldl (addOperation root selected) ([], [])).1
  if operations.isEmpty then
    throw (if selected.isEmpty then "OpenAPI document describes no operations"
      else "no operation in the OpenAPI document matches 'operations'")
  else
    return ⟨infoText root "title" "HTTP API", infoText root "version" "0", base, operations⟩

/-- Parse a document that is read as a JSON value. -/
def parseDocument (root : Value) (spec : String) (urlOverride : Option String)
    (selected : List (List Char)) : Except String ApiDocument := do
  let document ← parseUnlimited baseUrl root spec urlOverride selected
  if document.operations.length > maxOperations then
    throw ("this API has " ++ toString document.operations.length ++
      " operations and a server may expose " ++ toString maxOperations ++
      "; name the ones you want with 'operations'")
  return document

/-- List every operation of a document, however many. -/
def describe (root : Value) (spec : String) : Except String ApiSummary := do
  let document ← parseUnlimited baseUrl root spec none []
  return ⟨document.title, document.operations.map summarize⟩

end Documents

variable {root : Value} {selected names : List (List Char)} {items : List Declared}

/-! ### The names -/

theorem ownName_fresh (names : List (List Char)) (name : List Char) : ownName names name ∉ names := by
  unfold ownName
  split
  · obtain ⟨suffix, found⟩ := Catalog.firstFree_exists names (name ++ ['_']) 2
    rw [found]
    exact (Catalog.firstFree_sound found).1
  · assumption

/-- The operations with the names that they get. -/
def named : List (List Char) → List Declared → List (List Char × Declared)
  | _, [] => []
  | names, declared :: rest =>
    let name := ownName names (toolName declared.operationId declared.method declared.path)
    (name, declared) :: named (name :: names) rest

theorem named_fresh (names : List (List Char)) (items : List Declared) :
    ∀ name ∈ (named names items).map Prod.fst, name ∉ names := by
  induction items generalizing names with
  | nil => exact fun _ among => absurd among List.not_mem_nil
  | cons declared rest ih =>
    intro name among
    rcases List.mem_cons.mp among with rfl | later
    · exact ownName_fresh names _
    · exact fun taken => ih _ name later (List.mem_cons_of_mem _ taken)

theorem named_nodup (names : List (List Char)) (items : List Declared) :
    ((named names items).map Prod.fst).Nodup := by
  induction items generalizing names with
  | nil => exact .nil
  | cons declared rest ih =>
    apply List.nodup_cons.mpr
    constructor
    · intro later
      exact named_fresh _ rest _ later List.mem_cons_self
    · exact ih _

/-- An operation takes its name whether it is selected or not. -/
theorem foldl_addOperation (operations : List ListedOperation) (names : List (List Char))
    (items : List Declared) :
    (items.foldl (addOperation root selected) (operations, names)).1 =
      operations ++ ((named names items).filter fun (name, declared) =>
        isSelected selected name declared.operationId).map fun (name, declared) =>
          buildOperation root name declared := by
  induction items generalizing operations names with
  | nil => exact (List.append_nil _).symm
  | cons declared rest ih =>
    rw [List.foldl_cons, addOperation, named, List.filter_cons]
    dsimp only
    split
    · rw [ih, List.append_assoc]
      rfl
    · exact ih _ _

/-! ### Patterns without stars -/

theorem star_not_mem_reduced (raw : List Char) : '*' ∉ reduced raw := by
  have each (text name : List Char) (before : '*' ∉ name) :
      '*' ∉ text.foldl (fun name character =>
        if character.isAlphanum || character = '-' then name ++ [character]
        else if name.getLast? ≠ some '_' then name ++ ['_']
        else name) name := by
    induction text generalizing name with
    | nil => exact before
    | cons character text ih =>
      rw [List.foldl_cons]
      apply ih
      split
      · rename_i kept
        intro star
        rcases List.mem_append.mp star with early | last
        · exact before early
        · rw [← List.mem_singleton.mp last] at kept
          revert kept
          decide
      · split
        · simpa using before
        · exact before
  exact each raw [] List.not_mem_nil

theorem star_not_mem_toolName {method : List Char} (plain : '*' ∉ method)
    (operationId : Option (List Char)) (path : List Char) :
    '*' ∉ toolName operationId method path := by
  unfold toolName
  dsimp only
  split
  · exact plain
  · intro star
    have trimmed := (List.dropWhile_suffix _).subset (List.mem_reverse.mp star)
    have within := (List.dropWhile_suffix _).subset (List.mem_reverse.mp trimmed)
    exact star_not_mem_reduced _ within

theorem star_not_mem_ownName {name : List Char} (plain : '*' ∉ name) (names : List (List Char)) :
    '*' ∉ ownName names name := by
  unfold ownName
  split
  · split
    · intro star
      rcases List.mem_append.mp star with early | digit
      · simp [plain] at early
      · have code := Nat.isDigit_of_mem_toDigits (by decide) (by decide) digit
        revert code
        decide
    · exact plain
  · exact plain

theorem star_not_mem_named (names : List (List Char))
    (plain : ∀ declared ∈ items, '*' ∉ declared.method) :
    ∀ name ∈ (named names items).map Prod.fst, '*' ∉ name := by
  induction items generalizing names with
  | nil => exact fun _ among => absurd among List.not_mem_nil
  | cons declared rest ih =>
    intro name among
    rcases List.mem_cons.mp among with rfl | later
    · exact star_not_mem_ownName (star_not_mem_toolName (plain declared List.mem_cons_self) _ _) _
    · exact ih _ (fun other among => plain other (List.mem_cons_of_mem _ among))
        name later

theorem star_not_mem_method (root : Value) (paths : Members) :
    ∀ declared ∈ declarations root paths, '*' ∉ declared.method := by
  intro declared among
  obtain ⟨path, _, own⟩ := List.mem_flatMap.mp among
  obtain ⟨method, listed, found⟩ := List.mem_filterMap.mp own
  obtain ⟨operation, _, rfl⟩ := Option.map_eq_some_iff.mp found
  have plain : ∀ method ∈ methods, '*' ∉ method.toList := by decide
  exact plain method listed

/-- Names without stars select what has one of them as its name or as its operation id. -/
theorem isSelected_iff (filled : selected ≠ []) (plain : ∀ pattern ∈ selected, '*' ∉ pattern)
    (name : List Char) (operationId : Option (List Char)) :
    isSelected selected name operationId = true ↔
      name ∈ selected ∨ ∃ id, operationId = some id ∧ id ∈ selected := by
  have someSelected : selected.isEmpty = false := List.isEmpty_eq_false_iff.mpr filled
  rw [isSelected, someSelected, Bool.false_or, List.any_eq_true]
  constructor
  · rintro ⟨pattern, among, chosen⟩
    rcases Bool.or_eq_true_iff.mp chosen with byName | byId
    · rw [wildcardMatch_plain (plain pattern among)] at byName
      exact .inl (of_decide_eq_true byName ▸ among)
    · obtain ⟨id, own, byId⟩ := (Option.any_eq_true _ _).mp byId
      rw [wildcardMatch_plain (plain pattern among)] at byId
      exact .inr ⟨id, own, of_decide_eq_true byId ▸ among⟩
  · rintro (byName | ⟨id, rfl, byId⟩)
    · refine ⟨name, byName, ?_⟩
      rw [wildcardMatch_plain (plain name byName), decide_eq_true rfl, Bool.true_or]
    · refine ⟨id, byId, ?_⟩
      rw [Option.any_some, wildcardMatch_plain (plain id byId) id, decide_eq_true rfl, Bool.or_true]

/-! ### The choice -/

variable {baseUrl : Value → String → Option String → Except String BaseUrl} {spec : String}
  {urlOverride : Option String} {base : BaseUrl} {paths : Members} {document : ApiDocument}

/-- The operations of a document, each with its operation id. -/
def listing (root : Value) (paths : Members) : List (ListedOperation × Option (List Char)) :=
  (named [] (declarations root paths)).map fun (name, declared) =>
    (buildOperation root name declared, declared.operationId)

/-- The operations that a selection keeps. -/
def keptBy (selected : List (List Char)) (root : Value) (paths : Members) : List ListedOperation :=
  ((listing root paths).filter fun (operation, operationId) =>
    isSelected selected operation.name operationId).map Prod.fst

theorem foldl_addOperation_nil :
    ((declarations root paths).foldl (addOperation root selected) ([], [])).1 =
      keptBy selected root paths := by
  rw [foldl_addOperation, keptBy, listing, List.filter_map, List.map_map]
  rfl

theorem parseUnlimited_eq (supported : checkVersion root = .ok ())
    (addressed : baseUrl root spec urlOverride = .ok base) (has : pathsOf root = .ok paths)
    (some : keptBy selected root paths ≠ []) :
    parseUnlimited baseUrl root spec urlOverride selected =
      .ok ⟨infoText root "title" "HTTP API", infoText root "version" "0", base,
        keptBy selected root paths⟩ := by
  have filled : (keptBy selected root paths).isEmpty = false := List.isEmpty_eq_false_iff.mpr some
  rw [parseUnlimited, supported, addressed, has]
  simp only [bind, Except.bind, foldl_addOperation_nil, filled]
  rfl

/-- What a document is that is parsed. -/
theorem parseUnlimited_inv
    (parsed : parseUnlimited baseUrl root spec urlOverride selected = .ok document) :
    checkVersion root = .ok () ∧ ∃ paths, pathsOf root = .ok paths ∧
      document.operations = keptBy selected root paths := by
  unfold parseUnlimited at parsed
  cases supported : checkVersion root with
  | error => rw [supported] at parsed; cases parsed
  | ok =>
    rw [supported] at parsed
    cases addressed : baseUrl root spec urlOverride with
    | error => rw [addressed] at parsed; cases parsed
    | ok base =>
      rw [addressed] at parsed
      cases has : pathsOf root with
      | error => rw [has] at parsed; cases parsed
      | ok paths =>
        rw [has] at parsed
        simp only [bind, Except.bind, foldl_addOperation_nil] at parsed
        split at parsed
        · cases parsed
        · cases parsed
          exact ⟨rfl, paths, rfl, rfl⟩

theorem keptBy_nil (root : Value) (paths : Members) :
    keptBy [] root paths = (listing root paths).map Prod.fst := by
  unfold keptBy
  congr 1
  apply List.filter_eq_self.mpr
  exact fun _ _ => rfl

theorem names_listing (root : Value) (paths : Members) :
    ((listing root paths).map Prod.fst).map ListedOperation.name =
      (named [] (declarations root paths)).map Prod.fst := by
  rw [listing, List.map_map, List.map_map]
  rfl

theorem describe_inv {summary : ApiSummary} (described : describe baseUrl root spec = .ok summary) :
    ∃ document, parseUnlimited baseUrl root spec none [] = .ok document ∧
      summary = ⟨document.title, document.operations.map summarize⟩ := by
  unfold describe at described
  cases parsed : parseUnlimited baseUrl root spec none [] with
  | error => rw [parsed] at described; cases described
  | ok document =>
    rw [parsed] at described
    cases described
    exact ⟨document, rfl, rfl⟩

/-- The operations of a document have names of their own, and choosing some of the names keeps the
operations of these names and those with one of them as operation id, in the order of the listing,
unless these are too many. -/
theorem chosen_operations {summary : ApiSummary} (described : describe baseUrl root spec = .ok summary)
    (addressed : baseUrl root spec urlOverride = .ok base) {chosen : List (List Char)}
    (filled : chosen ≠ [])
    (listed : ∀ name ∈ chosen, name ∈ summary.operations.map OperationSummary.name) :
    (summary.operations.map OperationSummary.name).Nodup ∧
      ∃ paths, pathsOf root = .ok paths ∧
        summary.operations = (listing root paths).map (summarize ∘ Prod.fst) ∧
        let kept := ((listing root paths).filter fun (operation, operationId) =>
          decide (operation.name ∈ chosen ∨ ∃ id ∈ operationId, id ∈ chosen)).map Prod.fst
        (kept.length ≤ maxOperations →
          parseDocument baseUrl root spec urlOverride chosen =
            .ok ⟨infoText root "title" "HTTP API", infoText root "version" "0", base, kept⟩) ∧
        (maxOperations < kept.length →
          ∃ message, parseDocument baseUrl root spec urlOverride chosen = .error message) := by
  obtain ⟨document, parsed, rfl⟩ := describe_inv described
  obtain ⟨supported, paths, has, all⟩ := parseUnlimited_inv parsed
  rw [keptBy_nil] at all
  have names : (document.operations.map summarize).map OperationSummary.name =
      (named [] (declarations root paths)).map Prod.fst := by
    rw [all, ← names_listing, List.map_map]
    rfl
  rw [names] at listed
  have plain : ∀ name ∈ chosen, '*' ∉ name := fun name among =>
    star_not_mem_named [] (star_not_mem_method root paths) name (listed name among)
  have kept : keptBy chosen root paths =
      ((listing root paths).filter fun (operation, operationId) =>
        decide (operation.name ∈ chosen ∨ ∃ id ∈ operationId, id ∈ chosen)).map Prod.fst := by
    unfold keptBy
    congr 2
    funext ⟨operation, operationId⟩
    exact Bool.eq_iff_iff.mpr ((isSelected_iff filled plain _ _).trans decide_eq_true_iff.symm)
  have some : keptBy chosen root paths ≠ [] := by
    obtain ⟨name, among⟩ := List.exists_mem_of_ne_nil chosen filled
    rw [← names_listing, List.map_map] at listed
    obtain ⟨entry, own, rfl⟩ := List.mem_map.mp (listed name among)
    rw [kept]
    exact List.ne_nil_of_mem (List.mem_map_of_mem
      (List.mem_filter.mpr ⟨own, decide_eq_true (.inl among)⟩))
  refine ⟨names ▸ named_nodup [] _, paths, has, ?_, ?_⟩
  · rw [all, List.map_map]
  · rw [← kept]
    dsimp only
    rw [parseDocument, parseUnlimited_eq supported addressed has some]
    simp only [bind, Except.bind]
    constructor
    · intro few
      rw [if_neg (Nat.not_lt.mpr few)]
      rfl
    · intro many
      rw [if_pos many]
      exact ⟨_, rfl⟩

/-- Two operations, the second of which has the name of the first as its operation id. -/
def petNames : Value :=
  .object [("openapi", .string "3.0.3"),
    ("servers", .array [.object [("url", .string "https://api.example.com/v1/")]]),
    ("paths", .object [("/a", .object [("get", .object [("operationId", .string "get.pet")])]),
      ("/b", .object [("get", .object [("operationId", .string "get_pet")])])])]

def petUrl : Value → String → Option String → Except String BaseUrl := fun _ _ _ => .ok petApi

theorem chosen_operations_pet :
    parseDocument petUrl petNames "/tmp/pets.json" none ["get_pet_2".toList] =
      .ok ⟨"HTTP API", "0", petApi,
        [⟨"get_pet_2".toList, "GET".toList, ⟨"/b".toList, [], none⟩, "GET /b".toList, none⟩]⟩ := by
  have chosen := chosen_operations
    (show describe petUrl petNames "/tmp/pets.json" = .ok ⟨"HTTP API",
      [⟨"get_pet".toList, "GET".toList, "/a".toList, "GET /a".toList, none⟩,
        ⟨"get_pet_2".toList, "GET".toList, "/b".toList, "GET /b".toList, none⟩]⟩ from by decide)
    (show petUrl petNames "/tmp/pets.json" none = .ok petApi from rfl)
    (show ["get_pet_2".toList] ≠ [] from by decide) (by decide)
  obtain ⟨_, paths, has, _, parsed, _⟩ := chosen
  cases has
  exact (parsed (by decide)).trans (by decide)

/-- The name of one operation is the operation id of the other, so choosing it keeps both. -/
theorem name_chooses_two :
    describe petUrl petNames "/tmp/pets.json" = .ok ⟨"HTTP API",
        [⟨"get_pet".toList, "GET".toList, "/a".toList, "GET /a".toList, none⟩,
          ⟨"get_pet_2".toList, "GET".toList, "/b".toList, "GET /b".toList, none⟩]⟩ ∧
      parseDocument petUrl petNames "/tmp/pets.json" none ["get_pet".toList] =
        .ok ⟨"HTTP API", "0", petApi,
          [⟨"get_pet".toList, "GET".toList, ⟨"/a".toList, [], none⟩, "GET /a".toList, none⟩,
            ⟨"get_pet_2".toList, "GET".toList, ⟨"/b".toList, [], none⟩, "GET /b".toList, none⟩]⟩ :=
  ⟨by decide, by decide⟩

end Plug.OpenApi
