import Plug.Text

/-!
# Annotation inference

Every routed tool gets behaviour hints that Plug reads off its name, the values
of its `action` argument, its title and its description. Where that reading is
confident it replaces what the server declared. The hints for open-world access
and task support play no part in repeating calls and are not modelled.
-/

namespace Plug.Enrichment

open Text

inductive ToolSemantics where
  | readOnly
  | mutating
  | destructive
  | unknown
deriving DecidableEq

inductive ToolRepeatability where
  | idempotent
  | nonIdempotent
  | unknown
deriving DecidableEq

/-- The behaviour hints of a tool, as declared or inferred. -/
structure ToolAnnotations where
  readOnlyHint : Option Bool
  destructiveHint : Option Bool
  idempotentHint : Option Bool
deriving DecidableEq

/-- A tool as its server lists it. `actionEnum` holds the string values of the
`enum` of the `action` property in its input schema, if the schema has one. -/
structure Tool where
  title : Option (List Char)
  description : Option (List Char)
  actionEnum : Option (List (List Char))
  annotations : Option ToolAnnotations

def words (texts : List String) : List (List Char) :=
  texts.map String.toList

def readTokens : List (List Char) :=
  words ["get", "list", "search", "read", "fetch", "watch", "query", "resolve", "browse", "audit",
    "check", "inspect", "validate", "verify", "diagnose", "lint", "find", "capture", "reload",
    "download", "export", "generate", "history", "debug", "replies"]

def destructiveTokens : List (List Char) :=
  words ["delete", "remove", "drop", "destroy"]

def writeTokens : List (List Char) :=
  words ["create", "add", "insert", "set", "update", "write", "edit", "modify", "post", "send",
    "draft", "rename", "move", "manage", "clone", "arrange", "instantiate", "batch", "start", "run",
    "clear", "duplicate", "resize", "skip", "format", "copy", "import", "toggle", "focus",
    "navigate", "reconnect", "mark", "join", "leave"]

/-- The first token that is one of the candidates decides; of two kinds at one
place, the more harmful. -/
def classifyToolSemanticsFromTokens (name : List Char) : ToolSemantics :=
  let tokens := (name.splitOn '_').filter (· ≠ [])
  let firstMatch (candidates : List (List Char)) : Option Nat :=
    tokens.findIdx? fun token => candidates.contains token
  let destructiveAt := firstMatch destructiveTokens
  let writeAt := firstMatch writeTokens
  let readAt := firstMatch readTokens
  match ([destructiveAt, writeAt, readAt].filterMap id).min? with
  | none => .unknown
  | some position =>
    if destructiveAt = some position then .destructive
    else if writeAt = some position then .mutating
    else if readAt = some position then .readOnly
    else .unknown

def classifyToolSemanticsFromActions (actionValues : Option (List (List Char))) : ToolSemantics :=
  match actionValues with
  | none => .unknown
  | some values =>
    let kinds := values.map classifyToolSemanticsFromTokens
    if kinds.contains .destructive then .destructive
    else if kinds.contains .mutating then .mutating
    else if kinds.contains .readOnly then .readOnly
    else .unknown

/-- The three scores a text collects. -/
structure Scores where
  read : Nat
  mutating : Nat
  destructive : Nat

def scoreText (text : List Char) (weight : Nat) (scores : Scores) : Scores :=
  let lowered := toAsciiLowercase text
  let startsWith (texts : List String) : Bool :=
    (words texts).any fun start => start.isPrefixOf lowered
  let containsAny (texts : List String) : Bool :=
    (words texts).any fun pattern => contains pattern lowered
  { read := scores.read +
      (if startsWith ["get ", "list ", "read ", "search ", "find ", "fetch ", "retrieve ",
        "inspect ", "check ", "query ", "resolve ", "return ", "returns ", "given ",
        "export an image"] then weight * 3 else 0) +
      (if containsAny ["returns", "retrieve", "extract", "extracting", "debugging tool",
        "shows you", "current date/time", "date range enumeration", "playground link",
        "suggestions to fix", "research any company", "full content of a specific webpage",
        "image url", "thread of messages", "dashboard data", "token data"] then weight else 0)
    mutating := scores.mutating +
      (if startsWith ["create ", "add ", "insert ", "set ", "update ", "write ", "edit ",
        "modify ", "post ", "send ", "draft ", "rename ", "move ", "manage ", "start ", "run ",
        "execute ", "clear ", "duplicate ", "toggle ", "apply ", "import ", "copy ", "mark ",
        "navigate ", "focus ", "force ", "resize "] then weight * 3 else 0) +
      (if containsAny ["can modify your document", "create a complete", "applies formatting",
        "toggle whether", "imports a file", "copy of an existing", "mark a channel or dm as read",
        "join/leave", "authentication flow", "begin capturing console logs", "reconnection",
        "clone is placed", "executes a function", "research id", "clear the console log buffer",
        "duplicate an existing slide"] then weight else 0)
    destructive := scores.destructive +
      (if containsAny ["destructive operation", "cannot be undone", "permanently delete",
        "warning: this is a destructive operation"] then weight * 4 else 0) }

def classifyToolSemanticsFromText (title description : Option (List Char)) : ToolSemantics :=
  let titled := match title with
    | some title => scoreText title 2 ⟨0, 0, 0⟩
    | none => ⟨0, 0, 0⟩
  let scores := match description with
    | some description =>
      let firstSentence := ((description.splitOn '\n').find? fun (line : List Char) =>
        !line.all isWhitespace).getD description
      scoreText description 1 (scoreText firstSentence 3 titled)
    | none => titled
  if scores.destructive > 0 ∧ scores.destructive ≥ scores.mutating ∧
      scores.destructive ≥ scores.read then .destructive
  else if scores.mutating > 0 ∧ scores.mutating ≥ scores.read then .mutating
  else if scores.read > 0 then .readOnly
  else .unknown

def classifyToolSemanticsWithMetadata (name : List Char) (title description : Option (List Char))
    (actionValues : Option (List (List Char))) : ToolSemantics :=
  match classifyToolSemanticsFromTokens name with
  | .unknown =>
    match classifyToolSemanticsFromActions actionValues with
    | .unknown => classifyToolSemanticsFromText title description
    | fromActions => fromActions
  | fromName => fromName

/-- The values of the `action` argument; an empty list counts as none. -/
def actionValues (tool : Tool) : Option (List (List Char)) :=
  (tool.actionEnum.map fun values => values.map toAsciiLowercase).filter (· ≠ [])

def idempotentTokens : List (List Char) :=
  words ["set", "update", "rename", "resize", "format", "mark", "skip", "focus", "navigate",
    "reconnect", "reload", "clear"]

def nonIdempotentTokens : List (List Char) :=
  words ["create", "add", "insert", "post", "send", "draft", "duplicate", "copy", "import", "clone",
    "start", "join", "leave"]

def inferRepeatability (name : List Char) (semantics : ToolSemantics)
    (description : Option (List Char)) : ToolRepeatability :=
  let tokens := (toAsciiLowercase name).splitOn '_'
  let described := toAsciiLowercase (description.getD [])
  if semantics = .readOnly then .idempotent
  else if tokens.any idempotentTokens.contains then .idempotent
  else if tokens.any nonIdempotentTokens.contains then .nonIdempotent
  else if contains "same arguments".toList described || contains "same call".toList described ||
      contains "without additional effect".toList described then .idempotent
  else
    match semantics with
    | .readOnly => .idempotent
    | .destructive => .nonIdempotent
    | .mutating => .unknown
    | .unknown => .unknown

/-- The hints a tool is routed with under the name `name`. -/
def normalizeAnnotations (tool : Tool) (name : List Char) : ToolAnnotations :=
  let semantics := classifyToolSemanticsWithMetadata name tool.title tool.description
    (actionValues tool)
  let declared := tool.annotations.getD ⟨none, none, none⟩
  let described : ToolAnnotations := match semantics with
    | .readOnly => { declared with readOnlyHint := some true, destructiveHint := some false }
    | .mutating => { declared with readOnlyHint := some false, destructiveHint := some false }
    | .destructive => { declared with readOnlyHint := some false, destructiveHint := some true }
    | .unknown => declared
  match inferRepeatability name semantics tool.description with
  | .idempotent => { described with idempotentHint := some true }
  | .nonIdempotent => { described with idempotentHint := some false }
  | .unknown => described

/-- Whether hints say that a second run does no harm. -/
def ToolAnnotations.harmless (hints : ToolAnnotations) : Bool :=
  hints.readOnlyHint == some true || hints.idempotentHint == some true

/-- Whether the server itself declared that a second run does no harm. -/
def Tool.declaredHarmless (tool : Tool) : Bool :=
  tool.annotations.any ToolAnnotations.harmless

end Plug.Enrichment
