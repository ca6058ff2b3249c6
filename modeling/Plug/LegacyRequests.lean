import Plug.JsonPaths
import Plug.McpResults

/-!
# Requests of the legacy protocol

A request of the legacy protocol names its tasks in ways the newer one dropped: a field of the
call's parameters, a capability of its own, four methods. Each is moved under a private name before
the request is read. The move assigns through an index, which takes a value that is missing, null or
an object and panics at any other. `rewrites_iff` says which requests get through.
-/

namespace Plug.LegacyRequests

open JsonValues

variable {key inner : String} {value new changed params task : Value} {members : Members}

def legacyTaskRequestKey : String := "plug.dev/legacy-task"

/-- What an index with a text can be assigned through. -/
def indexable : Option Value → Bool
  | none | some .null | some (.object _) => true
  | _ => false

/-- The assignment turns null into an object. Any other value that is not one panics. -/
def assignAt (key : String) (new : Value) : Value → Option Value
  | .null => some (.object [(key, new)])
  | .object members => some (.object (insert key new members))
  | _ => none

/-- The assignment through the entry of a key, which is an empty object where there was none. -/
def assignEntry (inner key : String) (new : Value) (members : Members) : Option Members :=
  (assignAt key new ((lookup inner members).getD (.object []))).map fun changed =>
    insert inner changed members

/-- The parameters with their task in the metadata, and none if an assignment panics. -/
def rewriteLegacyCallParams : Value → Option Value
  | .object params =>
    match lookup "task" params with
    | some task =>
      (assignEntry "_meta" legacyTaskRequestKey task (remove "task" params)).map .object
    | none => some (.object params)
  | value => some value

def legacyTaskMethods : List String :=
  ["tasks/list", "tasks/get", "tasks/result", "tasks/cancel"]

def rewriteTaskMethod (method : String) (object : Members) : Members :=
  if method ∈ legacyTaskMethods then
    insert "method" (.string ("plug/legacy/" ++ method)) object
  else object

def rewriteToolCall (method : String) (object : Members) : Option Members :=
  if method = "tools/call" then
    match lookup "params" object with
    | some params =>
      (rewriteLegacyCallParams params).map fun changed => insert "params" changed object
    | none => some object
  else some object

/-- The capabilities with their tasks as an extension and as an experimental capability. -/
def moveTasks (tasks : Value) (capabilities : Members) : Option Members :=
  (assignEntry "extensions" Mcp.tasksExtensionId (.object []) (remove "tasks" capabilities)).bind
    (assignEntry "experimental" Mcp.legacyTasksCapabilityKey tasks)

def rewriteInitialize (method : String) (object : Members) : Option Members :=
  if method = "initialize" then
    match lookup "params" object with
    | some (.object params) =>
      match lookup "capabilities" params with
      | some (.object capabilities) =>
        match lookup "tasks" capabilities with
        | some tasks =>
          (moveTasks tasks capabilities).map fun changed =>
            insert "params" (.object (insert "capabilities" (.object changed) params)) object
        | none => some object
      | _ => some object
    | _ => some object
  else some object

/-- The request in the words of the newer protocol, and none if an assignment panics. -/
def rewriteLegacyRequest : Value → Option Value
  | .object object =>
    match (lookup "method" object).bind Value.asStr with
    | some method =>
      ((rewriteToolCall method (rewriteTaskMethod method object)).bind
        (rewriteInitialize method)).map .object
    | none => some (.object object)
  | value => some value

/-! ### The condition -/

/-- Where there is a task, the metadata it goes into can be assigned through. -/
def taskFits (params : Value) : Prop :=
  (params.member? "task").isSome → indexable (params.member? "_meta")

def capabilitiesPath : List String := ["params", "capabilities"]

/-- What the request's own method moves can be assigned where it goes. -/
def requestFits (request : Value) : Prop :=
  ((request.get "method").isText "tools/call" → ∀ params ∈ request.member? "params",
      taskFits params) ∧
    ((request.get "method").isText "initialize" →
      ∀ capabilities ∈ request.at? capabilitiesPath, (capabilities.member? "tasks").isSome →
        indexable (capabilities.member? "extensions") ∧
          indexable (capabilities.member? "experimental"))

theorem isSome_assignAt (key : String) (new value : Value) :
    (assignAt key new value).isSome = indexable (some value) := by
  cases value <;> rfl

theorem isSome_assignEntry (inner key : String) (new : Value) (members : Members) :
    (assignEntry inner key new members).isSome = indexable (lookup inner members) := by
  rw [assignEntry, Option.isSome_map, isSome_assignAt]
  cases lookup inner members with
  | none => rfl
  | some value => rfl

/-- An entry that is assigned through has the value under its key, and the others stay. -/
theorem lookup_assignEntry {before after : Members} (assigned : assignEntry inner key new before =
    some after) :
    (∃ changed, lookup inner after = some changed ∧ changed.member? key = some new) ∧
      ∀ other, other ≠ inner → lookup other after = lookup other before := by
  rw [assignEntry, Option.map_eq_some_iff] at assigned
  obtain ⟨changed, put, rfl⟩ := assigned
  refine ⟨⟨changed, lookup_insert_self inner changed before, ?_⟩,
    fun other apart => lookup_insert_of_ne apart changed before⟩
  cases entry : (lookup inner before).getD (.object []) with
  | null =>
    rw [entry] at put
    cases put
    simp [Value.member?]
  | object members =>
    rw [entry] at put
    cases put
    rw [member?_eq, Value.membersOrNone, lookup_insert_self]
  | _ =>
    rw [entry] at put
    cases put

/-! ### The parameters of a call -/

theorem callParams_iff (params : Value) :
    (rewriteLegacyCallParams params).isSome ↔ taskFits params := by
  cases params with
  | object params =>
    rw [rewriteLegacyCallParams, taskFits, member?_eq, member?_eq, Value.membersOrNone]
    cases lookup "task" params with
    | some task =>
      have apart : "_meta" ≠ "task" := by decide
      simp [isSome_assignEntry, lookup_remove_of_ne apart]
    | none => simp
  | _ => simp [rewriteLegacyCallParams, taskFits, Value.member?]

/-! ### The request -/

theorem toolCall_iff (method : String) (object : Members) :
    (rewriteToolCall method object).isSome ↔
      (method = "tools/call" → ∀ params ∈ lookup "params" object, taskFits params) := by
  unfold rewriteToolCall
  by_cases call : method = "tools/call"
  · rw [if_pos call]
    cases lookup "params" object with
    | some params => simp [call, callParams_iff]
    | none => simp
  · simp [call]

theorem moveTasks_iff (tasks : Value) (capabilities : Members) :
    (moveTasks tasks capabilities).isSome ↔
      indexable (lookup "extensions" capabilities) ∧
        indexable (lookup "experimental" capabilities) := by
  have extensions := isSome_assignEntry "extensions" Mcp.tasksExtensionId (.object [])
    (remove "tasks" capabilities)
  rw [lookup_remove_of_ne (by decide)] at extensions
  rw [moveTasks]
  cases assigned : assignEntry "extensions" Mcp.tasksExtensionId (.object [])
      (remove "tasks" capabilities) with
  | none =>
    rw [assigned] at extensions
    simp [← extensions]
  | some extended =>
    rw [assigned] at extensions
    have kept := (lookup_assignEntry assigned).2 "experimental" (by decide)
    rw [Option.bind_some, isSome_assignEntry, kept, lookup_remove_of_ne (by decide)]
    simp [← extensions]

/-- What lies at the capabilities of the request, and what is moved in them. -/
theorem initialize_iff (method : String) (object : Members) :
    (rewriteInitialize method object).isSome ↔
      (method = "initialize" → ∀ capabilities ∈ (Value.object object).at? capabilitiesPath,
        (capabilities.member? "tasks").isSome →
          indexable (capabilities.member? "extensions") ∧
            indexable (capabilities.member? "experimental")) := by
  unfold rewriteInitialize capabilitiesPath
  by_cases opening : method = "initialize"
  · simp only [opening, if_pos, true_implies, at?_cons, at?_nil, member?_eq (.object object),
      Value.membersOrNone]
    cases lookup "params" object with
    | none => simp
    | some params =>
      cases params with
      | object params =>
        simp only [Option.bind_some, member?_eq (.object params), Value.membersOrNone]
        cases lookup "capabilities" params with
        | none => simp
        | some capabilities =>
          cases capabilities with
          | object capabilities =>
            simp only [Option.bind_some, Option.mem_some_iff, forall_eq',
              member?_eq (.object capabilities), Value.membersOrNone]
            cases lookup "tasks" capabilities with
            | none => simp
            | some tasks => simp [moveTasks_iff]
          | _ => simp [Value.member?]
      | _ => simp [Value.member?]
  · simp [opening]

/-- A method that is renamed is none of those whose parameters are rewritten. -/
theorem rewriteTaskMethod_other {method : String} (object : Members)
    (other : method ∉ legacyTaskMethods) : rewriteTaskMethod method object = object :=
  if_neg other

theorem isText_iff (object : Members) (text : String) :
    ((Value.object object).get "method").isText text ↔
      (lookup "method" object).bind Value.asStr = some text := by
  rw [Value.isText, Value.get, member?_eq, Value.membersOrNone, decide_eq_true_iff]
  cases lookup "method" object <;> simp [Value.asStr]

theorem request_iff (request : Value) :
    (rewriteLegacyRequest request).isSome ↔ requestFits request := by
  cases request with
  | object object =>
    rw [rewriteLegacyRequest, requestFits]
    simp only [isText_iff, member?_eq (.object object), Value.membersOrNone]
    cases (lookup "method" object).bind Value.asStr with
    | none => simp
    | some method =>
      simp only [Option.some.injEq, Option.isSome_map]
      by_cases call : method = "tools/call"
      · have other : method ∉ legacyTaskMethods := by
          rw [call]
          decide
        have apart : method ≠ "initialize" := by
          rw [call]
          decide
        have finished (changed : Members) : rewriteInitialize method changed = some changed :=
          if_neg apart
        simp only [rewriteTaskMethod_other object other, apart, false_implies, and_true,
          ← toolCall_iff]
        cases rewriteToolCall method object with
        | none => simp
        | some changed => simp [finished]
      · have passed : rewriteToolCall method (rewriteTaskMethod method object) =
            some (rewriteTaskMethod method object) := if_neg call
        rw [passed, Option.bind_some, initialize_iff]
        by_cases opening : method = "initialize"
        · have other : method ∉ legacyTaskMethods := by
            rw [opening]
            decide
          rw [rewriteTaskMethod_other object other]
          simp [call]
        · simp [call, opening]
  | _ => simp [rewriteLegacyRequest, requestFits, Value.get, Value.member?, Value.isText,
      Value.asStr]

/-- The parameters of a call get through unless their task meets metadata of another kind, and a
request unless that happens in its call or its tasks meet such extensions or experiments. -/
theorem rewrites_iff (value : Value) :
    ((rewriteLegacyCallParams value).isSome ↔ taskFits value) ∧
      ((rewriteLegacyRequest value).isSome ↔ requestFits value) :=
  ⟨callParams_iff value, request_iff value⟩

/-- Metadata that is a text stops the request. -/
theorem metadata_panics : ¬ ∀ value : Value,
    (rewriteLegacyRequest value).isSome ∧ (rewriteLegacyCallParams value).isSome := by
  intro through
  have panics : rewriteLegacyRequest (.object [("method", .string "tools/call"),
      ("params", .object [("task", .object []), ("_meta", .string "x")])]) = none := by
    decide
  have passes := (through (.object [("method", .string "tools/call"),
    ("params", .object [("task", .object []), ("_meta", .string "x")])])).1
  rw [panics] at passes
  cases passes

end Plug.LegacyRequests
