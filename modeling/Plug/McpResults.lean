import Mathlib.Data.List.Basic
import Plug.JsonValues

/-!
# Results and errors of MCP requests over IPC

The daemon answers an MCP request with a payload: the result, or the error, which the proxy knows
by its shape. On a legacy connection the payload loses the fields of the newer protocol first.
`recovered_iff` says which outcomes reach the proxy as what they were: all errors, and the results
that can be written and do not look like an error.
-/

namespace Plug.Mcp

open JsonValues

/-- A 32-bit code. -/
abbrev ErrorCode : Type := { code : Int // -2147483648 ≤ code ∧ code ≤ 2147483647 }

structure McpError where
  code : ErrorCode
  message : String
  data : Option Value

def McpError.internalError (message : String) : McpError :=
  ⟨⟨-32603, by decide⟩, message, none⟩

def McpError.toValue (error : McpError) : Value :=
  .object (("code", .number error.code) :: ("message", .string error.message) ::
    (error.data.map fun data => ("data", data)).toList)

/-- The error in an object: a 32-bit code, a text and perhaps data; other fields are ignored. -/
def McpError.fromValue (value : Value) : Option McpError :=
  match value.member? "code", value.member? "message" with
  | some (.number code), some (.string message) =>
    if small : -2147483648 ≤ code ∧ code ≤ 2147483647 then
      some ⟨⟨code, small⟩, message, (value.member? "data").filter fun data => !data.isNull⟩
    else none
  | _, _ => none

/-! ### The legacy vocabulary -/

abbrev Members : Type := List (String × Value)

def remove (key : String) (members : Members) : Members :=
  members.filter fun member => member.1 ≠ key

def insert (key : String) (value : Value) (members : Members) : Members :=
  remove key members ++ [(key, value)]

def changeObject (change : Members → Members) : Value → Value
  | .object members => .object (change members)
  | value => value

/-- The members of the object under a key, changed. -/
def modify (key : String) (change : Members → Members) (members : Members) : Members :=
  members.map fun member =>
    if member.1 = key then (member.1, changeObject change member.2) else member

def objectAt (key : String) (members : Members) : Option Members :=
  ((members.find? fun member => member.1 = key).map Prod.snd).bind Value.asObject

def tasksExtensionId : String := "io.modelcontextprotocol/tasks"

def legacyTasksCapabilityKey : String := "plug.dev/legacy-tasks"

/-- The extension and the experimental capability for tasks, as a capability. -/
def rewriteCapabilities (capabilities : Members) : Members :=
  let capabilities := modify "extensions" (remove tasksExtensionId) capabilities
  let capabilities :=
    if (objectAt "extensions" capabilities).any List.isEmpty then remove "extensions" capabilities
    else capabilities
  match objectAt "experimental" capabilities with
  | none => capabilities
  | some experimental =>
    let kept := remove legacyTasksCapabilityKey experimental
    let capabilities := modify "experimental" (fun _ => kept) capabilities
    let capabilities :=
      match (experimental.find? fun member => member.1 = legacyTasksCapabilityKey).map Prod.snd with
      | some tasks => insert "tasks" tasks capabilities
      | none => capabilities
    if kept.isEmpty then remove "experimental" capabilities else capabilities

/-- A result without the fields of the newer protocol. -/
def rewriteLegacyResult (value : Value) : Value :=
  match value with
  | .object members =>
    .object (modify "capabilities" rewriteCapabilities
      (remove "cacheScope" (remove "ttlMs" (remove "resultType" members))))
  | _ => value

/-! ### Encoding and decoding -/

def announcedFutureProtocolVersion : String := "2026-07-28"

inductive IpcResponse where
  | mcpResponse (payload : Value)
  | error (code message : String)
  /-- Any other response, as it is printed. -/
  | other (debug : String)

/-- How the results of a method are written by the daemon and read by the proxy. -/
structure ResultCodec (Result Decoded : Type) where
  toValue : Result → Except String Value
  fromValue : Value → Except String Decoded

variable {Result Decoded : Type}

/-- The protocol version is that of the request, if it came with its context. -/
def ipcOkWithContext (value : Except String Value) (protocolVersion : Option String) :
    IpcResponse :=
  match value with
  | .ok payload =>
    if protocolVersion = some announcedFutureProtocolVersion then .mcpResponse payload
    else .mcpResponse (rewriteLegacyResult payload)
  | .error e => .error "SERIALIZE_ERROR" e

def ipcFromMcpResult (codec : ResultCodec Result Decoded) (result : Except McpError Result)
    (protocolVersion : Option String) : IpcResponse :=
  match result with
  | .ok value => ipcOkWithContext (codec.toValue value) protocolVersion
  | .error err => ipcOkWithContext (.ok err.toValue) protocolVersion

def decodeMcp (codec : ResultCodec Result Decoded) (response : IpcResponse) (method : String) :
    Except McpError Decoded :=
  match response with
  | .mcpResponse payload =>
    match (payload.member? "code").bind fun _ => McpError.fromValue payload with
    | some err => .error err
    | none =>
      match codec.fromValue payload with
      | .ok value => .ok value
      | .error e => .error (.internalError s!"failed to parse {method}: {e}")
  | .error code message => .error (.internalError s!"{code}: {message}")
  | .other debug => .error (.internalError ("unexpected IPC response: " ++ debug))

/-- What the proxy makes of the outcome of a request. -/
def received (codec : ResultCodec Result Decoded) (outcome : Except McpError Result)
    (protocolVersion : Option String) (method : String) : Except McpError Decoded :=
  decodeMcp codec (ipcFromMcpResult codec outcome protocolVersion) method

/-! ### What the legacy vocabulary leaves alone -/

variable {members : Members} {key name : String}

theorem find_remove (other : name ≠ key) :
    (remove key members).find? (fun member => member.1 = name) =
      members.find? fun member => member.1 = name := by
  rw [remove, List.find?_filter]
  congr 1
  funext member
  by_cases same : member.1 = name
  · simp [same, other]
  · simp [same]

theorem find_modify (change : Members → Members) (other : name ≠ key) :
    (modify key change members).find? (fun member => member.1 = name) =
      members.find? fun member => member.1 = name := by
  induction members with
  | nil => rfl
  | cons member members ih =>
    simp only [modify] at ih
    simp only [modify, List.map_cons, List.find?_cons]
    by_cases own : member.1 = key
    · have differs : key ≠ name := fun same => other same.symm
      simp [own, differs, ih]
    · simp [own, ih]

/-- Only the fields of the newer protocol and the capabilities are changed. -/
theorem member_rewrite (value : Value)
    (kept : key ∉ ["resultType", "ttlMs", "cacheScope", "capabilities"]) :
    (rewriteLegacyResult value).member? key = value.member? key := by
  cases value with
  | object members =>
    simp only [List.mem_cons, List.not_mem_nil, or_false, not_or] at kept
    obtain ⟨resultType, ttlMs, cacheScope, capabilities⟩ := kept
    simp only [rewriteLegacyResult, Value.member?]
    rw [find_modify _ capabilities, find_remove cacheScope, find_remove ttlMs,
      find_remove resultType]
  | null => rfl
  | bool value => rfl
  | number value => rfl
  | decimal text => rfl
  | string text => rfl
  | array items => rfl

theorem fromValue_rewrite (value : Value) :
    McpError.fromValue (rewriteLegacyResult value) = McpError.fromValue value := by
  unfold McpError.fromValue
  rw [member_rewrite value (by decide), member_rewrite value (by decide),
    member_rewrite value (by decide)]

/-! ### What looks like an error -/

/-- An object with a 32-bit code and a text. -/
def LooksLikeError (payload : Value) : Prop :=
  ∃ code message, payload.member? "code" = some (.number code) ∧
    -2147483648 ≤ code ∧ code ≤ 2147483647 ∧ payload.member? "message" = some (.string message)

variable {payload : Value}

theorem fromValue_some (looks : LooksLikeError payload) :
    ∃ err, McpError.fromValue payload = some err := by
  obtain ⟨code, message, coded, lower, upper, named⟩ := looks
  simp only [McpError.fromValue, coded, named]
  rw [dif_pos ⟨lower, upper⟩]
  exact ⟨_, rfl⟩

theorem fromValue_none (other : ¬ LooksLikeError payload) : McpError.fromValue payload = none := by
  unfold McpError.fromValue
  split
  · rename_i code message coded named
    by_cases small : -2147483648 ≤ code ∧ code ≤ 2147483647
    · exact absurd ⟨code, message, coded, small.1, small.2, named⟩ other
    · exact dif_neg small
  · rfl

theorem fromValue_toValue (error : McpError) :
    ∃ data, McpError.fromValue error.toValue = some ⟨error.code, error.message, data⟩ := by
  have coded : error.toValue.member? "code" = some (.number error.code) := by
    simp [McpError.toValue, Value.member?]
  have named : error.toValue.member? "message" = some (.string error.message) := by
    simp [McpError.toValue, Value.member?]
  simp only [McpError.fromValue, coded, named]
  rw [dif_pos error.code.property]
  exact ⟨_, rfl⟩

/-! ### What the proxy receives -/

theorem rewritten (payload : Value) (protocolVersion : Option String) :
    ∃ sent, ipcOkWithContext (.ok payload) protocolVersion = .mcpResponse sent ∧
      (sent = payload ∨ sent = rewriteLegacyResult payload) := by
  unfold ipcOkWithContext
  by_cases modern : protocolVersion = some announcedFutureProtocolVersion
  · exact ⟨payload, by simp [modern], Or.inl rfl⟩
  · exact ⟨rewriteLegacyResult payload, by simp [modern], Or.inr rfl⟩

/-- The rewrite makes no error of what was none, and none of what was one. -/
theorem fromValue_sent {sent : Value} (same : sent = payload ∨ sent = rewriteLegacyResult payload) :
    McpError.fromValue sent = McpError.fromValue payload := by
  rcases same with rfl | rfl
  · rfl
  · exact fromValue_rewrite payload

theorem decode_error {codec : ResultCodec Result Decoded} {err : McpError}
    (read : McpError.fromValue payload = some err) (method : String) :
    decodeMcp codec (.mcpResponse payload) method = .error err := by
  have coded : ∃ code, payload.member? "code" = some code := by
    unfold McpError.fromValue at read
    split at read
    · exact ⟨_, by assumption⟩
    · cases read
  obtain ⟨code, coded⟩ := coded
  simp [decodeMcp, coded, read]

theorem decode_result {codec : ResultCodec Result Decoded} {value : Decoded}
    (other : McpError.fromValue payload = none) (read : codec.fromValue payload = .ok value)
    (method : String) : decodeMcp codec (.mcpResponse payload) method = .ok value := by
  have guarded : ((payload.member? "code").bind fun _ => McpError.fromValue payload) = none := by
    cases payload.member? "code" with
    | none => rfl
    | some code => exact other
  simp [decodeMcp, guarded, read]

/-- The proxy knows whether a request succeeded, and gets the code and the text of each error. -/
structure Recovered (codec : ResultCodec Result Decoded) (outcome : Except McpError Result)
    (protocolVersion : Option String) (method : String) : Prop where
  success : (∃ value, received codec outcome protocolVersion method = .ok value) ↔
    ∃ result, outcome = .ok result
  failure : ∀ code message,
    (∃ data, received codec outcome protocolVersion method = .error ⟨code, message, data⟩) ↔
      ∃ data, outcome = .error ⟨code, message, data⟩

/-- What is written for a method is read by it, also without the newer fields. -/
def ResultCodec.Decodes (codec : ResultCodec Result Decoded) : Prop :=
  ∀ result payload, codec.toValue result = .ok payload →
    (∃ value, codec.fromValue payload = .ok value) ∧
      ∃ value, codec.fromValue (rewriteLegacyResult payload) = .ok value

/-- An error is always recovered. -/
theorem recovered_error (codec : ResultCodec Result Decoded) (error : McpError)
    (protocolVersion : Option String) (method : String) :
    Recovered codec (.error error) protocolVersion method := by
  obtain ⟨sent, encoded, same⟩ := rewritten error.toValue protocolVersion
  obtain ⟨kept, read⟩ := fromValue_toValue error
  have decoded : received codec (.error error) protocolVersion method =
      .error ⟨error.code, error.message, kept⟩ := by
    rw [received, ipcFromMcpResult, encoded]
    exact decode_error ((fromValue_sent same).trans read) method
  constructor
  · rw [decoded]
    simp
  · intro code message
    rw [decoded]
    constructor
    · rintro ⟨data, found⟩
      obtain ⟨rfl, rfl, -⟩ := McpError.mk.inj (Except.error.inj found)
      exact ⟨error.data, rfl⟩
    · rintro ⟨data, found⟩
      cases found
      exact ⟨kept, rfl⟩

/-- An outcome is recovered exactly when it is an error, or its result can be written and does not
look like one. -/
theorem recovered_iff (codec : ResultCodec Result Decoded) (decodes : codec.Decodes)
    (outcome : Except McpError Result) (protocolVersion : Option String) (method : String) :
    Recovered codec outcome protocolVersion method ↔
      ∀ result, outcome = .ok result →
        ∃ payload, codec.toValue result = .ok payload ∧ ¬ LooksLikeError payload := by
  cases outcome with
  | error error =>
    constructor
    · rintro - result ⟨⟩
    · exact fun _ => recovered_error codec error protocolVersion method
  | ok result =>
    constructor
    · rintro recovered _ ⟨⟩
      obtain ⟨value, got⟩ := recovered.success.mpr ⟨result, rfl⟩
      rw [received, ipcFromMcpResult] at got
      cases written : codec.toValue result with
      | error e =>
        rw [written] at got
        simp [ipcOkWithContext, decodeMcp] at got
      | ok payload =>
        refine ⟨payload, rfl, ?_⟩
        intro looks
        obtain ⟨sent, encoded, same⟩ := rewritten payload protocolVersion
        obtain ⟨err, read⟩ := fromValue_some looks
        rw [written, encoded, decode_error ((fromValue_sent same).trans read)] at got
        cases got
    · intro writes
      obtain ⟨payload, written, other⟩ := writes result rfl
      obtain ⟨sent, encoded, same⟩ := rewritten payload protocolVersion
      obtain ⟨plain, legacy⟩ := decodes result payload written
      have reads : ∃ value, codec.fromValue sent = .ok value := by
        rcases same with rfl | rfl
        · exact plain
        · exact legacy
      obtain ⟨value, read⟩ := reads
      have decoded : received codec (.ok result) protocolVersion method = .ok value := by
        rw [received, ipcFromMcpResult, written, encoded]
        exact decode_result ((fromValue_sent same).trans (fromValue_none other)) read method
      constructor
      · rw [decoded]
        simp
      · intro code message
        rw [decoded]
        simp

/-- The payload of `tasks/result` is any JSON value. -/
def payloadCodec : ResultCodec Value Value where
  toValue := .ok
  fromValue := .ok

theorem payloadCodec_decodes : payloadCodec.Decodes := by
  intro result payload written
  exact ⟨⟨_, rfl⟩, ⟨_, rfl⟩⟩

theorem recovered_iff_payload :
    Recovered payloadCodec (.ok (.object [("content", .array [])])) none "tasks/result" ↔
      ∀ result, Except.ok (.object [("content", .array [])]) = (.ok result : Except McpError Value) →
        ∃ payload, payloadCodec.toValue result = .ok payload ∧ ¬ LooksLikeError payload :=
  recovered_iff payloadCodec payloadCodec_decodes _ none "tasks/result"

/-- A result with a code and a message is received as an error. -/
theorem result_taken_for_error :
    ¬ Recovered payloadCodec
      (.ok (.object [("code", .number 0), ("message", .string "done")])) none "tasks/result" := by
  intro recovered
  obtain ⟨value, got⟩ := recovered.success.mpr ⟨_, rfl⟩
  have taken : received payloadCodec
      (.ok (.object [("code", .number 0), ("message", .string "done")])) none "tasks/result" =
      .error ⟨⟨0, by decide⟩, "done", none⟩ := by
    rfl
  rw [taken] at got
  cases got

end Plug.Mcp
