import Plug.Runs
import Mathlib.Logic.Function.Basic

/-!
# Active calls

A tool call that a client waits for is found by three keys: the client's request, the
request sent upstream, and the token of its progress. The record and the three tables are
kept by `register_active_call`, `attach_upstream_request_id` and `remove_active_call`, and
`call_tool_inner` issues them: it registers a call that has a downstream context, attaches
every call it sends, and removes a call on every way out.

A call without a context has no record. Attaching it leaves entries that no removal finds.
-/

namespace Plug.ActiveCalls

inductive NumberOrString where
  | number (number : Int)
  | string (text : String)
deriving DecidableEq

inductive DownstreamTransport where
  | stdio
  | http
  | ipc
deriving DecidableEq

inductive ProtocolEra where
  | legacy
  | modern
deriving DecidableEq

structure DownstreamCallContext where
  transport : DownstreamTransport
  clientId : String
  requestId : NumberOrString
  protocolEra : ProtocolEra
deriving DecidableEq

structure DownstreamCallKey where
  transport : DownstreamTransport
  clientId : String
  requestId : NumberOrString
deriving DecidableEq

def DownstreamCallContext.key (context : DownstreamCallContext) : DownstreamCallKey :=
  ⟨context.transport, context.clientId, context.requestId⟩

/-- A request at a server, or the token of its progress. -/
structure UpstreamKey where
  serverId : String
  name : NumberOrString
deriving DecidableEq

structure ActiveCallRecord where
  downstream : DownstreamCallContext
  upstreamServerId : String
  upstreamRequestId : Option NumberOrString
  downstreamProgressToken : Option NumberOrString
  upstreamProgressToken : Option NumberOrString
  pendingCancelReason : Option (Option String)
deriving DecidableEq

def ActiveCallRecord.requestKey (record : ActiveCallRecord) : Option UpstreamKey :=
  record.upstreamRequestId.map fun requestId => ⟨record.upstreamServerId, requestId⟩

def ActiveCallRecord.progressKey (record : ActiveCallRecord) : Option UpstreamKey :=
  record.upstreamProgressToken.map fun token => ⟨record.upstreamServerId, token⟩

structure Index where
  activeCalls : Nat → Option ActiveCallRecord
  activeCallLookup : DownstreamCallKey → Option Nat
  upstreamRequestLookup : UpstreamKey → Option Nat
  upstreamProgressLookup : UpstreamKey → Option Nat

inductive ProtocolOutcome where
  | retryableTransition
deriving DecidableEq

/-- An outcome as the era of the call encodes it. -/
structure McpError where
  outcome : ProtocolOutcome
  era : ProtocolEra
deriving DecidableEq

section Lookups

variable {Key : Type} [DecidableEq Key]

def insert (lookup : Key → Option Nat) (key : Key) (callId : Nat) : Key → Option Nat :=
  Function.update lookup key (some callId)

def insertSome (lookup : Key → Option Nat) (key : Option Key) (callId : Nat) :
    Key → Option Nat :=
  match key with
  | some key => insert lookup key callId
  | none => lookup

/-- `remove_if` with the test that the entry is the call's own. -/
def removeIf (lookup : Key → Option Nat) (key : Key) (callId : Nat) : Key → Option Nat :=
  if lookup key = some callId then Function.update lookup key none else lookup

def removeSome (lookup : Key → Option Nat) (key : Option Key) (callId : Nat) :
    Key → Option Nat :=
  match key with
  | some key => removeIf lookup key callId
  | none => lookup

end Lookups

def Index.registerActiveCall (index : Index) (callId : Nat) (record : ActiveCallRecord) :
    Except McpError Unit × Index :=
  let inserted := { index with
    activeCalls := Function.update index.activeCalls callId (some record) }
  match index.activeCallLookup record.downstream.key with
  | some _ =>
    (.error ⟨.retryableTransition, record.downstream.protocolEra⟩,
      { inserted with activeCalls := Function.update inserted.activeCalls callId none })
  | none =>
    (.ok (), { inserted with
      activeCallLookup := insert index.activeCallLookup record.downstream.key callId
      upstreamRequestLookup := insertSome index.upstreamRequestLookup record.requestKey callId
      upstreamProgressLookup := insertSome index.upstreamProgressLookup record.progressKey callId })

/-- The index, and the cancellation that waited for the request to be known. -/
def Index.attachUpstreamRequestId (index : Index) (callId : Nat) (serverId : String)
    (requestId : NumberOrString) (progressToken : Option NumberOrString) :
    Index × Option (Option String) :=
  let attach := fun record : ActiveCallRecord => { record with
    upstreamRequestId := some requestId
    upstreamProgressToken := progressToken
    pendingCancelReason := none }
  ({ activeCalls := Function.update index.activeCalls callId
        ((index.activeCalls callId).map attach)
     activeCallLookup := index.activeCallLookup
     upstreamRequestLookup := insert index.upstreamRequestLookup ⟨serverId, requestId⟩ callId
     upstreamProgressLookup := insertSome index.upstreamProgressLookup
      (progressToken.map fun token => ⟨serverId, token⟩) callId },
    (index.activeCalls callId).bind ActiveCallRecord.pendingCancelReason)

def Index.removeActiveCall (index : Index) (callId : Nat) : Index :=
  match index.activeCalls callId with
  | none => index
  | some record =>
    { activeCalls := Function.update index.activeCalls callId none
      activeCallLookup := removeIf index.activeCallLookup record.downstream.key callId
      upstreamRequestLookup := removeSome index.upstreamRequestLookup record.requestKey callId
      upstreamProgressLookup := removeSome index.upstreamProgressLookup record.progressKey callId }

/-- The index, and the request that is cancelled upstream at once. `connected`: the
server has a connection. -/
def Index.forwardCancelFromDownstream (index : Index) (context : DownstreamCallContext)
    (reason : Option String) (connected : Bool) : Index × Option NumberOrString :=
  match index.activeCallLookup context.key with
  | none => (index, none)
  | some callId =>
    match index.activeCalls callId with
    | none => (index, none)
    | some record =>
      if !connected then (index, none)
      else match record.upstreamRequestId with
        | none =>
          ({ index with
            activeCalls := Function.update index.activeCalls callId
              (some { record with pendingCancelReason := some reason }) }, none)
        | some requestId => (index, some requestId)

/-! ### Calls -/

/-- Where a run of `call_tool_inner` is. -/
inductive Phase where
  /-- Before a call id is taken: the gates, and all of a meta tool. -/
  | entering
  | numbered (callId : Nat) (serverId : String)
  /-- Registered if it has a context, and not sent. -/
  | waiting (callId : Nat) (serverId : String)
  /-- Sent and attached. -/
  | attached (callId : Nat) (serverId : String)
  /-- After `finish`. -/
  | settled
  | ended
deriving DecidableEq

structure Call where
  downstream : Option DownstreamCallContext
  progressToken : Option NumberOrString
  isRetry : Bool
  phase : Phase
deriving DecidableEq

structure Router where
  index : Index
  nextCallId : Nat
  calls : List Call

def initial : Router where
  index := ⟨fun _ => none, fun _ => none, fun _ => none, fun _ => none⟩
  nextCallId := 1
  calls := []

def Router.to (router : Router) (position : Nat) (call : Call) (phase : Phase) : Router :=
  { router with calls := router.calls.set position { call with phase := phase } }

def Router.remove (router : Router) (callId : Nat) : Router :=
  { router with index := router.index.removeActiveCall callId }

inductive Action where
  | enter (downstream : Option DownstreamCallContext) (progressToken : Option NumberOrString)
  /-- The gates let the call through, and it takes an id. -/
  | number (position : Nat) (serverId : String)
  | register (position : Nat)
  /-- The request was sent, with an id and a token that the connection chose. -/
  | send (position : Nat) (requestId progressToken : NumberOrString)
  | sendFailed (position : Nat)
  /-- The answer, or what came instead of it. -/
  | finish (position : Nat)
  /-- A lost session is reconnected and the call made once more. -/
  | retry (position : Nat)
  /-- The call returns early or is dropped; an armed guard removes it. -/
  | leave (position : Nat)
  | cancelDownstream (context : DownstreamCallContext) (reason : Option String) (connected : Bool)

def step (router : Router) : Action → Option Router
  | .enter downstream progressToken =>
    some { router with calls := router.calls ++ [⟨downstream, progressToken, false, .entering⟩] }
  | .number position serverId =>
    match router.calls[position]? with
    | some call =>
      if call.phase = .entering then
        some ({ router with nextCallId := router.nextCallId + 1 }.to position call
          (.numbered router.nextCallId serverId))
      else none
    | none => none
  | .register position =>
    match router.calls[position]? with
    | some call =>
      match call.phase with
      | .numbered callId serverId =>
        match call.downstream with
        | none => some (router.to position call (.waiting callId serverId))
        | some context =>
          let registered := router.index.registerActiveCall callId
            ⟨context, serverId, none, call.progressToken, none, none⟩
          some ({ router with index := registered.2 }.to position call
            (match registered.1 with
              | .ok _ => .waiting callId serverId
              | .error _ => .ended))
      | _ => none
    | none => none
  | .send position requestId progressToken =>
    match router.calls[position]? with
    | some call =>
      match call.phase with
      | .waiting callId serverId =>
        some ({ router with
          index := (router.index.attachUpstreamRequestId callId serverId requestId
            (call.progressToken.map fun _ => progressToken)).1 }.to position call
              (.attached callId serverId))
      | _ => none
    | none => none
  | .sendFailed position =>
    match router.calls[position]? with
    | some call =>
      match call.phase with
      | .waiting callId _ => some ((router.remove callId).to position call .ended)
      | _ => none
    | none => none
  | .finish position =>
    match router.calls[position]? with
    | some call =>
      match call.phase with
      | .attached callId _ => some ((router.remove callId).to position call .settled)
      | _ => none
    | none => none
  | .retry position =>
    match router.calls[position]? with
    | some call =>
      if call.phase = .settled ∧ call.isRetry = false then
        some (router.to position { call with isRetry := true } .entering)
      else none
    | none => none
  | .leave position =>
    match router.calls[position]? with
    | some call =>
      match call.phase, call.downstream with
      | .waiting callId _, some _ => some ((router.remove callId).to position call .ended)
      | .attached callId _, some _ => some ((router.remove callId).to position call .ended)
      | .ended, _ => none
      | _, _ => some (router.to position call .ended)
    | none => none
  | .cancelDownstream context reason connected =>
    some { router with
      index := (router.index.forwardCancelFromDownstream context reason connected).1 }

/-- No call is attached without a downstream context. -/
def attachesRegistered (router : Router) : Action → Bool
  | .send position _ _ => router.calls[position]?.any fun call => call.downstream.isSome
  | _ => true

/-! ### Entries and records -/

section Refers

variable {Key : Type} [DecidableEq Key] {records : Nat → Option ActiveCallRecord}
variable {keyOf : ActiveCallRecord → Option Key} {lookup : Key → Option Nat} {callId : Nat}
variable {record : ActiveCallRecord}

/-- Every entry refers to a record that carries its key. -/
def Refers (records : Nat → Option ActiveCallRecord) (keyOf : ActiveCallRecord → Option Key)
    (lookup : Key → Option Nat) : Prop :=
  ∀ key callId, lookup key = some callId →
    ∃ record, records callId = some record ∧ keyOf record = some key

/-- An entry of a table to which the key of one call was added. -/
theorem insertSome_cases {own : Option Key} {key : Key} {found : Nat}
    (entry : insertSome lookup own callId key = some found) :
    (own = some key ∧ found = callId) ∨ lookup key = some found := by
  cases own with
  | none => exact Or.inr entry
  | some added =>
    by_cases same : key = added
    · subst same
      rw [insertSome, insert, Function.update_self] at entry
      exact Or.inl ⟨rfl, (Option.some.inj entry).symm⟩
    · rw [insertSome, insert, Function.update_of_ne same] at entry
      exact Or.inr entry

/-- An entry of a table from which the entry of one call was taken. -/
theorem removeSome_cases {own : Option Key} {key : Key} {found : Nat}
    (entry : removeSome lookup own callId key = some found) :
    lookup key = some found ∧ (found = callId → own ≠ some key) := by
  cases own with
  | none => exact ⟨entry, fun _ => nofun⟩
  | some taken =>
    unfold removeSome removeIf at entry
    dsimp only at entry
    split at entry
    · rename_i present
      by_cases same : key = taken
      · subst same
        rw [Function.update_self] at entry
        cases entry
      · rw [Function.update_of_ne same] at entry
        exact ⟨entry, fun _ equal => same (Option.some.inj equal).symm⟩
    · rename_i absent
      refine ⟨entry, ?_⟩
      rintro rfl equal
      cases equal
      exact absent entry

/-- A record takes the place of none, or of one with no key or the same. -/
theorem Refers.inserted (refers : Refers records keyOf lookup) (own : Option Key)
    (former : ∀ old, records callId = some old → keyOf old = none ∨ keyOf old = keyOf record)
    (added : own = none ∨ own = keyOf record) :
    Refers (Function.update records callId (some record)) keyOf (insertSome lookup own callId) := by
  intro key found entry
  rcases insertSome_cases entry with ⟨ownKey, rfl⟩ | earlier
  · refine ⟨record, Function.update_self .., ?_⟩
    cases added with
    | inl none =>
      rw [none] at ownKey
      cases ownKey
    | inr same => exact same ▸ ownKey
  · obtain ⟨old, present, carries⟩ := refers key found earlier
    by_cases same : found = callId
    · subst same
      refine ⟨record, Function.update_self .., ?_⟩
      cases former old present with
      | inl none =>
        rw [none] at carries
        cases carries
      | inr kept => exact kept ▸ carries
    · exact ⟨old, (Function.update_of_ne same _ _).trans present, carries⟩

theorem Refers.removed (refers : Refers records keyOf lookup)
    (present : records callId = some record) :
    Refers (Function.update records callId none) keyOf
      (removeSome lookup (keyOf record) callId) := by
  intro key found entry
  obtain ⟨earlier, notOwn⟩ := removeSome_cases entry
  obtain ⟨old, oldPresent, carries⟩ := refers key found earlier
  by_cases same : found = callId
  · subst same
    rw [present] at oldPresent
    cases oldPresent
    exact absurd carries (notOwn rfl)
  · exact ⟨old, (Function.update_of_ne same _ _).trans oldPresent, carries⟩

end Refers

/-- Every entry of the three tables refers to a record that carries its key. -/
structure Consistent (index : Index) : Prop where
  activeCallLookup : Refers index.activeCalls (fun record => some record.downstream.key)
    index.activeCallLookup
  upstreamRequestLookup : Refers index.activeCalls ActiveCallRecord.requestKey
    index.upstreamRequestLookup
  upstreamProgressLookup : Refers index.activeCalls ActiveCallRecord.progressKey
    index.upstreamProgressLookup

theorem Consistent.register {index : Index} {callId : Nat} (consistent : Consistent index)
    (absent : index.activeCalls callId = none) (record : ActiveCallRecord) :
    Consistent { activeCalls := Function.update index.activeCalls callId (some record)
                 activeCallLookup := insert index.activeCallLookup record.downstream.key callId
                 upstreamRequestLookup :=
                   insertSome index.upstreamRequestLookup record.requestKey callId
                 upstreamProgressLookup :=
                   insertSome index.upstreamProgressLookup record.progressKey callId } := by
  have new : ∀ old, index.activeCalls callId = some old → False := by
    intro old present
    rw [absent] at present
    cases present
  constructor
  · exact consistent.activeCallLookup.inserted (some record.downstream.key)
      (fun old present => (new old present).elim) (Or.inr rfl)
  · exact consistent.upstreamRequestLookup.inserted _ (fun old present => (new old present).elim)
      (Or.inr rfl)
  · exact consistent.upstreamProgressLookup.inserted _ (fun old present => (new old present).elim)
      (Or.inr rfl)

theorem Consistent.attach {index : Index} {callId : Nat} (consistent : Consistent index)
    {record : ActiveCallRecord} (present : index.activeCalls callId = some record)
    (noRequest : record.upstreamRequestId = none) (noProgress : record.upstreamProgressToken = none)
    (requestId : NumberOrString) (progressToken : Option NumberOrString) :
    Consistent (index.attachUpstreamRequestId callId record.upstreamServerId requestId
      progressToken).1 := by
  unfold Index.attachUpstreamRequestId
  rw [present]
  have former : ∀ old, index.activeCalls callId = some old → old = record := by
    intro old same
    rw [present] at same
    exact (Option.some.inj same).symm
  constructor
  · refine consistent.activeCallLookup.inserted none ?_ (Or.inl rfl)
    intro old same
    rw [former old same]
    exact Or.inr rfl
  · refine consistent.upstreamRequestLookup.inserted (some _) ?_ (Or.inr rfl)
    intro old same
    rw [former old same, ActiveCallRecord.requestKey, noRequest]
    exact Or.inl rfl
  · refine consistent.upstreamProgressLookup.inserted _ ?_ (Or.inr rfl)
    intro old same
    rw [former old same, ActiveCallRecord.progressKey, noProgress]
    exact Or.inl rfl

theorem Consistent.remove {index : Index} (consistent : Consistent index) (callId : Nat) :
    Consistent (index.removeActiveCall callId) := by
  unfold Index.removeActiveCall
  split
  · exact consistent
  · rename_i record present
    constructor
    · exact consistent.activeCallLookup.removed present
    · exact consistent.upstreamRequestLookup.removed present
    · exact consistent.upstreamProgressLookup.removed present

/-- A record that keeps its keys. -/
theorem Consistent.changed {index : Index} {callId : Nat} (consistent : Consistent index)
    {record changed : ActiveCallRecord} (present : index.activeCalls callId = some record)
    (downstream : changed.downstream = record.downstream)
    (request : changed.requestKey = record.requestKey)
    (progress : changed.progressKey = record.progressKey) :
    Consistent { index with
      activeCalls := Function.update index.activeCalls callId (some changed) } := by
  have former : ∀ old, index.activeCalls callId = some old → old = record := by
    intro old same
    rw [present] at same
    exact (Option.some.inj same).symm
  constructor
  · refine consistent.activeCallLookup.inserted none ?_ (Or.inl rfl)
    intro old same
    rw [former old same, downstream]
    exact Or.inr rfl
  · refine consistent.upstreamRequestLookup.inserted none ?_ (Or.inl rfl)
    intro old same
    rw [former old same, request]
    exact Or.inr rfl
  · refine consistent.upstreamProgressLookup.inserted none ?_ (Or.inl rfl)
    intro old same
    rw [former old same, progress]
    exact Or.inr rfl

/-! ### Calls and records -/

def Phase.callId : Phase → Option Nat
  | .numbered callId _ => some callId
  | .waiting callId _ => some callId
  | .attached callId _ => some callId
  | _ => none

/-- The id, the server and whether it was sent, of a call that has a record. -/
def Call.held (call : Call) : Option (Nat × String × Bool) :=
  match call.downstream, call.phase with
  | some _, .waiting callId serverId => some (callId, serverId, false)
  | some _, .attached callId serverId => some (callId, serverId, true)
  | _, _ => none

theorem callId_of_held {call : Call} {callId : Nat} {serverId : String} {sent : Bool}
    (held : call.held = some (callId, serverId, sent)) : call.phase.callId = some callId := by
  unfold Call.held at held
  split at held
  · rename_i phase
    obtain ⟨rfl, -⟩ := Prod.mk.inj (Option.some.inj held)
    rw [phase]
    rfl
  · rename_i phase
    obtain ⟨rfl, -⟩ := Prod.mk.inj (Option.some.inj held)
    rw [phase]
    rfl
  · cases held

/-- Only a call that waits or is attached has a record. -/
theorem held_none {call : Call}
    (elsewhere : call.phase.callId = none ∨
      ∃ callId serverId, call.phase = .numbered callId serverId) :
    call.held = none := by
  unfold Call.held
  split
  · rename_i waiting
    rw [waiting] at elsewhere
    rcases elsewhere with none | ⟨_, _, same⟩
    · cases none
    · cases same
  · rename_i attached
    rw [attached] at elsewhere
    rcases elsewhere with none | ⟨_, _, same⟩
    · cases none
    · cases same
  · rfl

/-- What a step can do to the calls and the index. -/
inductive Moves (router : Router) : Router → Prop where
  | enters (call : Call) (fresh : call.phase = .entering) :
      Moves router { router with calls := router.calls ++ [call] }
  | numbers (position : Nat) (call after : Call) (found : router.calls[position]? = some call)
      (free : call.held = none) (freeAfter : after.held = none)
      (callId : after.phase.callId = some router.nextCallId) :
      Moves router { router with
        nextCallId := router.nextCallId + 1
        calls := router.calls.set position after }
  | passes (position : Nat) (call after : Call) (found : router.calls[position]? = some call)
      (free : call.held = none) (freeAfter : after.held = none)
      (callId : after.phase.callId = none ∨ after.phase.callId = call.phase.callId) :
      Moves router { router with calls := router.calls.set position after }
  | registers (position : Nat) (call after : Call) (callId : Nat) (record : ActiveCallRecord)
      (found : router.calls[position]? = some call) (free : call.held = none)
      (numbered : call.phase.callId = some callId)
      (heldAfter : after.held = some (callId, record.upstreamServerId, false))
      (noRequest : record.upstreamRequestId = none)
      (noProgress : record.upstreamProgressToken = none) :
      Moves router { router with
        index := {
          activeCalls := Function.update router.index.activeCalls callId (some record)
          activeCallLookup := insert router.index.activeCallLookup record.downstream.key callId
          upstreamRequestLookup :=
            insertSome router.index.upstreamRequestLookup record.requestKey callId
          upstreamProgressLookup :=
            insertSome router.index.upstreamProgressLookup record.progressKey callId }
        calls := router.calls.set position after }
  | sends (position : Nat) (call after : Call) (callId : Nat) (serverId : String)
      (requestId : NumberOrString) (progressToken : Option NumberOrString)
      (found : router.calls[position]? = some call)
      (held : call.held = some (callId, serverId, false))
      (heldAfter : after.held = some (callId, serverId, true)) :
      Moves router { router with
        index := (router.index.attachUpstreamRequestId callId serverId requestId progressToken).1
        calls := router.calls.set position after }
  | removes (position : Nat) (call after : Call) (callId : Nat)
      (found : router.calls[position]? = some call) (own : call.phase.callId = some callId)
      (freeAfter : after.held = none) (callIdAfter : after.phase.callId = none) :
      Moves router { router with
        index := router.index.removeActiveCall callId
        calls := router.calls.set position after }
  | cancels (callId : Nat) (record : ActiveCallRecord) (reason : Option String)
      (present : router.index.activeCalls callId = some record) :
      Moves router { router with
        index := { router.index with
          activeCalls := Function.update router.index.activeCalls callId
            (some { record with pendingCancelReason := some reason }) } }
  | stays : Moves router router

/-- Calls in flight have ids of their own, all taken before. -/
structure Numbered (calls : List Call) (nextCallId : Nat) : Prop where
  distinct : ∀ (position other callId : Nat) (call otherCall : Call),
    calls[position]? = some call → calls[other]? = some otherCall →
    call.phase.callId = some callId → otherCall.phase.callId = some callId → position = other
  bounded : ∀ (position callId : Nat) (call : Call), calls[position]? = some call →
    call.phase.callId = some callId → callId < nextCallId

/-- What the calls in flight and the records have to do with each other. -/
structure Indexed (router : Router) : Prop where
  consistent : Consistent router.index
  owned : ∀ (callId : Nat) (record : ActiveCallRecord),
    router.index.activeCalls callId = some record →
    ∃ (position : Nat) (call : Call) (serverId : String) (sent : Bool),
      router.calls[position]? = some call ∧ call.held = some (callId, serverId, sent)
  registered : ∀ (position callId : Nat) (call : Call) (serverId : String) (sent : Bool),
    router.calls[position]? = some call → call.held = some (callId, serverId, sent) →
    ∃ record, router.index.activeCalls callId = some record ∧
      record.upstreamServerId = serverId ∧
      (sent = false → record.upstreamRequestId = none ∧ record.upstreamProgressToken = none)
  numbered : Numbered router.calls router.nextCallId

theorem Numbered.set {calls : List Call} {nextCallId position : Nat} {call after : Call}
    (numbered : Numbered calls nextCallId) (found : calls[position]? = some call)
    (callId : ∀ callId, after.phase.callId = some callId → call.phase.callId = some callId) :
    Numbered (calls.set position after) nextCallId := by
  -- The call that was there has the id that the call in its place has.
  have former : ∀ (place own : Nat) (present : Call),
      (calls.set position after)[place]? = some present → present.phase.callId = some own →
        ∃ old, calls[place]? = some old ∧ old.phase.callId = some own := by
    intro place own present there ownId
    rw [Runs.getElem?_set_found found] at there
    split at there
    · rename_i same
      cases there
      exact ⟨call, same ▸ found, callId own ownId⟩
    · exact ⟨present, there, ownId⟩
  constructor
  · intro place other own present otherPresent there otherThere ownId otherId
    obtain ⟨old, oldThere, oldId⟩ := former place own present there ownId
    obtain ⟨otherOld, otherOldThere, otherOldId⟩ := former other own otherPresent otherThere otherId
    exact numbered.distinct place other own old otherOld oldThere otherOldThere oldId otherOldId
  · intro place own present there ownId
    obtain ⟨old, oldThere, oldId⟩ := former place own present there ownId
    exact numbered.bounded place own old oldThere oldId

theorem Numbered.next {calls : List Call} {nextCallId position : Nat} {call after : Call}
    (numbered : Numbered calls nextCallId) (found : calls[position]? = some call)
    (callId : after.phase.callId = some nextCallId) :
    Numbered (calls.set position after) (nextCallId + 1) := by
  have former : ∀ (place own : Nat) (present : Call),
      (calls.set position after)[place]? = some present → present.phase.callId = some own →
        (place = position ∧ own = nextCallId) ∨
          (calls[place]? = some present ∧ own < nextCallId) := by
    intro place own present there ownId
    rw [Runs.getElem?_set_found found] at there
    split at there
    · rename_i same
      cases there
      rw [callId] at ownId
      exact Or.inl ⟨same, (Option.some.inj ownId).symm⟩
    · exact Or.inr ⟨there, numbered.bounded place own present there ownId⟩
  constructor
  · intro place other own present otherPresent there otherThere ownId otherId
    rcases former place own present there ownId with ⟨rfl, fresh⟩ | ⟨oldThere, less⟩
    · rcases former other own otherPresent otherThere otherId with ⟨rfl, _⟩ | ⟨_, otherLess⟩
      · rfl
      · omega
    · rcases former other own otherPresent otherThere otherId with ⟨rfl, fresh⟩ | ⟨otherOld, _⟩
      · omega
      · exact numbered.distinct place other own present otherPresent oldThere otherOld ownId otherId
  · intro place own present there ownId
    rcases former place own present there ownId with ⟨_, rfl⟩ | ⟨_, less⟩ <;> omega

theorem Numbered.append {calls : List Call} {nextCallId : Nat} {call : Call}
    (numbered : Numbered calls nextCallId) (fresh : call.phase = .entering) :
    Numbered (calls ++ [call]) nextCallId := by
  have former : ∀ (place own : Nat) (present : Call), (calls ++ [call])[place]? = some present →
      present.phase.callId = some own → calls[place]? = some present := by
    intro place own present there ownId
    rw [List.getElem?_append] at there
    split at there
    · exact there
    · have last : present = call := by simpa using List.mem_of_getElem? there
      rw [last, fresh] at ownId
      cases ownId
  constructor
  · intro place other own present otherPresent there otherThere ownId otherId
    exact numbered.distinct place other own present otherPresent (former place own present there
      ownId) (former other own otherPresent otherThere otherId) ownId otherId
  · intro place own present there ownId
    exact numbered.bounded place own present (former place own present there ownId) ownId

theorem removeActiveCall_activeCalls (index : Index) (callId : Nat) :
    (index.removeActiveCall callId).activeCalls =
      Function.update index.activeCalls callId none := by
  unfold Index.removeActiveCall
  split
  · rename_i absent
    exact (Function.update_eq_self_iff.mpr absent.symm).symm
  · rfl

theorem attach_activeCalls {index : Index} {callId : Nat} {record : ActiveCallRecord}
    (present : index.activeCalls callId = some record) (serverId : String)
    (requestId : NumberOrString) (progressToken : Option NumberOrString) :
    (index.attachUpstreamRequestId callId serverId requestId progressToken).1.activeCalls callId =
      some { record with
        upstreamRequestId := some requestId
        upstreamProgressToken := progressToken
        pendingCancelReason := none } := by
  dsimp only [Index.attachUpstreamRequestId]
  rw [Function.update_self, present]
  rfl

/-- A registration is rejected exactly when the key is taken, and changes nothing then. -/
theorem register_rejected {index : Index} {callId winner : Nat} {record : ActiveCallRecord}
    (absent : index.activeCalls callId = none)
    (taken : index.activeCallLookup record.downstream.key = some winner) :
    index.registerActiveCall callId record =
      (.error ⟨.retryableTransition, record.downstream.protocolEra⟩, index) := by
  unfold Index.registerActiveCall
  rw [taken]
  dsimp only
  rw [Function.update_idem, Function.update_eq_self_iff.mpr absent.symm]

/-- A record belongs to the call with its id. -/
theorem Indexed.held {router : Router} (indexed : Indexed router) {position callId : Nat}
    {call : Call} {record : ActiveCallRecord} (found : router.calls[position]? = some call)
    (own : call.phase.callId = some callId)
    (present : router.index.activeCalls callId = some record) :
    ∃ serverId sent, call.held = some (callId, serverId, sent) := by
  obtain ⟨owner, ownerCall, serverId, sent, there, held⟩ := indexed.owned callId record present
  obtain rfl := indexed.numbered.distinct owner position callId ownerCall call there found
    (callId_of_held held) own
  rw [found] at there
  cases there
  exact ⟨serverId, sent, held⟩

/-- A call that is numbered has no record yet. -/
theorem Indexed.unregistered {router : Router} (indexed : Indexed router) {position callId : Nat}
    {call : Call} (found : router.calls[position]? = some call) (free : call.held = none)
    (own : call.phase.callId = some callId) : router.index.activeCalls callId = none := by
  cases present : router.index.activeCalls callId with
  | none => rfl
  | some record =>
    obtain ⟨serverId, sent, held⟩ := indexed.held found own present
    rw [free] at held
    cases held

/-- A step of one call, which changes at most the record with its id. -/
theorem Indexed.moved {router : Router} (indexed : Indexed router) {position nextCallId : Nat}
    {call after : Call} {index : Index} (found : router.calls[position]? = some call)
    (consistent : Consistent index)
    (numbered : Numbered (router.calls.set position after) nextCallId)
    (kept : ∀ callId, call.phase.callId ≠ some callId →
      index.activeCalls callId = router.index.activeCalls callId)
    (registered : ∀ callId serverId sent, after.held = some (callId, serverId, sent) →
      ∃ record, index.activeCalls callId = some record ∧ record.upstreamServerId = serverId ∧
        (sent = false → record.upstreamRequestId = none ∧ record.upstreamProgressToken = none))
    (owned : ∀ callId record, call.phase.callId = some callId →
      index.activeCalls callId = some record →
        ∃ serverId sent, after.held = some (callId, serverId, sent)) :
    Indexed { index := index, nextCallId := nextCallId,
              calls := router.calls.set position after } := by
  refine ⟨consistent, ?_, ?_, numbered⟩
  · intro callId record present
    by_cases own : call.phase.callId = some callId
    · obtain ⟨serverId, sent, held⟩ := owned callId record own present
      exact ⟨position, after, serverId, sent,
        (Runs.getElem?_set_found found _ _).trans (if_pos rfl), held⟩
    · rw [kept callId own] at present
      obtain ⟨owner, ownerCall, serverId, sent, there, held⟩ :=
        indexed.owned callId record present
      refine ⟨owner, ownerCall, serverId, sent, ?_, held⟩
      rw [Runs.getElem?_set_found found, if_neg]
      · exact there
      · rintro rfl
        rw [found] at there
        cases there
        exact own (callId_of_held held)
  · intro place callId present serverId sent there held
    rw [Runs.getElem?_set_found found] at there
    split at there
    · cases there
      exact registered callId serverId sent held
    · rename_i elsewhere
      have other : call.phase.callId ≠ some callId := by
        intro own
        exact elsewhere (indexed.numbered.distinct place position callId present call there found
          (callId_of_held held) own)
      rw [kept callId other]
      exact indexed.registered place callId present serverId sent there held

theorem Moves.indexed {router next : Router} (moves : Moves router next)
    (indexed : Indexed router) : Indexed next := by
  cases moves with
  | enters call fresh =>
    refine ⟨indexed.consistent, ?_, ?_, indexed.numbered.append fresh⟩
    · intro callId record present
      obtain ⟨owner, ownerCall, serverId, sent, there, held⟩ :=
        indexed.owned callId record present
      have bound := (List.getElem?_eq_some_iff.mp there).1
      exact ⟨owner, ownerCall, serverId, sent, (List.getElem?_append_left bound).trans there, held⟩
    · intro place callId present serverId sent there held
      rw [List.getElem?_append] at there
      split at there
      · exact indexed.registered place callId present serverId sent there held
      · have last : present = call := by simpa using List.mem_of_getElem? there
        have own := callId_of_held held
        rw [last, fresh] at own
        cases own
  | numbers position call after found none noneAfter callId =>
    refine indexed.moved found indexed.consistent (indexed.numbered.next found callId)
      (fun _ _ => rfl) ?_ ?_
    · intro callId serverId sent held
      rw [noneAfter] at held
      cases held
    · intro callId record own present
      rw [indexed.unregistered found none own] at present
      cases present
  | passes position call after found none noneAfter callId =>
    refine indexed.moved found indexed.consistent (indexed.numbered.set found ?_)
      (fun _ _ => rfl) ?_ ?_
    · intro own ownId
      cases callId with
      | inl gone =>
        rw [gone] at ownId
        cases ownId
      | inr same => exact same ▸ ownId
    · intro callId serverId sent held
      rw [noneAfter] at held
      cases held
    · intro callId record own present
      rw [indexed.unregistered found none own] at present
      cases present
  | registers position call after callId record found none own heldAfter noRequest noProgress =>
    refine indexed.moved found
      (indexed.consistent.register (indexed.unregistered found none own) record)
      (indexed.numbered.set found ?_) ?_ ?_ ?_
    · intro id idAfter
      rw [callId_of_held heldAfter] at idAfter
      exact own.trans idAfter
    · intro id other
      refine Function.update_of_ne ?_ _ _
      rintro rfl
      exact other own
    · intro id serverId sent held
      rw [heldAfter] at held
      obtain ⟨rfl, same⟩ := Prod.mk.inj (Option.some.inj held)
      cases same
      exact ⟨record, Function.update_self .., rfl, fun _ => ⟨noRequest, noProgress⟩⟩
    · intro id other ownId present
      rw [own] at ownId
      cases ownId
      exact ⟨_, _, heldAfter⟩
  | sends position call after callId serverId requestId progressToken found held heldAfter =>
    obtain ⟨record, present, rfl, unsent⟩ :=
      indexed.registered position callId call serverId false found held
    obtain ⟨noRequest, noProgress⟩ := unsent rfl
    have own := callId_of_held held
    refine indexed.moved found
      (indexed.consistent.attach present noRequest noProgress requestId progressToken)
      (indexed.numbered.set found ?_) ?_ ?_ ?_
    · intro id idAfter
      rw [callId_of_held heldAfter] at idAfter
      exact own.trans idAfter
    · intro id other
      refine Function.update_of_ne ?_ _ _
      rintro rfl
      exact other own
    · intro id server sent heldNext
      rw [heldAfter] at heldNext
      obtain ⟨rfl, same⟩ := Prod.mk.inj (Option.some.inj heldNext)
      cases same
      exact ⟨_, attach_activeCalls present _ _ _, rfl, nofun⟩
    · intro id other ownId _
      rw [own] at ownId
      cases ownId
      exact ⟨_, _, heldAfter⟩
  | removes position call after callId found own noneAfter callIdAfter =>
    refine indexed.moved found (indexed.consistent.remove callId)
      (indexed.numbered.set found ?_) ?_ ?_ ?_
    · intro id idAfter
      rw [callIdAfter] at idAfter
      cases idAfter
    · intro id other
      rw [removeActiveCall_activeCalls]
      refine Function.update_of_ne ?_ _ _
      rintro rfl
      exact other own
    · intro id serverId sent held
      rw [noneAfter] at held
      cases held
    · intro id record ownId present
      rw [own] at ownId
      cases ownId
      rw [removeActiveCall_activeCalls, Function.update_self] at present
      cases present
  | cancels callId record reason present =>
    refine ⟨indexed.consistent.changed present rfl rfl rfl, ?_, ?_, indexed.numbered⟩
    · intro id other otherPresent
      by_cases same : id = callId
      · subst same
        exact indexed.owned id record present
      · exact indexed.owned id other ((Function.update_of_ne same _ _).symm.trans otherPresent)
    · intro place id call serverId sent there held
      obtain ⟨old, oldPresent, server, unsent⟩ :=
        indexed.registered place id call serverId sent there held
      by_cases same : id = callId
      · subst same
        rw [present] at oldPresent
        cases oldPresent
        exact ⟨_, Function.update_self .., server, unsent⟩
      · exact ⟨old, (Function.update_of_ne same _ _).trans oldPresent, server, unsent⟩
  | stays => exact indexed

/-! ### Runs -/

theorem register_moves {router next : Router} {position : Nat} (indexed : Indexed router)
    (stepped : step router (.register position) = some next) : Moves router next := by
  dsimp only [step] at stepped
  split at stepped
  · rename_i call found
    split at stepped
    · rename_i callId serverId phase
      have free : call.held = none := held_none (Or.inr ⟨callId, serverId, phase⟩)
      have own : call.phase.callId = some callId := by
        rw [phase]
        rfl
      split at stepped
      · rename_i noContext
        cases stepped
        refine .passes position call _ found free ?_ (Or.inr own.symm)
        unfold Call.held
        dsimp only
        rw [noContext]
      · rename_i context present
        cases stepped
        have absent := indexed.unregistered found free own
        cases taken : router.index.activeCallLookup context.key with
        | some winner =>
          rw [@register_rejected router.index callId winner
            ⟨context, serverId, none, call.progressToken, none, none⟩ absent taken]
          exact .passes position call _ found free (held_none (Or.inl rfl)) (Or.inl rfl)
        | none =>
          unfold Index.registerActiveCall
          dsimp only
          rw [taken]
          refine .registers position call _ callId
            ⟨context, serverId, none, call.progressToken, none, none⟩ found free own ?_ rfl rfl
          unfold Call.held
          dsimp only
          rw [present]
    · cases stepped
  · cases stepped

theorem send_moves {router next : Router} {position : Nat}
    {requestId progressToken : NumberOrString}
    (attaches : attachesRegistered router (.send position requestId progressToken) = true)
    (stepped : step router (.send position requestId progressToken) = some next) :
    Moves router next := by
  dsimp only [step] at stepped
  dsimp only [attachesRegistered] at attaches
  split at stepped
  · rename_i call found
    rw [found] at attaches
    obtain ⟨context, present⟩ := Option.isSome_iff_exists.mp attaches
    split at stepped
    · rename_i callId serverId phase
      cases stepped
      refine .sends position call _ callId serverId requestId _ found ?_ ?_
      · unfold Call.held
        rw [present, phase]
      · unfold Call.held
        dsimp only
        rw [present]
    · cases stepped
  · cases stepped

/-- A call whose id is removed. -/
theorem Moves.remove {router : Router} {position callId : Nat} {call : Call}
    (found : router.calls[position]? = some call) (own : call.phase.callId = some callId)
    {phase : Phase} (idle : phase.callId = none) :
    Moves router ((router.remove callId).to position call phase) :=
  .removes position call _ callId found own (held_none (Or.inl idle)) idle

theorem leave_moves {router next : Router} {position : Nat}
    (stepped : step router (.leave position) = some next) : Moves router next := by
  dsimp only [step] at stepped
  split at stepped
  · rename_i call found
    split at stepped
    · rename_i callId serverId context phase present
      cases stepped
      exact .remove found (by rw [phase]; rfl) rfl
    · rename_i callId serverId context phase present
      cases stepped
      exact .remove found (by rw [phase]; rfl) rfl
    · cases stepped
    · rename_i _ unheldWaiting unheldAttached
      cases stepped
      refine .passes position call _ found ?_ (held_none (Or.inl rfl)) (Or.inl rfl)
      unfold Call.held
      split
      · rename_i present phase
        exact (unheldWaiting _ _ _ phase present).elim
      · rename_i present phase
        exact (unheldAttached _ _ _ phase present).elim
      · rfl
  · cases stepped

theorem cancel_moves {router : Router} (context : DownstreamCallContext) (reason : Option String)
    (connected : Bool) :
    Moves router { router with
      index := (router.index.forwardCancelFromDownstream context reason connected).1 } := by
  unfold Index.forwardCancelFromDownstream
  split
  · exact .stays
  · split
    · exact .stays
    · rename_i callId looked _ record present
      split
      · exact .stays
      · split
        · exact .cancels callId record reason present
        · exact .stays

theorem step_moves {router next : Router} {action : Action}
    (attaches : attachesRegistered router action = true) (indexed : Indexed router)
    (stepped : step router action = some next) : Moves router next := by
  cases action with
  | enter downstream progressToken =>
    cases stepped
    exact .enters _ rfl
  | number position serverId =>
    dsimp only [step] at stepped
    split at stepped
    · rename_i call found
      split at stepped
      · rename_i entering
        cases stepped
        refine .numbers position call _ found (held_none (Or.inl ?_))
          (held_none (Or.inr ⟨_, _, rfl⟩)) rfl
        rw [entering]
        rfl
      · cases stepped
    · cases stepped
  | register position => exact register_moves indexed stepped
  | send position requestId progressToken => exact send_moves attaches stepped
  | sendFailed position =>
    dsimp only [step] at stepped
    split at stepped
    · rename_i call found
      split at stepped
      · rename_i callId serverId phase
        cases stepped
        exact .remove found (by rw [phase]; rfl) rfl
      · cases stepped
    · cases stepped
  | finish position =>
    dsimp only [step] at stepped
    split at stepped
    · rename_i call found
      split at stepped
      · rename_i callId serverId phase
        cases stepped
        exact .remove found (by rw [phase]; rfl) rfl
      · cases stepped
    · cases stepped
  | retry position =>
    dsimp only [step] at stepped
    split at stepped
    · rename_i call found
      split at stepped
      · rename_i settled
        cases stepped
        refine .passes position call _ found (held_none (Or.inl ?_)) (held_none (Or.inl rfl))
          (Or.inl rfl)
        rw [settled.1]
        rfl
      · cases stepped
    · cases stepped
  | leave position => exact leave_moves stepped
  | cancelDownstream context reason connected =>
    cases stepped
    exact cancel_moves context reason connected

theorem initial_indexed : Indexed initial := by
  refine ⟨⟨?_, ?_, ?_⟩, ?_, ?_, ?_, ?_⟩
  · intro key callId entry
    cases entry
  · intro key callId entry
    cases entry
  · intro key callId entry
    cases entry
  · intro callId record present
    cases present
  · intro position callId call serverId sent found
    cases found
  · intro position other callId call otherCall found
    cases found
  · intro position callId call found
    cases found

/-- No call is in flight. -/
def Router.idle (router : Router) : Bool :=
  router.calls.all fun call => decide (call.phase = .ended)

/-- In every run that attaches only calls with a downstream context: every entry refers to
a record that carries its key, a rejected registration changes nothing, and without calls
in flight nothing is kept. -/
theorem index_consistent (trace : List Action) (router : Router)
    (attaches : Runs.Admitted step (fun router action => attachesRegistered router action = true)
      initial trace)
    (ran : Runs.exec step initial trace = some router) :
    Consistent router.index ∧
    (∀ (position callId : Nat) (call : Call) (serverId : String) (record : ActiveCallRecord)
        (error : McpError), router.calls[position]? = some call →
      call.phase = .numbered callId serverId →
      (router.index.registerActiveCall callId record).1 = .error error →
        (router.index.registerActiveCall callId record).2 = router.index) ∧
    (router.idle = true → router.index = initial.index) := by
  have indexed := Runs.exec_invariant step
    (fun router action => attachesRegistered router action = true) Indexed
    (fun _ _ _ attaches held stepped => (step_moves attaches held stepped).indexed held)
    trace initial router initial_indexed attaches ran
  refine ⟨indexed.consistent, ?_, ?_⟩
  · intro position callId call serverId record error found phase rejected
    have own : call.phase.callId = some callId := by
      rw [phase]
      rfl
    have absent := indexed.unregistered found (held_none (Or.inr ⟨callId, serverId, phase⟩)) own
    cases taken : router.index.activeCallLookup record.downstream.key with
    | some winner => rw [register_rejected absent taken]
    | none =>
      unfold Index.registerActiveCall at rejected
      dsimp only at rejected
      rw [taken] at rejected
      cases rejected
  · intro idle
    have records : ∀ callId, router.index.activeCalls callId = none := by
      intro callId
      cases present : router.index.activeCalls callId with
      | none => rfl
      | some record =>
        obtain ⟨position, call, serverId, sent, there, held⟩ :=
          indexed.owned callId record present
        have ended := List.all_eq_true.mp idle call (List.mem_of_getElem? there)
        have own := callId_of_held held
        rw [of_decide_eq_true ended] at own
        cases own
    have empty : ∀ {Key : Type} {keyOf : ActiveCallRecord → Option Key} {lookup : Key → Option Nat},
        Refers router.index.activeCalls keyOf lookup → lookup = fun _ => none := by
      intro Key keyOf lookup refers
      funext key
      cases entry : lookup key with
      | none => rfl
      | some callId =>
        obtain ⟨record, present, -⟩ := refers key callId entry
        rw [records callId] at present
        cases present
    have same : router.index = ⟨router.index.activeCalls, router.index.activeCallLookup,
      router.index.upstreamRequestLookup, router.index.upstreamProgressLookup⟩ := rfl
    rw [same, empty indexed.consistent.activeCallLookup,
      empty indexed.consistent.upstreamRequestLookup,
      empty indexed.consistent.upstreamProgressLookup, funext records]
    rfl

def sampleContext : DownstreamCallContext :=
  ⟨.stdio, "client", .number 77, .modern⟩

/-- Two calls for one client request: the first is sent, the second is rejected and the
first answered. -/
def duplicateRequest : List Action :=
  [.enter (some sampleContext) none, .number 0 "upstream", .register 0,
    .enter (some sampleContext) none, .number 1 "upstream", .send 0 (.number 5) (.number 5),
    .register 1, .finish 0, .leave 0]

theorem index_consistent_duplicate :
    ∃ router, Runs.exec step initial duplicateRequest = some router ∧
      router.index = initial.index := by
  have result : (Runs.exec step initial duplicateRequest).map Router.idle = some true := by decide
  obtain ⟨router, ran, idle⟩ := Option.map_eq_some_iff.mp result
  exact ⟨router, ran, (index_consistent duplicateRequest router (by decide) ran).2.2 idle⟩

/-- A call that the program makes for itself. -/
def ownCall : List Action :=
  [.enter none none, .number 0 "upstream", .register 0, .send 0 (.number 5) (.number 5),
    .finish 0, .leave 0]

/-- The request of a call without a context stays in the table when the call is over. -/
theorem own_call_leaves_entry :
    ∃ router, Runs.exec step initial ownCall = some router ∧ router.idle = true ∧
      router.index.upstreamRequestLookup ⟨"upstream", .number 5⟩ = some 1 ∧
      router.index.activeCalls 1 = none := by
  have result : (Runs.exec step initial ownCall).map (fun router => (router.idle,
      router.index.upstreamRequestLookup ⟨"upstream", .number 5⟩, router.index.activeCalls 1)) =
      some (true, some 1, none) := by decide
  obtain ⟨router, ran, result⟩ := Option.map_eq_some_iff.mp result
  simp only [Prod.mk.injEq] at result
  exact ⟨router, ran, result⟩

end Plug.ActiveCalls
