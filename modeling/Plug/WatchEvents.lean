import Plug.EventContract
import Plug.Queues
import Plug.Runs
import Plug.Tables

/-!
# Watch events

`WatchEvents` calls configured tools, and queues an event for each subscriber when a result
differs from the last one. The delivery worker posts one queued event at a time.
Every section that holds the lock of the state is one step. The delivery gate is held for
reading by a delivery and by pruning, and for writing by `subscribe` and `unsubscribe`: while a
call holds it across a wait, the calls it keeps out take no step.

Answers of the configuration, of the clients' grants, of tools and of webhooks are part of the
actions, as are the times read from the clock, fresh UUIDs and how writes end. A section reads
the clock once.
-/

namespace Plug.Watch

open JsonValues Events Durable

def maxSubscriptions : Nat := 32

structure WatchConfig where
  name : String
  server : String
  allowWrites : Bool
deriving DecidableEq

def WatchConfig.eventName (watch : WatchConfig) : String := watch.server ++ "." ++ watch.name

structure Subscription where
  id : String
  clientId : String
  event : String
  url : String
  secret : String
  oldSecret : Option String
  oldSecretUntil : Nat
  expires : Nat
  verifiedUntil : Nat
deriving DecidableEq

structure Pending where
  subscriptionId : String
  eventId : String
  body : List UInt8
  attempts : Nat
  nextAt : Nat
deriving DecidableEq

/-- `baselines` has the hash of the last result of each event. -/
structure WatchState where
  version : Nat
  subscriptions : List Subscription
  baselines : List (String × String)
  queue : List Pending
deriving DecidableEq

def WatchState.default : WatchState := ⟨1, [], [], []⟩

/-- What `open` accepts. -/
def WatchState.accepted (state : WatchState) : Bool :=
  decide (state.version = 1 ∧ state.queue.length ≤ maxQueue ∧
    state.subscriptions.length ≤ maxSubscriptions)

variable (env : Environment) (codec : Codec WatchState)

abbrev file : Format WatchState := codec.format WatchState.accepted

/-! Binary forms, for runs on fixed inputs. -/

def Subscription.serial : Serial Subscription :=
  (Serial.string.pair (Serial.string.pair (Serial.string.pair (Serial.string.pair
    (Serial.string.pair (Serial.string.option.pair (Serial.number.pair
      (Serial.number.pair Serial.number)))))))).map
    (fun item => (item.id, item.clientId, item.event, item.url, item.secret, item.oldSecret,
      item.oldSecretUntil, item.expires, item.verifiedUntil))
    (fun (id, clientId, event, url, secret, oldSecret, oldSecretUntil, expires,
      verifiedUntil) => ⟨id, clientId, event, url, secret, oldSecret, oldSecretUntil, expires,
      verifiedUntil⟩)
    fun _ => rfl

def Pending.serial : Serial Pending :=
  (Serial.string.pair (Serial.string.pair (Serial.byte.list.pair
    (Serial.number.pair Serial.number)))).map
    (fun item => (item.subscriptionId, item.eventId, item.body, item.attempts, item.nextAt))
    (fun (subscriptionId, eventId, body, attempts, nextAt) =>
      ⟨subscriptionId, eventId, body, attempts, nextAt⟩)
    fun _ => rfl

def WatchState.serial : Serial WatchState :=
  (Serial.number.pair (Subscription.serial.list.pair
    ((Serial.string.pair Serial.string).list.pair Pending.serial.list))).map
    (fun state => (state.version, state.subscriptions, state.baselines, state.queue))
    (fun (version, subscriptions, baselines, queue) =>
      ⟨version, subscriptions, baselines, queue⟩)
    fun _ => rfl

def WatchState.subscription? (state : WatchState) (id : String) : Option Subscription :=
  state.subscriptions.find? fun subscription => subscription.id = id

/-- Without a subscription and what is queued for it. -/
def WatchState.forget (state : WatchState) (id : String) : WatchState :=
  { state with
    subscriptions := state.subscriptions.filter fun subscription => subscription.id ≠ id
    queue := state.queue.filter fun pending => pending.subscriptionId ≠ id }

/-! ### Subscribing -/

structure Subscribing where
  id : String
  event : String
  url : String
deriving DecidableEq

def subscriptionId (clientId event url : String) : String :=
  "sub_" ++ env.digest (env.toVec (.array [.string clientId, .string event, .string url]))

def identity (watches : List WatchConfig) (clientId : String) (params : Value) :
    Except EventError Subscribing := do
  checkMembers params
  let watch ← match (params.get "name").asStr.bind fun name =>
      watches.find? fun watch => watch.eventName = name with
    | some watch => pure watch
    | none => throw (invalid "unsupported event")
  let arguments := params.get "arguments"
  if !arguments.isNull && arguments.asObject.all fun members => !members.isEmpty then
    throw (invalid "this event takes no arguments")
  let url ← webhookUrl env params
  pure ⟨subscriptionId env clientId watch.eventName url, watch.eventName, url⟩

/-- A `subscribe` whose request was checked. -/
structure SubscribeCall where
  clientId : String
  target : Subscribing
  secret : String
  ttl : Nat
deriving DecidableEq

/-- The checks of `subscribe` before the gate. -/
def subscribe (degraded : Bool) (watches : List WatchConfig) (clientId : String)
    (params : Value) : Except EventError SubscribeCall := do
  if degraded then throw unavailable
  let target ← identity env watches clientId params
  let (secret, ttl) ← requestedTerms env params
  pure ⟨clientId, target, secret, ttl⟩

/-- The first section of `subscribe`, behind the gate: the subscription it refreshes. -/
def WatchState.currentSubscription (state : WatchState) (id : String) (now : Nat) (permitted : Bool) :
    Except EventError (Option Subscription) :=
  if permitted then
    let live := state.subscriptions.filter fun subscription =>
      decide (subscription.id ≠ id ∧ now < subscription.expires)
    if maxSubscriptions ≤ live.length then .error (invalid "too many event subscriptions")
    else .ok (state.subscription? id)
  else .error denied

def Subscription.verified (current : Subscription) (secret : String) (now : Nat) : Bool :=
  decide (current.secret = secret ∧ now < current.verifiedUntil)

/-- The new subscription. Another secret on a refresh rotates the old one. -/
def SubscribeCall.refreshed (call : SubscribeCall) (current : Option Subscription)
    (timestamp : Nat) : Subscription :=
  let live := current.filter fun subscription => timestamp < subscription.expires
  { id := call.target.id
    clientId := call.clientId
    event := call.target.event
    url := call.target.url
    secret := call.secret
    oldSecret :=
      ((live.filter fun subscription => subscription.secret ≠ call.secret).map
        Subscription.secret).or
      ((live.filter fun subscription => timestamp < subscription.oldSecretUntil).bind
        Subscription.oldSecret)
    oldSecretUntil :=
      ((live.filter fun subscription => subscription.secret = call.secret).map
        Subscription.oldSecretUntil).getD (timestamp + 300)
    expires := timestamp + call.ttl / 1000
    verifiedUntil := timestamp + 300 }

/-- The last section of `subscribe`. -/
def SubscribeCall.stored (call : SubscribeCall) (current : Option Subscription)
    (timestamp : Nat) (state : WatchState) : WatchState :=
  let live := current.any fun subscription => timestamp < subscription.expires
  { state with
    subscriptions :=
      (state.subscriptions.filter fun subscription => subscription.id ≠ call.target.id) ++
        [call.refreshed current timestamp]
    queue :=
      if live then state.queue
      else state.queue.filter fun pending => pending.subscriptionId ≠ call.target.id }

/-- Behind the gate, when the state is locked. -/
def unsubscribe (cell : Cell WatchState) (id : String) (saving : Saving) :
    Except EventError Value × Cell WatchState :=
  if cell.value.subscriptions.any fun subscription => subscription.id = id then
    let (next, done) := cell.commit (file codec) (cell.value.forget id) saving
    (answer done (.object []), next)
  else (.ok (.object []), cell)

/-! ### Watching -/

def WatchState.enqueue (state : WatchState) (pending : String → Pending) :
    List String → WatchState
  | [] => state
  | id :: rest =>
    if maxQueue ≤ state.queue.length then state
    else WatchState.enqueue { state with queue := state.queue ++ [pending id] } pending rest

def eventBody (event eventId time : String) (result : Value) : List UInt8 :=
  env.toVec (.object [("eventId", .string eventId), ("name", .string event),
    ("timestamp", .string time), ("cursor", .null), ("data", .object [("result", result)])])

/-- The state with a new result. The first result of an event is its baseline. -/
def WatchState.observed (state : WatchState) (event eventId hash : String) (body : List UInt8)
    (timestamp : Nat) : WatchState :=
  let next := { state with baselines := Tables.insert state.baselines event hash }
  if Tables.containsKey state.baselines event then
    let subscribers := (state.subscriptions.filter fun subscription =>
      decide (subscription.event = event ∧ timestamp < subscription.expires)).map Subscription.id
    next.enqueue (fun id => ⟨id, eventId, body, 0, timestamp⟩) subscribers
  else next

/-- `check`, with what the server knows of the tool (whether it is marked read-only) and the
result of the call. -/
def check (cell : Cell WatchState) (watch : WatchConfig) (readOnly : Option Bool)
    (result : Option Value) (timestamp : Nat) (eventId : String) (saving : Saving) :
    Except EventError Unit × Cell WatchState :=
  match readOnly, result with
  | some readOnly, some result =>
    if readOnly || watch.allowWrites then
      match isoTime env timestamp with
      | .error error => (.error error, cell)
      | .ok time =>
        let body := eventBody env watch.eventName eventId time result
        if maxBody < body.length then (.ok (), cell)
        else
          let hash := env.digest (env.toVec result)
          if Tables.get cell.value.baselines watch.eventName = some hash then (.ok (), cell)
          else
            let (next, done) := cell.commit (file codec)
              (cell.value.observed watch.eventName eventId hash body timestamp) saving
            (answer done (), next)
    else (.ok (), cell)
  | _, _ => (.ok (), cell)

/-- What belongs to the watches that exist, and has not expired. -/
def WatchState.pruned (state : WatchState) (watches : List WatchConfig) (timestamp : Nat) :
    WatchState :=
  let events := watches.map WatchConfig.eventName
  let subscriptions := state.subscriptions.filter fun subscription =>
    decide (subscription.event ∈ events ∧ timestamp < subscription.expires)
  let live := subscriptions.map Subscription.id
  { state with
    baselines := state.baselines.filter fun entry => entry.1 ∈ events
    subscriptions := subscriptions
    queue := state.queue.filter fun pending => pending.subscriptionId ∈ live }

def prune (cell : Cell WatchState) (watches : List WatchConfig) (timestamp : Nat)
    (saving : Saving) : Except EventError Unit × Cell WatchState :=
  let state := cell.value
  let next := state.pruned watches timestamp
  if next.baselines.length = state.baselines.length ∧
      next.subscriptions.length = state.subscriptions.length ∧
      next.queue.length = state.queue.length then (.ok (), cell)
  else
    let (cell, done) := cell.commit (file codec) next saving
    (answer done (), cell)

/-! ### Delivering -/

/-- The first section of `deliver_one`: an item that is due, and its live subscription. -/
def WatchState.due (state : WatchState) (timestamp : Nat) :
    Option (Option Subscription × Pending) :=
  (state.queue.find? fun pending => pending.nextAt ≤ timestamp).map fun pending =>
    (state.subscriptions.find? fun subscription =>
      decide (subscription.id = pending.subscriptionId ∧ timestamp < subscription.expires),
      pending)

def Pending.same (pending other : Pending) : Bool :=
  decide (other.eventId = pending.eventId ∧ other.subscriptionId = pending.subscriptionId)

/-- The state after a post was answered. -/
def WatchState.answered (state : WatchState) (subscription : Subscription) (pending : Pending)
    (status : Option Nat) (now : Nat) : WatchState :=
  if settled status pending.attempts then
    let next := { state with queue := state.queue.filter fun other => !pending.same other }
    if status = some 410 then next.forget subscription.id else next
  else
    { state with
      queue := Queues.modifyFirst pending.same (fun job =>
        { job with
          attempts := job.attempts + 1
          nextAt := now + backoff (job.attempts + 1) }) state.queue }

/-! ### Runs -/

/-- Where the delivery worker has come to with an item. -/
inductive Delivery where
  | taken (subscription : Option Subscription) (pending : Pending) (timestamp : Nat)
  | permitted (subscription : Subscription) (pending : Pending) (timestamp : Nat)
  | posting (subscription : Subscription) (pending : Pending)
deriving DecidableEq

/-- Where the `subscribe` behind the gate has come to. -/
inductive Stage where
  | unverified
  | challenged (challenge : String)
  | verified
deriving DecidableEq

structure Refreshing where
  call : SubscribeCall
  current : Option Subscription
  stage : Stage
deriving DecidableEq

inductive Event where
  /-- A `subscribe` has come through the gate. -/
  | entered (id clientId secret : String)
  /-- It has stored the subscription, in the place of one with the secret `former`. -/
  | stored (id secret : String) (former : Option String) (timestamp : Nat)
  /-- An `unsubscribe` has returned without an error. -/
  | unsubscribed (id clientId : String)
  /-- A challenge is posted. -/
  | verifying (id : String) (degraded : Bool)
  /-- A queued event is posted. -/
  | posted (id eventId : String) (secrets : List String) (timestamp : Nat) (degraded : Bool)
  /-- The component was opened again, by another process. -/
  | opened
deriving DecidableEq

/-- `waiting` has the calls of `subscribe` that have not come through the gate, `issued` the
ids of all events, and `log` what happened, newest last. -/
structure System where
  cell : Cell WatchState
  waiting : List SubscribeCall
  refreshing : Option Refreshing
  delivering : Option Delivery
  stopped : Bool
  issued : List String
  log : List Event

def System.new : System where
  cell := .new .default
  waiting := []
  refreshing := none
  delivering := none
  stopped := false
  issued := []
  log := []

inductive Act where
  | subscribe (watches : List WatchConfig) (clientId : String) (params : Value)
  /-- A waiting call comes through the gate; its grant is checked, and the state. -/
  | enter (index now : Nat) (permitted : Bool)
  | challenge (challenge verification : String) (now : Nat)
  | echo (response : Response)
  | store (now : Nat) (saving : Saving)
  /-- The client of the call behind the gate, or of a waiting one, is gone. -/
  | abandon
  | leave (index : Nat)
  | unsubscribe (watches : List WatchConfig) (clientId : String) (params : Value)
      (saving : Saving)
  | check (watch : WatchConfig) (readOnly : Option Bool) (result : Option Value)
      (timestamp : Nat) (eventId : String) (saving : Saving)
  | prune (watches : List WatchConfig) (timestamp : Nat) (saving : Saving)
  | takeDue (now : Nat)
  /-- The watch of the item is looked up, and the grant of the subscriber. -/
  | decide (watches : List WatchConfig) (permitted : Bool) (saving : Saving)
  | post
  | finish (status : Option Nat) (now : Nat) (saving : Saving)
  /-- The worker is cancelled, wherever it has come to. -/
  | cancel
  | reopen

def System.note (state : System) (event : Event) : System :=
  { state with log := state.log ++ [event] }

/-- Nobody holds the gate. -/
def System.gateFree (state : System) : Bool :=
  state.refreshing.isNone && state.delivering.isNone

def System.idle (state : System) (cell : Cell WatchState) : System :=
  { state with
    cell := cell
    delivering := none }

def step (state : System) : Act → Option System
  | .subscribe watches clientId params =>
    match subscribe env state.cell.degraded watches clientId params with
    | .ok call => some { state with waiting := state.waiting ++ [call] }
    | .error _ => some state
  | .enter index now permitted =>
    match state.waiting[index]? with
    | some call =>
      if state.gateFree then
        let left := { state with waiting := state.waiting.eraseIdx index }
        match state.cell.value.currentSubscription call.target.id now permitted with
        | .ok current =>
          let verified := current.any fun subscription => subscription.verified call.secret now
          some ({ left with
            refreshing := some ⟨call, current, if verified then .verified else .unverified⟩ }.note
            (.entered call.target.id call.clientId call.secret))
        | .error _ => some (left.note (.entered call.target.id call.clientId call.secret))
      else none
    | none => none
  | .challenge challenge verification now =>
    match state.refreshing with
    | some ⟨call, current, .unverified⟩ =>
      match challengeHeaders env call.target.id verification call.secret challenge now with
      | .ok _ =>
        some ({ state with refreshing := some ⟨call, current, .challenged challenge⟩ }.note
          (.verifying call.target.id state.cell.degraded))
      | .error _ => some { state with refreshing := none }
    | _ => none
  | .echo response =>
    match state.refreshing with
    | some ⟨call, current, .challenged challenge⟩ =>
      match challengeMet env challenge response with
      | .ok _ => some { state with refreshing := some ⟨call, current, .verified⟩ }
      | .error _ => some { state with refreshing := none }
    | _ => none
  | .store now saving =>
    match state.refreshing with
    | some ⟨call, current, .verified⟩ =>
      let (cell, done) := state.cell.commit (file codec)
        (call.stored current now state.cell.value) saving
      let next := { state with
        cell := cell
        refreshing := none }
      let former := (state.cell.value.subscription? call.target.id).map Subscription.secret
      some (if done then next.note (.stored call.target.id call.secret former now) else next)
    | _ => none
  | .abandon => if state.refreshing.isSome then some { state with refreshing := none } else none
  | .leave index => some { state with waiting := state.waiting.eraseIdx index }
  | .unsubscribe watches clientId params saving =>
    match identity env watches clientId params with
    | .ok target =>
      if state.gateFree then
        let (answer, cell) := unsubscribe codec state.cell target.id saving
        let next := { state with cell := cell }
        some (match answer with
          | .ok _ => next.note (.unsubscribed target.id clientId)
          | .error _ => next)
      else none
    | .error _ => some state
  | .check watch readOnly result timestamp eventId saving =>
    if eventId ∈ state.issued then none
    else some { state with
      cell := (check env codec state.cell watch readOnly result timestamp eventId saving).2
      issued := eventId :: state.issued }
  | .prune watches timestamp saving =>
    if state.refreshing.isNone then
      some { state with cell := (prune codec state.cell watches timestamp saving).2 }
    else none
  | .takeDue now =>
    if state.gateFree && !state.stopped then
      match state.cell.value.due now with
      | some (subscription, pending) =>
        some { state with delivering := some (.taken subscription pending now) }
      | none => some state
    else none
  | .decide watches permitted saving =>
    match state.delivering with
    | some (.taken subscription pending timestamp) =>
      match subscription.filter fun subscription =>
          permitted && watches.any fun watch => watch.eventName = subscription.event with
      | some subscription =>
        some { state with delivering := some (.permitted subscription pending timestamp) }
      | none =>
        some (state.idle (state.cell.commit (file codec)
          (state.cell.value.forget pending.subscriptionId) saving).1)
    | _ => none
  | .post =>
    match state.delivering with
    | some (.permitted subscription pending timestamp) =>
      let secrets := signers subscription.secret subscription.oldSecret
        subscription.oldSecretUntil timestamp
      let old := subscription.oldSecret.filter fun _ => timestamp < subscription.oldSecretUntil
      match signedHeaders env subscription.id pending.eventId subscription.secret old
          pending.body timestamp with
      | .ok _ =>
        some ({ state with delivering := some (.posting subscription pending) }.note
          (.posted subscription.id pending.eventId secrets timestamp state.cell.degraded))
      | .error _ => some (state.idle state.cell)
    | _ => none
  | .finish status now saving =>
    match state.delivering with
    | some (.posting subscription pending) =>
      some (state.idle (state.cell.commit (file codec)
        (state.cell.value.answered subscription pending status now) saving).1)
    | _ => none
  | .cancel =>
    some { state with
      delivering := none
      stopped := true }
  | .reopen =>
    (state.cell.reopen (file codec) .default).map fun cell =>
      { state with
        cell := cell
        waiting := []
        refreshing := none
        delivering := none
        stopped := false }.note .opened

/-! ### Fixed inputs -/

def sampleWatch : WatchConfig := ⟨"orders", "shop", false⟩

def sampleParams (url : String) (letter : Char) (ttlMs : Int) : Value :=
  .object [("name", .string "shop.orders"), ("ttlMs", .number ttlMs),
    ("delivery", .object [("mode", .string "webhook"), ("url", .string url),
      ("secret", .string (sampleSecret letter))])]

/-- A `subscribe` with its verification. -/
def sampleSubscribe (url : String) (letter : Char) (ttlMs : Int) (now : Nat) : List Act :=
  [.subscribe [sampleWatch] "ann" (sampleParams url letter ttlMs), .enter 0 now true,
    .challenge "c" "v" now, .echo sampleEcho, .store now .saved]

/-- The hash of the request to `https://a.example/` is the one that SHA-256 gives. -/
def sampleDigest (_ : List UInt8) : String :=
  "b7fdda7972d6ec06937b3ee570d6e260445bc46ec7334cdb760ae93b9a19225b"

def sampleResult (text : String) : Value :=
  .object [("content", .array [.object [("type", .string "text"), ("text", .string text)]])]

/-- The hashes are those that SHA-256 gives. -/
def resultEnvironment : Environment :=
  { Environment.sample sampleDigest with
    toVec := fun value =>
      match value with
      | .object [("content", .array [.object [_, ("text", .string text)]])] =>
        asciiBytes ("\x7b\"content\":[\x7b\"type\":\"text\",\"text\":\"" ++ text ++ "\"\x7d]\x7d")
      | _ => (Environment.sample sampleDigest).toVec value
    digest := fun bytes =>
      if bytes.contains '1'.toUInt8 then
        "8a0a30006c964792dd07e1272877026b9c2d0ca735926641ff3456c9169869d6"
      else if bytes.contains '2'.toUInt8 then
        "972e6ddbef5c16ada702e8efae15cdc855d0eef21d406174426c6ba6dc14ef0a"
      else if bytes.contains '3'.toUInt8 then
        "795f05c14db0a3b3b692be1e6384f87674fb841df64d203acb85687f975ed2e6"
      else sampleDigest bytes }

end Plug.Watch
