import Plug.EventContract
import Plug.Queues
import Plug.Runs
import Plug.Tables

/-!
# Slack events

`SlackEvents` takes the callbacks of one Slack app, queues those that mention a bot user or
answer in a thread it takes part in, and posts the queued events to one subscriber.
Sections and the delivery gate are as for watch events; a callback takes the gate only when it
revokes the grant.
-/

namespace Plug.Slack

open JsonValues Events Durable

def eventName : String := "slack.ditto_message"
def ownerProofMarker : String := "PLUG_EVENTS_PROOF_20261003"
def maxSeen : Nat := 10000

structure SlackEventsConfig where
  teamId : String
  appId : String
  ownerUserId : String
  dotUserId : String
  subscriberClientId : String
  /-- Until then the owner may send a marked message as a test. -/
  ownerProofUntil : Option Nat
deriving DecidableEq

/-- `serde` leaves an absent `owner_proof_until` out. -/
def SlackEventsConfig.toValue (config : SlackEventsConfig) : Value :=
  .object ([("team_id", .string config.teamId), ("app_id", .string config.appId),
    ("owner_user_id", .string config.ownerUserId), ("dot_user_id", .string config.dotUserId),
    ("subscriber_client_id", .string config.subscriberClientId)] ++
    (config.ownerProofUntil.map fun until_ =>
      ("owner_proof_until", Value.number until_)).toList)

/-- The answer of a check of the grant, or of the channel too. -/
inductive Access where
  | allowed
  | denied
  | unavailable
deriving DecidableEq

structure Subscription where
  id : String
  url : String
  secret : String
  oldSecret : Option String
  oldSecretUntil : Nat
  expires : Nat
  verifiedUntil : Nat
deriving DecidableEq

structure Pending where
  eventId : String
  channelId : String
  body : List UInt8
  attempts : Nat
  nextAt : Nat
deriving DecidableEq

/-- `seen` has the time at which each event was taken in, `threads` that of the last message of
each thread that is followed. -/
structure EventState where
  version : Nat
  subscription : Option Subscription
  seen : List (String × Nat)
  threads : List (String × Nat)
  queue : List Pending
  sourceRevoked : Bool
deriving DecidableEq

def EventState.default : EventState := ⟨2, none, [], [], [], false⟩

/-- A `C` and then capitals and digits. -/
def validPublicChannel (text : String) : Bool :=
  match text.toList with
  | 'C' :: rest => !rest.isEmpty && rest.all fun character =>
    character.isUpper || character.isDigit
  | _ => false

/-- Seconds, of at most twelve digits, and six digits of a fraction. -/
def validSlackTs (text : String) : Bool :=
  match Text.splitOnce ['.'] text.toList with
  | some (seconds, fraction) => !seconds.isEmpty && decide (seconds.length ≤ 12) &&
    decide (fraction.length = 6) && (seconds ++ fraction).all Char.isDigit
  | none => false

def Pending.accepted (pending : Pending) : Bool :=
  validPublicChannel pending.channelId &&
    decide (pending.body.length ≤ maxBody ∧ pending.attempts < maxAttempts)

/-- What `open` accepts. -/
def EventState.accepted (state : EventState) : Bool :=
  decide (state.version = 2 ∧ state.queue.length ≤ maxQueue ∧ state.seen.length ≤ maxSeen ∧
    state.threads.length ≤ maxSeen) && state.queue.all Pending.accepted

/-! Binary forms, for runs on fixed inputs. -/

def Subscription.serial : Serial Subscription :=
  (Serial.string.pair (Serial.string.pair (Serial.string.pair (Serial.string.option.pair
    (Serial.number.pair (Serial.number.pair Serial.number)))))).map
    (fun item => (item.id, item.url, item.secret, item.oldSecret, item.oldSecretUntil,
      item.expires, item.verifiedUntil))
    (fun (id, url, secret, oldSecret, oldSecretUntil, expires, verifiedUntil) =>
      ⟨id, url, secret, oldSecret, oldSecretUntil, expires, verifiedUntil⟩)
    fun _ => rfl

def Pending.serial : Serial Pending :=
  (Serial.string.pair (Serial.string.pair (Serial.byte.list.pair
    (Serial.number.pair Serial.number)))).map
    (fun item => (item.eventId, item.channelId, item.body, item.attempts, item.nextAt))
    (fun (eventId, channelId, body, attempts, nextAt) =>
      ⟨eventId, channelId, body, attempts, nextAt⟩)
    fun _ => rfl

def EventState.serial : Serial EventState :=
  (Serial.number.pair (Subscription.serial.option.pair
    ((Serial.string.pair Serial.number).list.pair ((Serial.string.pair Serial.number).list.pair
      (Pending.serial.list.pair Serial.bool))))).map
    (fun state => (state.version, state.subscription, state.seen, state.threads, state.queue,
      state.sourceRevoked))
    (fun (version, subscription, seen, threads, queue, sourceRevoked) =>
      ⟨version, subscription, seen, threads, queue, sourceRevoked⟩)
    fun _ => rfl

variable (env : Environment) (codec : Codec EventState)

abbrev file : Format EventState := codec.format EventState.accepted

/-- The name of the directory with the state. -/
def stateKey (config : SlackEventsConfig) : String :=
  env.digest (env.toVec { config with ownerProofUntil := none }.toValue)

/-- Without the subscription, its queue and the threads. -/
def EventState.cleared (state : EventState) : EventState :=
  { state with
    subscription := none
    queue := []
    threads := [] }

/-! ### Subscribing -/

structure Target where
  id : String
  url : String
deriving DecidableEq

/-- The one value that the arguments may have. -/
def scopeArguments : Value := .object [("scope", .string "accessible_public_channels")]

def isScope : Value → Bool
  | .object [(key, .string text)] =>
    decide (key = "scope" ∧ text = "accessible_public_channels")
  | _ => false

def subscriptionId (config : SlackEventsConfig) (url : String) : String :=
  "sub_" ++ env.digest (env.toVec
    (.array [config.toValue, .string eventName, .string url, scopeArguments]))

def identity (config : SlackEventsConfig) (params : Value) : Except EventError Target := do
  checkMembers params
  if !(params.get "name").isText eventName || !isScope (params.get "arguments") then
    throw (invalid "unsupported event or scope")
  let url ← webhookUrl env params
  pure ⟨subscriptionId env config url, url⟩

structure SubscribeCall where
  target : Target
  secret : String
  ttl : Nat
deriving DecidableEq

/-- The checks of `subscribe` before the gate. -/
def subscribe (config : SlackEventsConfig) (params : Value) :
    Except EventError SubscribeCall := do
  let target ← identity env config params
  let (secret, ttl) ← requestedTerms env params
  pure ⟨target, secret, ttl⟩

def requireAccess (degraded enabled : Bool) (access : Access) : Except EventError Unit :=
  if degraded || !enabled then .error denied
  else
    match access with
    | .allowed => .ok ()
    | .denied => .error denied
    | .unavailable => .error unavailable

/-- The section of `subscribe` before the verification: the subscription there is. -/
def EventState.currentSubscription (state : EventState) (id : String) (now : Nat) :
    Except EventError (Option Subscription) :=
  if state.sourceRevoked then .error denied
  else if state.subscription.any fun subscription =>
      decide (subscription.id ≠ id ∧ now < subscription.expires) then
    .error (invalid "one callback subscription is permitted")
  else .ok state.subscription

def SubscribeCall.verified (call : SubscribeCall) (current : Option Subscription) (now : Nat) :
    Bool :=
  current.any fun subscription => decide (subscription.id = call.target.id ∧
    subscription.secret = call.secret ∧ now < subscription.verifiedUntil)

def SubscribeCall.refreshed (call : SubscribeCall) (current : Option Subscription)
    (timestamp : Nat) : Subscription :=
  { id := call.target.id
    url := call.target.url
    secret := call.secret
    oldSecret :=
      ((current.filter fun subscription => decide (subscription.id = call.target.id ∧
        timestamp < subscription.expires ∧ subscription.secret ≠ call.secret)).map
        Subscription.secret).or
      ((current.filter fun subscription => decide (subscription.id = call.target.id ∧
        timestamp < subscription.oldSecretUntil)).bind Subscription.oldSecret)
    oldSecretUntil :=
      ((current.filter fun subscription => subscription.secret = call.secret).map
        Subscription.oldSecretUntil).getD (timestamp + 300)
    expires := timestamp + call.ttl / 1000
    verifiedUntil := timestamp + 300 }

/-- What the last section of `subscribe` writes. -/
def SubscribeCall.stored (call : SubscribeCall) (current : Option Subscription)
    (timestamp : Nat) (state : EventState) : EventState :=
  let replaced := current.any fun subscription =>
    decide (subscription.id ≠ call.target.id ∨ subscription.expires ≤ timestamp)
  { state with
    subscription := some (call.refreshed current timestamp)
    queue := if replaced then [] else state.queue
    threads := if replaced then [] else state.threads }

/-- Behind the gate, when the state is locked. -/
def unsubscribe (cell : Cell EventState) (id : String) (saving : Saving) :
    Except EventError Value × Cell EventState :=
  if cell.value.subscription.any fun subscription => subscription.id = id then
    let (next, done) := cell.commit (file codec) cell.value.cleared saving
    (answer done (.object []), next)
  else (.ok (.object []), cell)

/-! ### Callbacks -/

/-- The headers of a callback that are read. -/
structure SlackHeaders where
  requestTimestamp : Option String
  signature : Option String
deriving DecidableEq

def verifySlack (secret : String) (headers : SlackHeaders) (body : List UInt8)
    (timestamp : Nat) : Except EventError Unit :=
  match headers.requestTimestamp with
  | none => .error denied
  | some sent =>
    match Text.parseU64 sent.toList with
    | none => .error denied
    | some seconds =>
      if 300 < (timestamp - seconds) + (seconds - timestamp) then .error denied
      else
        match (headers.signature.bind fun text =>
            (Text.stripPrefix "v0=".toList text.toList).bind env.hexDecode) with
        | none => .error denied
        | some supplied =>
          let signed := ("v0:" ++ sent ++ ":").toUTF8.toList ++ body
          if env.hmac secret.toUTF8.toList signed = supplied then .ok () else .error denied

inductive Received where
  /-- Slack verifies the address; the answer. -/
  | verification (answer : Value)
  | callback (envelope : Value)

/-- The checks of `ingest` before it waits for anything. -/
def receive (config : SlackEventsConfig) (sourceSecret : String) (degraded enabled : Bool)
    (headers : SlackHeaders) (body : List UInt8) (now : Nat) : Except EventError Received := do
  if degraded || !enabled then throw unavailable
  if maxBody < body.length then throw (invalid "Slack event exceeds size limit")
  verifySlack env sourceSecret headers body now
  match env.fromSlice body with
  | none => throw (invalid "invalid Slack event JSON")
  | some envelope =>
    if (envelope.get "type").isText "url_verification" then
      match (envelope.get "challenge").asStr.filter fun text =>
          Text.byteLength text.toList ≤ 1024 with
      | some challenge => pure (.verification (.object [("challenge", .string challenge)]))
      | none => throw (invalid "invalid Slack challenge")
    else if !(envelope.get "api_app_id").isText config.appId ||
        !(envelope.get "team_id").isText config.teamId then throw denied
    else if !(envelope.get "type").isText "event_callback" then
      throw (invalid "unsupported Slack envelope")
    else pure (.callback envelope)

/-- The callback withdraws the grant. -/
def isRevocation (config : SlackEventsConfig) (envelope : Value) : Bool :=
  let event := envelope.get "event"
  (event.get "type").isText "app_uninstalled" ||
    ((event.get "type").isText "tokens_revoked" &&
      ((event.get "tokens").get "oauth").asArray.any fun users =>
        users.any fun user => user.isText config.ownerUserId)

/-- The callback is of the owner's own installation. -/
def isAuthorized (config : SlackEventsConfig) (envelope : Value) : Bool :=
  (envelope.get "authorizations").asArray.any fun items => items.any fun item =>
    (item.get "team_id").isText config.teamId && (item.get "user_id").isText config.ownerUserId &&
      (item.get "is_bot").isFalse

def eventIdOf (envelope : Value) : Option String :=
  (envelope.get "event_id").asStr.filter fun text =>
    decide (text ≠ "" ∧ Text.byteLength text.toList ≤ 128)

/-- What is not older than seven days. -/
def remembered (memory : List (String × Nat)) (timestamp : Nat) : List (String × Nat) :=
  memory.filter fun entry => timestamp < entry.2 + 7 * day

def EventState.recent (state : EventState) (timestamp : Nat) : EventState :=
  { state with
    seen := remembered state.seen timestamp
    threads := remembered state.threads timestamp }

/-- A message in a public channel, while there is somebody to tell. The channel. -/
def EventState.channel? (state : EventState) (event : Value) (timestamp : Nat) :
    Option String :=
  if !state.sourceRevoked &&
      state.subscription.any (fun subscription => timestamp < subscription.expires) &&
      (event.get "type").isText "message" && (event.get "channel_type").isText "channel" then
    (event.get "channel").asStr.filter validPublicChannel
  else none

/-- A message of the bot user itself: it takes part in the thread. -/
def isOwn (config : SlackEventsConfig) (event : Value) : Bool :=
  (event.get "user").isText config.dotUserId &&
    (event.member? "subtype").all fun subtype => subtype.isText "bot_message"

/-- A message that no app has sent. -/
def isPlain (event : Value) : Bool :=
  (event.member? "subtype").isNone && (event.member? "bot_id").isNone &&
    (event.member? "app_id").isNone

def threadKey (channel root : String) : String := channel ++ ":" ++ root

/-- No room for another thread. -/
def EventState.crowded (state : EventState) (key : String) : Bool :=
  decide (maxSeen ≤ state.threads.length) && !Tables.containsKey state.threads key

def EventState.follow (state : EventState) (event : Value) (channel : String)
    (timestamp : Nat) : Except EventError EventState :=
  match (((event.get "thread_ts").asStr.or (event.get "ts").asStr).filter validSlackTs) with
  | none => .ok state
  | some root =>
    if state.crowded (threadKey channel root) then .error unavailable
    else .ok { state with
      threads := Tables.insert state.threads (threadKey channel root) timestamp }

/-- A message of a person, with what decides whether it is passed on. -/
structure Message where
  user : String
  ts : String
  root : String
  text : String
  ownerProof : Bool
  mention : Bool
deriving DecidableEq

def messageOf (config : SlackEventsConfig) (event : Value) (timestamp : Nat) : Message :=
  let user := ((event.get "user").asStr.filter fun text => text.toList.head? = some 'U').getD ""
  let ts := ((event.get "ts").asStr.filter validSlackTs).getD ""
  let text := (event.get "text").asStr.getD ""
  let address := "<@" ++ config.dotUserId ++ ">"
  { user := user
    ts := ts
    root := (event.get "thread_ts").asStr.getD ts
    text := text
    ownerProof := decide (user = config.ownerUserId) &&
      config.ownerProofUntil.any (fun until_ => timestamp < until_) &&
      decide (Text.trim text.toList = (address ++ " " ++ ownerProofMarker).toList)
    mention := Text.contains address.toList text.toList }

def Message.fromPerson (message : Message) (config : SlackEventsConfig) : Bool :=
  decide (message.user ≠ "" ∧ message.user ≠ config.dotUserId) &&
    (decide (message.user ≠ config.ownerUserId) || message.ownerProof) &&
    decide (message.ts ≠ "") && validSlackTs message.root

def eventBody (config : SlackEventsConfig) (eventId channel time : String)
    (message : Message) : List UInt8 :=
  env.toVec (.object [("eventId", .string eventId), ("name", .string eventName),
    ("timestamp", .string time), ("cursor", .null),
    ("data", .object [("team_id", .string config.teamId), ("channel_id", .string channel),
      ("user_id", .string message.user), ("message_ts", .string message.ts),
      ("thread_ts", .string message.root), ("text", .string message.text),
      ("reason", .string (if message.mention then "mention" else "thread_reply")),
      ("url", .string ("https://app.slack.com/archives/" ++ channel ++ "/p" ++
        String.ofList (message.ts.toList.filter fun character => character ≠ '.')))])])

def EventState.pass (state : EventState) (config : SlackEventsConfig)
    (eventId channel : String) (message : Message) (timestamp : Nat) :
    Except EventError EventState := do
  let key := threadKey channel message.root
  let reply := decide (message.root ≠ message.ts) && Tables.containsKey state.threads key
  if !(message.fromPerson config && (message.mention || reply)) then return state
  if decide (maxQueue ≤ state.queue.length) || state.crowded key then throw unavailable
  match Text.parseU64 (message.ts.toList.takeWhile fun character => character ≠ '.') with
  | none => throw (invalid "invalid Slack timestamp")
  | some occurrence =>
    let time ← isoTime env occurrence
    let body := eventBody env config eventId channel time message
    if maxBody < body.length then throw (invalid "event payload exceeds size limit")
    return { state with
      threads := if message.ownerProof then state.threads
        else Tables.insert state.threads key timestamp
      queue := state.queue ++ [⟨eventId, channel, body, 0, timestamp⟩] }

/-- The state with a callback taken in, before it is remembered. -/
def EventState.take (state : EventState) (config : SlackEventsConfig) (eventId : String)
    (event : Value) (timestamp : Nat) : Except EventError EventState :=
  match state.channel? event timestamp with
  | none => .ok state
  | some channel =>
    if isOwn config event then state.follow event channel timestamp
    else if isPlain event then
      state.pass env config eventId channel (messageOf config event timestamp) timestamp
    else .ok state

def EventState.revoked (state : EventState) : EventState :=
  { state.cleared with
    seen := []
    sourceRevoked := true }

/-- What the section of `ingest` writes, if it writes. -/
def EventState.ingested (state : EventState) (config : SlackEventsConfig) (envelope : Value)
    (timestamp : Nat) : Except EventError (Option EventState) :=
  let revocation := isRevocation config envelope
  if !isAuthorized config envelope && !revocation then .error denied
  else
    match eventIdOf envelope with
    | none => .error (invalid "Slack event ID is required")
    | some eventId =>
      let recent := state.recent timestamp
      if Tables.containsKey recent.seen eventId then .ok none
      else if revocation then
        let next := recent.revoked
        .ok (some { next with seen := Tables.insert next.seen eventId timestamp })
      else if maxSeen ≤ recent.seen.length then .error unavailable
      else
        match recent.take env config eventId (envelope.get "event") timestamp with
        | .error error => .error error
        | .ok next =>
          if next.queue.length = state.queue.length ∧
              Tables.sameEntries next.threads state.threads then .ok none
          else .ok (some { next with seen := Tables.insert next.seen eventId timestamp })

def ingest (cell : Cell EventState) (config : SlackEventsConfig) (envelope : Value)
    (timestamp : Nat) (saving : Saving) : Except EventError Value × Cell EventState :=
  match cell.value.ingested env config envelope timestamp with
  | .error error => (.error error, cell)
  | .ok none => (.ok (.object []), cell)
  | .ok (some value) =>
    let (next, done) := cell.commit (file codec) value saving
    (answer done (.object []), next)

/-! ### Delivering -/

def EventState.expired (state : EventState) (timestamp : Nat) : Bool :=
  state.subscription.any fun subscription => subscription.expires ≤ timestamp

/-- The first section of `deliver_one`, when the subscription has not expired. -/
def EventState.due (state : EventState) (timestamp : Nat) : Option (Subscription × Pending) :=
  state.subscription.bind fun subscription =>
    (state.queue.find? fun pending => pending.nextAt ≤ timestamp).map fun pending =>
      (subscription, pending)

/-- The channel can no longer be read. -/
def EventState.withdrawn (state : EventState) (channel : String) : EventState :=
  { state with
    queue := state.queue.filter fun pending => pending.channelId ≠ channel
    threads := state.threads.filter fun entry =>
      !((channel ++ ":").toList.isPrefixOf entry.1.toList) }

def EventState.drop (state : EventState) (eventId : String) : EventState :=
  { state with queue := state.queue.filter fun pending => pending.eventId ≠ eventId }

/-- Another attempt is counted, and the next one put off. -/
def EventState.retry (state : EventState) (eventId : String) (now : Nat) : EventState :=
  { state with
    queue := Queues.modifyFirst (fun pending => pending.eventId = eventId) (fun job =>
      { job with
        attempts := job.attempts + 1
        nextAt := now + backoff (job.attempts + 1) }) state.queue }

/-- It is not known whether the channel can be read. -/
def EventState.postponed (state : EventState) (pending : Pending) (timestamp : Nat) :
    EventState :=
  if maxAttempts ≤ pending.attempts + 1 then state.drop pending.eventId
  else state.retry pending.eventId timestamp

/-- The state after a post was answered. -/
def EventState.answered (state : EventState) (pending : Pending) (status : Option Nat)
    (now : Nat) : EventState :=
  if settled status pending.attempts then
    if status = some 410 then (state.drop pending.eventId).cleared
    else state.drop pending.eventId
  else state.retry pending.eventId now

/-! ### Runs -/

/-- Where the delivery worker has come to with an item. -/
inductive Delivery where
  | taken (subscription : Subscription) (pending : Pending) (timestamp : Nat)
  | permitted (subscription : Subscription) (pending : Pending) (timestamp : Nat)
  | posting (subscription : Subscription) (pending : Pending)
deriving DecidableEq

/-- Where the `subscribe` behind the gate has come to. -/
inductive Stage where
  | entered
  | unverified (current : Option Subscription)
  | challenged (current : Option Subscription) (challenge : String)
  | verified (current : Option Subscription)
deriving DecidableEq

structure Refreshing where
  call : SubscribeCall
  stage : Stage
deriving DecidableEq

inductive Event where
  /-- A `subscribe` has come through the gate. -/
  | entered (id secret : String)
  /-- It has stored the subscription, in the place of one with the secret `former`. -/
  | stored (id secret : String) (former : Option String) (timestamp : Nat)
  /-- A callback was taken in, and written. -/
  | ingested (eventId : String) (queued : Bool) (timestamp : Nat)
  /-- A callback that revokes the grant was taken in, and written. -/
  | revoked
  /-- A challenge is posted. -/
  | verifying (id : String) (degraded : Bool)
  /-- A queued event is posted. -/
  | posted (id eventId : String) (secrets : List String) (timestamp : Nat) (degraded : Bool)
  /-- The component was opened again, by another process. -/
  | opened
deriving DecidableEq

/-- `waiting` has the calls of `subscribe` that have not come through the gate, `received` the
callbacks that have not come to the state, and `log` what happened, newest last. -/
structure System where
  config : SlackEventsConfig
  sourceSecret : String
  cell : Cell EventState
  waiting : List SubscribeCall
  refreshing : Option Refreshing
  received : List Value
  delivering : Option Delivery
  stopped : Bool
  log : List Event

def System.new (config : SlackEventsConfig) (sourceSecret : String) : System where
  config := config
  sourceSecret := sourceSecret
  cell := .new .default
  waiting := []
  refreshing := none
  received := []
  delivering := none
  stopped := false
  log := []

inductive Act where
  | subscribe (params : Value)
  /-- A waiting call comes through the gate. -/
  | enter (index : Nat) (enabled : Bool)
  /-- The grant was checked. -/
  | checkGrant (access : Access) (now : Nat)
  | challenge (challenge verification : String) (now : Nat)
  | echo (response : Response)
  /-- The grant was checked once more. -/
  | store (enabled : Bool) (access : Access) (now : Nat) (saving : Saving)
  /-- The client of the call behind the gate, or of a waiting one, is gone. -/
  | abandon
  | leave (index : Nat)
  | unsubscribe (params : Value) (saving : Saving)
  | receive (enabled : Bool) (headers : SlackHeaders) (body : List UInt8) (now : Nat)
  | ingest (index timestamp : Nat) (saving : Saving)
  /-- Slack has closed the connection of a callback. -/
  | hangUp (index : Nat)
  | takeDue (now : Nat) (saving : Saving)
  /-- The grant was checked, and the channel of the item. -/
  | decide (access channel : Access) (saving : Saving)
  | post (enabled : Bool)
  | finish (status : Option Nat) (now : Nat) (saving : Saving)
  /-- The worker is cancelled, wherever it has come to. -/
  | cancel
  | reopen (config : SlackEventsConfig) (sourceSecret : String)

def System.note (state : System) (event : Event) : System :=
  { state with log := state.log ++ [event] }

/-- Nobody holds the gate. -/
def System.gateFree (state : System) : Bool :=
  state.refreshing.isNone && state.delivering.isNone

def System.idle (state : System) (cell : Cell EventState) : System :=
  { state with
    cell := cell
    delivering := none }

/-- What the log has of a callback. -/
def callbackEvent (config : SlackEventsConfig) (envelope : Value) (timestamp : Nat)
    (state next : EventState) : Event :=
  if isRevocation config envelope then .revoked
  else .ingested ((eventIdOf envelope).getD "")
    (decide (state.queue.length < next.queue.length)) timestamp

def step (state : System) : Act → Option System
  | .subscribe params =>
    match subscribe env state.config params with
    | .ok call => some { state with waiting := state.waiting ++ [call] }
    | .error _ => some state
  | .enter index enabled =>
    match state.waiting[index]? with
    | some call =>
      if state.gateFree then
        let left := { state with waiting := state.waiting.eraseIdx index }
        if state.cell.degraded || !enabled then
          some (left.note (.entered call.target.id call.secret))
        else
          some ({ left with refreshing := some ⟨call, .entered⟩ }.note
            (.entered call.target.id call.secret))
      else none
    | none => none
  | .checkGrant access now =>
    match state.refreshing with
    | some ⟨call, .entered⟩ =>
      match access, state.cell.value.currentSubscription call.target.id now with
      | .allowed, .ok current => some { state with
        refreshing := some ⟨call,
          if call.verified current now then .verified current else .unverified current⟩ }
      | _, _ => some { state with refreshing := none }
    | _ => none
  | .challenge challenge verification now =>
    match state.refreshing with
    | some ⟨call, .unverified current⟩ =>
      match challengeHeaders env call.target.id verification call.secret challenge now with
      | .ok _ =>
        some ({ state with refreshing := some ⟨call, .challenged current challenge⟩ }.note
          (.verifying call.target.id state.cell.degraded))
      | .error _ => some { state with refreshing := none }
    | _ => none
  | .echo response =>
    match state.refreshing with
    | some ⟨call, .challenged current challenge⟩ =>
      match challengeMet env challenge response with
      | .ok _ => some { state with refreshing := some ⟨call, .verified current⟩ }
      | .error _ => some { state with refreshing := none }
    | _ => none
  | .store enabled access now saving =>
    match state.refreshing with
    | some ⟨call, .verified current⟩ =>
      let ended := { state with refreshing := none }
      match requireAccess state.cell.degraded enabled access with
      | .error _ => some ended
      | .ok _ =>
        if state.cell.value.sourceRevoked then some ended
        else
          let (cell, done) := state.cell.commit (file codec)
            (call.stored current now state.cell.value) saving
          let next := { ended with cell := cell }
          let former := state.cell.value.subscription.map Subscription.secret
          some (if done then next.note (.stored call.target.id call.secret former now) else next)
    | _ => none
  | .abandon => if state.refreshing.isSome then some { state with refreshing := none } else none
  | .leave index => some { state with waiting := state.waiting.eraseIdx index }
  | .unsubscribe params saving =>
    match identity env state.config params with
    | .ok target =>
      if state.gateFree then
        some { state with cell := (unsubscribe codec state.cell target.id saving).2 }
      else none
    | .error _ => some state
  | .receive enabled headers body now =>
    match receive env state.config state.sourceSecret state.cell.degraded enabled headers body
        now with
    | .ok (.callback envelope) => some { state with received := state.received ++ [envelope] }
    | _ => some state
  | .ingest index timestamp saving =>
    match state.received[index]? with
    | some envelope =>
      if isRevocation state.config envelope && !state.gateFree then none
      else
        let left := { state with received := state.received.eraseIdx index }
        match state.cell.value.ingested env state.config envelope timestamp with
        | .ok (some value) =>
          let next := { left with
            cell := (ingest env codec state.cell state.config envelope timestamp saving).2 }
          some (if state.cell.reaches (file codec) value saving then
              next.note (callbackEvent state.config envelope timestamp state.cell.value value)
            else next)
        | _ => some left
    | none => none
  | .hangUp index => some { state with received := state.received.eraseIdx index }
  | .takeDue now saving =>
    if state.gateFree && !state.stopped then
      if state.cell.value.expired now then
        some { state with
          cell := (state.cell.commit (file codec) state.cell.value.cleared saving).1 }
      else
        match state.cell.value.due now with
        | some (subscription, pending) =>
          some { state with delivering := some (.taken subscription pending now) }
        | none => some state
    else none
  | .decide access channel saving =>
    match state.delivering with
    | some (.taken subscription pending timestamp) =>
      let write (value : EventState) : System :=
        state.idle (state.cell.commit (file codec) value saving).1
      match access, channel with
      | .denied, _ => some (write state.cell.value.cleared)
      | .unavailable, _ => some (state.idle state.cell)
      | .allowed, .denied => some (write (state.cell.value.withdrawn pending.channelId))
      | .allowed, .unavailable => some (write (state.cell.value.postponed pending timestamp))
      | .allowed, .allowed =>
        some { state with delivering := some (.permitted subscription pending timestamp) }
    | _ => none
  | .post enabled =>
    match state.delivering with
    | some (.permitted subscription pending timestamp) =>
      if state.cell.degraded || !enabled then some (state.idle state.cell)
      else
        let secrets := signers subscription.secret subscription.oldSecret
          subscription.oldSecretUntil timestamp
        let old := subscription.oldSecret.filter fun _ =>
          timestamp < subscription.oldSecretUntil
        match signedHeaders env subscription.id pending.eventId subscription.secret old
            pending.body timestamp with
        | .ok _ =>
          some ({ state with delivering := some (.posting subscription pending) }.note
            (.posted subscription.id pending.eventId secrets timestamp state.cell.degraded))
        | .error _ => some (state.idle state.cell)
    | _ => none
  | .finish status now saving =>
    match state.delivering with
    | some (.posting _ pending) =>
      some (state.idle (state.cell.commit (file codec)
        (state.cell.value.answered pending status now) saving).1)
    | _ => none
  | .cancel =>
    some { state with
      delivering := none
      stopped := true }
  | .reopen config sourceSecret =>
    if stateKey env config = stateKey env state.config then
      (state.cell.reopen (file codec) .default).map fun cell =>
        { state with
          config := config
          sourceSecret := sourceSecret
          cell := cell
          waiting := []
          refreshing := none
          received := []
          delivering := none
          stopped := false }.note .opened
    else none

/-! ### Fixed inputs -/

def sampleConfig : SlackEventsConfig := ⟨"T1", "A1", "U1", "U2", "ann", none⟩

def sampleParams (letter : Char) (ttlMs : Int) : Value :=
  .object [("name", .string eventName), ("arguments", scopeArguments),
    ("ttlMs", .number ttlMs),
    ("delivery", .object [("mode", .string "webhook"), ("url", .string "https://a.example/"),
      ("secret", .string (sampleSecret letter))])]

/-- A `subscribe` with its verification. -/
def sampleSubscribe (letter : Char) (ttlMs : Int) (now : Nat) : List Act :=
  [.subscribe (sampleParams letter ttlMs), .enter 0 true, .checkGrant .allowed now,
    .challenge "c" "v" now, .echo sampleEcho, .store true .allowed now .saved]

/-- The hash of the request is the one that SHA-256 gives. -/
def sampleDigest (_ : List UInt8) : String :=
  "84c4fea261a4193f9c6106e160857161c19a5b479f912b29efdc6c5323927c36"

/-- A message that mentions the bot user. -/
def sampleEnvelope (eventId : String) : Value :=
  .object [("type", .string "event_callback"), ("api_app_id", .string "A1"),
    ("team_id", .string "T1"), ("event_id", .string eventId),
    ("authorizations", .array [.object [("team_id", .string "T1"), ("user_id", .string "U1"),
      ("is_bot", .bool false)]]),
    ("event", .object [("type", .string "message"), ("channel_type", .string "channel"),
      ("channel", .string "C1"), ("user", .string "U3"), ("ts", .string "1.000000"),
      ("text", .string "<@U2>")])]

def sampleCallback (eventId : String) : List UInt8 :=
  asciiBytes ("\x7b\"type\":\"event_callback\",\"api_app_id\":\"A1\",\"team_id\":\"T1\"," ++
    "\"event_id\":\"" ++ eventId ++ "\",\"authorizations\":[\x7b\"team_id\":\"T1\"," ++
    "\"user_id\":\"U1\",\"is_bot\":false\x7d],\"event\":\x7b\"type\":\"message\"," ++
    "\"channel_type\":\"channel\",\"channel\":\"C1\",\"user\":\"U3\"," ++
    "\"ts\":\"1.000000\",\"text\":\"<@U2>\"\x7d\x7d")

def callbackEnvironment : Environment :=
  { Environment.sample sampleDigest with
    fromSlice := fun bytes =>
      if bytes = sampleCallback "Ev1" then some (sampleEnvelope "Ev1")
      else (Environment.sample sampleDigest).fromSlice bytes }

/-- A callback with the signature that `Environment.sample` gives to every body. -/
def sampleIngest (now : Nat) : List Act :=
  [.receive true ⟨some "1", some (String.ofList ("v0=".toList ++ List.replicate 64 '0'))⟩
    (sampleCallback "Ev1") now, .ingest 0 now .saved]

end Plug.Slack
