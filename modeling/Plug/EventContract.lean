import Plug.Durable
import Plug.JsonValues
import Plug.Serial
import Plug.Text

/-!
# What the event sources share

Limits, errors, the checks of a subscription request, the signing of a delivery, and what the
answer of a webhook means. Serialization, hashing, URLs and dates are those of libraries and
enter through `Environment`.
-/

namespace Plug.Events

open JsonValues

def day : Nat := 86400
def maxBody : Nat := 262144
def maxQueue : Nat := 128
def maxAttempts : Nat := 8
/-- The largest state file. -/
def stateLimit : Nat := 8388608

structure EventError where
  code : Int
  message : String
  reason : Option String
deriving DecidableEq

def invalid (message : String) : EventError := ⟨-32602, message, none⟩
def denied : EventError := ⟨-32001, "event access denied", none⟩
def unavailable : EventError := ⟨-32603, "event state unavailable", none⟩
def callbackError (reason : String) : EventError :=
  ⟨-32015, "callback verification failed", some reason⟩

structure Environment where
  /-- `serde_json`. -/
  toVec : Value → List UInt8
  fromSlice : List UInt8 → Option Value
  /-- SHA-256 in hexadecimal digits. -/
  digest : List UInt8 → String
  base64Decode : List Char → Option (List UInt8)
  hexDecode : List Char → Option (List UInt8)
  hmac : List UInt8 → List UInt8 → List UInt8
  /-- A text can be the value of an HTTP header. -/
  headerAccepts : String → Bool
  /-- `validate_url` accepts the address. -/
  urlAccepted : String → Bool
  /-- A time in ISO form, if it has one. -/
  isoTime : Nat → Option String

/-- How a state is written to its file and read from it: `serde_json` again. -/
structure Codec (State : Type) where
  toVec : State → List UInt8
  fromSlice : List UInt8 → Option State

/-- What is written is read back. -/
def Codec.Faithful {State : Type} (codec : Codec State) : Prop :=
  ∀ state, codec.fromSlice (codec.toVec state) = some state

/-- The file of a component, of which `open` accepts some states only. -/
def Codec.format {State : Type} (codec : Codec State) (accepts : State → Bool) :
    Durable.Format State where
  encode := codec.toVec
  decode bytes := (codec.fromSlice bytes).filter accepts
  limit := stateLimit

section Codecs

variable {State : Type} {codec : Codec State} {accepts : State → Bool}

theorem Codec.Faithful.reads (faithful : codec.Faithful) (value result : State)
    (decoded : (codec.format accepts).decode ((codec.format accepts).encode value) =
      some result) : result = value := by
  obtain ⟨read, _⟩ := Option.filter_eq_some_iff.mp decoded
  rw [Codec.format, faithful value] at read
  exact (Option.some.inj read).symm

/-- A state that is accepted is read back. -/
theorem Codec.Faithful.decodes (faithful : codec.Faithful) {value : State}
    (accepted : accepts value = true) :
    ((codec.format accepts).decode ((codec.format accepts).encode value)).isSome = true := by
  change ((codec.fromSlice (codec.toVec value)).filter accepts).isSome = true
  rw [faithful value, Option.filter_some, if_pos accepted]
  rfl

theorem Codec.Faithful.refuses (faithful : codec.Faithful) {value : State}
    (refused : accepts value = false) :
    (codec.format accepts).decode ((codec.format accepts).encode value) = none := by
  change (codec.fromSlice (codec.toVec value)).filter accepts = none
  rw [faithful value, Option.filter_some, refused]
  rfl

/-- The codec of a binary form. -/
def Codec.ofSerial (serial : Serial State) : Codec State where
  toVec := serial.encode
  fromSlice bytes := (serial.decode bytes).map Prod.fst

theorem Codec.ofSerial_faithful (serial : Serial State) : (ofSerial serial).Faithful := by
  intro state
  have read := serial.law state []
  rw [List.append_nil] at read
  change (serial.decode (serial.encode state)).map Prod.fst = some state
  rw [read, Option.map_some]

end Codecs

/-- What a call returns when its last write has ended. -/
def answer {Answer : Type} (done : Bool) (value : Answer) : Except EventError Answer :=
  if done then .ok value else .error unavailable

variable (env : Environment)

def isoTime (seconds : Nat) : Except EventError String :=
  match env.isoTime seconds with
  | some text => .ok text
  | none => .error (invalid "invalid timestamp")

/-! ### Signing -/

def signingKey (secret : String) : Except EventError (List UInt8) :=
  match (Text.stripPrefix "whsec_".toList secret.toList).bind env.base64Decode with
  | some key =>
    if 24 ≤ key.length ∧ key.length ≤ 64 then .ok key
    else .error (invalid "invalid webhook signing secret length")
  | none => .error (invalid "invalid webhook signing secret")

/-- The headers of a delivery, besides its content type. -/
structure SignedHeaders where
  webhookId : String
  webhookTimestamp : Nat
  webhookSignature : List (List UInt8)
  subscriptionId : String
deriving DecidableEq

def signedHeaders (subscription eventId secret : String) (old : Option String)
    (body : List UInt8) (timestamp : Nat) : Except EventError SignedHeaders := do
  let signing := (eventId ++ "." ++ toString timestamp ++ ".").toUTF8.toList ++ body
  let key ← signingKey env secret
  let signatures ← match old with
    | some old => do
      let oldKey ← signingKey env old
      pure [env.hmac key signing, env.hmac oldKey signing]
    | none => pure [env.hmac key signing]
  if env.headerAccepts eventId && env.headerAccepts subscription then
    pure ⟨eventId, timestamp, signatures, subscription⟩
  else throw (invalid "invalid webhook header")

/-- The secrets that sign a delivery made at a time. -/
def signers (secret : String) (oldSecret : Option String) (oldSecretUntil timestamp : Nat) :
    List String :=
  secret :: (oldSecret.filter fun _ => timestamp < oldSecretUntil).toList

/-! ### Requests -/

/-- The members a request may have. -/
def checkMembers (params : Value) : Except EventError Unit :=
  match params.asObject with
  | none => .error (invalid "event params must be an object")
  | some members =>
    if keysAmong ["name", "arguments", "delivery", "ttlMs", "cursor", "_meta"] members then .ok ()
    else .error (invalid "unknown event parameter")

def webhookUrl (params : Value) : Except EventError String :=
  let delivery := params.get "delivery"
  match delivery.asObject with
  | none => .error (invalid "webhook delivery is required")
  | some members =>
    if keysAmong ["mode", "url", "secret"] members && (delivery.get "mode").isText "webhook" then
      match (delivery.get "url").asStr with
      | none => .error (invalid "callback URL is required")
      | some url =>
        if env.urlAccepted url then .ok url else .error (callbackError "invalid_url")
    else .error (invalid "only webhook delivery is supported")

/-- The secret and the lifetime, in milliseconds, that a subscription asks for. -/
def requestedTerms (params : Value) : Except EventError (String × Nat) := do
  if (params.member? "cursor").any fun cursor => !cursor.isNull then
    throw (invalid "this event does not support replay")
  match ((params.get "delivery").get "secret").asStr with
  | none => throw (invalid "signing secret is required")
  | some secret =>
    let _ ← signingKey env secret
    let ttl ← match params.member? "ttlMs" with
      | none | some .null => pure (day * 1000)
      | some value =>
        match value.asNat.filter (0 < ·) with
        | some ttl => pure (min ttl (day * 1000))
        | none => throw (invalid "ttlMs must be positive or null")
    if ttl < 1000 then throw (invalid "minimum supported ttlMs is 1000")
    pure (secret, ttl)

/-! ### Webhooks -/

def accepted (status : Option Nat) : Bool :=
  status.any fun code => decide (200 ≤ code ∧ code < 300)

def permanent (status : Option Nat) : Bool :=
  status.any fun code => decide (400 ≤ code ∧ code < 500 ∧ code ≠ 408 ∧ code ≠ 429)

/-- An item leaves the queue with this answer to its next post. -/
def settled (status : Option Nat) (attempts : Nat) : Bool :=
  accepted status || permanent status || decide (maxAttempts ≤ attempts + 1)

theorem unsettled_room {status : Option Nat} {attempts : Nat}
    (unsettled : ¬ settled status attempts = true) : attempts + 1 < maxAttempts := by
  rw [settled, Bool.or_eq_true, not_or, decide_eq_true_eq] at unsettled
  exact Nat.lt_of_not_le unsettled.2

/-- Seconds to the next attempt. -/
def backoff (attempts : Nat) : Nat := min (2 ^ attempts) 300

/-- What a post came back with: an error, or the status and the body. -/
abbrev Response : Type := Except String (Nat × List UInt8)

def Response.status : Response → Option Nat
  | .ok (status, _) => some status
  | .error _ => none

/-- The callback has echoed the challenge. -/
def challengeMet (challenge : String) (response : Response) : Except EventError Unit :=
  match response with
  | .error reason => .error (callbackError reason)
  | .ok (status, body) =>
    match env.fromSlice body with
    | none => .error (callbackError "challenge_failed")
    | some echoed =>
      if accepted (some status) && (echoed.get "challenge").isText challenge then .ok ()
      else .error (callbackError "challenge_failed")

def challengeBody (challenge : String) : List UInt8 :=
  env.toVec (.object [("type", .string "verification"), ("challenge", .string challenge)])

/-- The headers of the post that verifies a callback. -/
def challengeHeaders (subscription verification secret challenge : String) (now : Nat) :
    Except EventError SignedHeaders :=
  signedHeaders env subscription ("msg_verification_" ++ verification) secret none
    (challengeBody env challenge) now

/-! ### Fixed inputs -/

def asciiBytes (text : String) : List UInt8 := text.toByteArray.data.toList

/-- What the libraries answer in runs on fixed inputs: three secrets, the first ten seconds of
the epoch, the echo of a challenge. Nothing there depends on the signatures. -/
def Environment.sample (digest : List UInt8 → String) : Environment where
  toVec value := asciiBytes <| match value with
    | .array [.string clientId, .string event, .string url] =>
      "[\"" ++ clientId ++ "\",\"" ++ event ++ "\",\"" ++ url ++ "\"]"
    | .string text => "\"" ++ text ++ "\""
    | _ => "{}"
  fromSlice bytes :=
    if bytes = asciiBytes "\x7b\"challenge\":\"c\"\x7d" then
      some (.object [("challenge", .string "c")])
    else none
  digest := digest
  base64Decode text := match text.head? with
    | some 'A' => some (List.replicate 24 0)
    | some 'B' => some (List.replicate 8 [4, 16, 65]).flatten
    | some 'C' => some (List.replicate 8 [8, 32, 130]).flatten
    | _ => none
  hexDecode text := some (List.replicate (text.length / 2) 0)
  hmac _ _ := List.replicate 32 0
  headerAccepts _ := true
  urlAccepted _ := true
  isoTime seconds := some ("1970-01-01T00:00:0" ++ toString seconds ++ "Z")

/-- A secret of one letter. -/
def sampleSecret (letter : Char) : String :=
  String.ofList ("whsec_".toList ++ List.replicate 32 letter)

/-- The answer of a callback that echoes the challenge. -/
def sampleEcho : Response := .ok (200, asciiBytes "\x7b\"challenge\":\"c\"\x7d")

end Plug.Events
