import Plug.SlackEvents

/-!
# The identity of a Slack subscription

The directory of the state is named by a hash of the configuration without the window of the
owner's proof, the id of a subscription by one of the whole configuration. So another window
opens the same state, where it finds a subscription that it does not take for its own.
-/

namespace Plug.Slack

open JsonValues Events Durable Runs

variable {env : Environment} {codec : Codec EventState} {first second : SlackEventsConfig}

/-- The configurations differ in the window of the owner's proof only. -/
def SlackEventsConfig.Alike (first second : SlackEventsConfig) : Prop :=
  second = { first with ownerProofUntil := second.ownerProofUntil }

/-- What is hashed for the id of a subscription. -/
def identityKey (config : SlackEventsConfig) (url : String) : Value :=
  .array [config.toValue, .string eventName, .string url, scopeArguments]

/-- The window is not part of the state's key. -/
theorem stateKey_alike (alike : first.Alike second) : stateKey env second = stateKey env first := by
  rw [stateKey, stateKey, alike]

theorem toValue_alike (alike : first.Alike second) :
    second.toValue = first.toValue ↔ second.ownerProofUntil = first.ownerProofUntil := by
  constructor
  · intro same
    rw [alike, SlackEventsConfig.toValue, SlackEventsConfig.toValue, Value.object.injEq,
      List.append_cancel_left_eq] at same
    cases known : first.ownerProofUntil with
    | none =>
      cases other : second.ownerProofUntil with
      | none => rfl
      | some later =>
        rw [known, other] at same
        cases same
    | some until_ =>
      cases other : second.ownerProofUntil with
      | none =>
        rw [known, other] at same
        cases same
      | some later =>
        rw [known, other] at same
        have equal : (later : Int) = until_ := by simpa using same
        rw [Int.ofNat.inj equal]
  · intro same
    rw [alike, same]

theorem identity_target {config : SlackEventsConfig} {params : Value} {target : Target}
    (known : identity env config params = .ok target) :
    target.id = subscriptionId env config target.url := by
  unfold identity at known
  cases members : checkMembers params with
  | error error =>
    rw [members] at known
    cases known
  | ok checked =>
    rw [members] at known
    change (if _ then throw _ else _) = Except.ok target at known
    split at known
    · cases known
    · cases url : webhookUrl env params with
      | error error =>
        rw [url] at known
        cases known
      | ok address =>
        rw [url] at known
        cases known
        rfl

/-- The ids are the same when the hash does not confuse the two configurations. -/
theorem subscriptionId_alike (alike : first.Alike second) (url : String)
    (apart : env.digest (env.toVec (identityKey second url)) =
      env.digest (env.toVec (identityKey first url)) →
      identityKey second url = identityKey first url) :
    subscriptionId env second url = subscriptionId env first url ↔
      second.ownerProofUntil = first.ownerProofUntil := by
  rw [← toValue_alike alike]
  constructor
  · intro same
    have keys := apart (String.append_right_inj _ |>.mp same)
    rw [identityKey, identityKey, Value.array.injEq, List.cons.injEq] at keys
    exact keys.1
  · intro same
    rw [subscriptionId, subscriptionId, same]

/-! ### Refreshing and unsubscribing -/

/-- A `subscribe` gets through the check of the state, and stores the subscription under the id
that it has. -/
def Refreshes (value : EventState) (subscription : Subscription) (call : SubscribeCall)
    (now : Nat) : Prop :=
  value.currentSubscription call.target.id now = .ok (some subscription) ∧
    (call.refreshed (some subscription) now).id = subscription.id

theorem refreshes_iff {value : EventState} {subscription : Subscription} {call : SubscribeCall}
    {now : Nat} (held : value.subscription = some subscription)
    (live : value.sourceRevoked = false) :
    Refreshes value subscription call now ↔ call.target.id = subscription.id := by
  rw [Refreshes]
  constructor
  · rintro ⟨_, same⟩
    exact same
  · intro same
    refine ⟨?_, same⟩
    rw [EventState.currentSubscription, live, held, same]
    simp

theorem unsubscribe_removes {cell : Cell EventState} {subscription : Subscription} {id : String}
    (held : cell.value.subscription = some subscription) (working : cell.degraded = false)
    (fits : (file codec).fits cell.value.cleared = true) :
    (unsubscribe codec cell id .saved).2.value.subscription = none ↔ id = subscription.id := by
  unfold unsubscribe
  rw [held, Option.any_some]
  constructor
  · intro gone
    split at gone
    · rename_i own
      exact (of_decide_eq_true own).symm
    · cases held.symm.trans gone
  · intro own
    rw [if_pos (decide_eq_true own.symm), Cell.commit, working, fits]
    rfl

/-- A subscription made under one configuration, and the same state opened under another window:
it is refreshed, and unsubscribing removes it, exactly when the windows are the same. -/
theorem recognised_iff (alike : first.Alike second) {params renewed : Value}
    {made target : Target} {cell : Cell EventState} {subscription : Subscription}
    (known : identity env first params = .ok made)
    (held : cell.value.subscription = some subscription) (own : subscription.id = made.id)
    (live : cell.value.sourceRevoked = false) (working : cell.degraded = false)
    (fits : (file codec).fits cell.value.cleared = true)
    (again : identity env second renewed = .ok target) (address : target.url = made.url)
    (apart : env.digest (env.toVec (identityKey second made.url)) =
      env.digest (env.toVec (identityKey first made.url)) →
      identityKey second made.url = identityKey first made.url)
    (secret : String) (ttl now : Nat) :
    stateKey env second = stateKey env first ∧
    (Refreshes cell.value subscription ⟨target, secret, ttl⟩ now ↔
      second.ownerProofUntil = first.ownerProofUntil) ∧
    ((unsubscribe codec cell target.id .saved).2.value.subscription = none ↔
      second.ownerProofUntil = first.ownerProofUntil) := by
  have same : target.id = subscription.id ↔
      second.ownerProofUntil = first.ownerProofUntil := by
    rw [identity_target again, address, own, identity_target known]
    exact subscriptionId_alike alike made.url apart
  refine ⟨stateKey_alike alike, ?_, ?_⟩
  · rw [refreshes_iff held live]
    exact same
  · rw [unsubscribe_removes held working fits]
    exact same

/-! ### Fixed inputs -/

/-- `sampleConfig` with a window. -/
def provingConfig : SlackEventsConfig := { sampleConfig with ownerProofUntil := some 1000 }

/-- What is hashed for the id of a subscription with the window. -/
def provingKey : List UInt8 :=
  asciiBytes ("[\x7b\"app_id\":\"A1\",\"dot_user_id\":\"U2\",\"owner_proof_until\":1000," ++
    "\"owner_user_id\":\"U1\",\"subscriber_client_id\":\"ann\",\"team_id\":\"T1\"\x7d," ++
    "\"slack.ditto_message\",\"https://a.example/\"," ++
    "\x7b\"scope\":\"accessible_public_channels\"\x7d]")

def provingDigest : String := "f10b1e8b1d8e7bf1cba0b80f5d25e5d7ed1002a77079b61f19ea1ba6a1f39575"

/-- The hashes are those that SHA-256 gives with and without the window. -/
def provingEnvironment : Environment :=
  { Environment.sample sampleDigest with
    toVec := fun value =>
      match value with
      | .array [.object [_, _, _, _, _, _], _, _, _] => provingKey
      | _ => (Environment.sample sampleDigest).toVec value
    digest := fun bytes => if bytes = provingKey then provingDigest else sampleDigest bytes }

/-- The state with a subscription of `sampleConfig`. -/
def subscribedState : EventState :=
  { EventState.default with
    subscription := some
      { id := "sub_" ++ sampleDigest []
        url := "https://a.example/"
        secret := sampleSecret 'A'
        oldSecret := none
        oldSecretUntil := 300
        expires := 600
        verifiedUntil := 300 } }

theorem recognised_iff_sample :
    stateKey provingEnvironment provingConfig = stateKey provingEnvironment sampleConfig ∧
    (unsubscribe (.ofSerial EventState.serial) (.new subscribedState)
      ("sub_" ++ provingDigest) .saved).2.value.subscription ≠ none := by
  have both := @recognised_iff provingEnvironment (.ofSerial EventState.serial) sampleConfig
    provingConfig rfl (sampleParams 'A' 600000) (sampleParams 'A' 600000)
    ⟨"sub_" ++ sampleDigest [], "https://a.example/"⟩
    ⟨"sub_" ++ provingDigest, "https://a.example/"⟩ (.new subscribedState) _
    (by decide +kernel) rfl rfl rfl rfl (by decide +kernel) (by decide +kernel) rfl
    (fun same => absurd same (by decide +kernel)) (sampleSecret 'A') 600000 1
  refine ⟨both.1, ?_⟩
  intro gone
  cases both.2.2.mp gone

/-- The same state is opened with a window, and the client subscribes again, or unsubscribes. -/
theorem proof_window_loses_subscription :
    (∃ final, exec (step provingEnvironment (.ofSerial EventState.serial))
      (.new sampleConfig "secret") (sampleSubscribe 'A' 600000 0 ++
        [.reopen provingConfig "secret", .unsubscribe (sampleParams 'A' 600000) .saved]) =
        some final ∧ final.cell.value.subscription.isSome = true) ∧
    ∃ final, exec (step provingEnvironment (.ofSerial EventState.serial))
      (.new sampleConfig "secret") (sampleSubscribe 'A' 600000 0 ++
        [.reopen provingConfig "secret", .subscribe (sampleParams 'A' 600000), .enter 0 true,
          .checkGrant .allowed 1]) = some final ∧ final.refreshing.isNone = true := by
  have kept : (exec (step provingEnvironment (.ofSerial EventState.serial))
      (.new sampleConfig "secret") (sampleSubscribe 'A' 600000 0 ++
        [.reopen provingConfig "secret", .unsubscribe (sampleParams 'A' 600000) .saved])).any
      (fun final => final.cell.value.subscription.isSome) = true := by
    decide +kernel
  have refused : (exec (step provingEnvironment (.ofSerial EventState.serial))
      (.new sampleConfig "secret") (sampleSubscribe 'A' 600000 0 ++
        [.reopen provingConfig "secret", .subscribe (sampleParams 'A' 600000), .enter 0 true,
          .checkGrant .allowed 1])).any (fun final => final.refreshing.isNone) = true := by
    decide +kernel
  obtain ⟨first, ran, subscribed⟩ := (Option.any_eq_true _ _).mp kept
  obtain ⟨second, ranAgain, none⟩ := (Option.any_eq_true _ _).mp refused
  exact ⟨⟨first, ran, subscribed⟩, second, ranAgain, none⟩

end Plug.Slack
