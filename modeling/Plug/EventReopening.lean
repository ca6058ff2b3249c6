import Plug.SlackInvariants
import Plug.WatchInvariants

/-!
# Opening a component again

Every state that a component writes is one that it accepts when it is opened, as long as two
things do not happen. A watch subscription is stored only when there is room for it in the file,
where those that have expired still are; `subscribe` counts the live ones alone. A Slack event
is not queued again while it is still queued; it is when it stays queued for longer than seven
days, and its attempts are then counted at the wrong item.
-/

namespace Plug

open Events Durable Runs

/-! ### Watch events -/

namespace Watch

variable {env : Environment} {codec : Codec WatchState} {trace : List Act} {final : System}

theorem Limits.accepted {value : WatchState} (limits : Limits value) :
    value.accepted = true :=
  decide_eq_true ⟨limits.version, limits.queue, limits.subscriptions⟩

theorem run_limits (faithful : codec.Faithful)
    (admitted : Admitted (step env codec) Room .new trace)
    (ran : exec (step env codec) .new trace = some final) :
    Kept (file codec) Limits final.cell := by
  apply exec_invariant (step env codec) Room (fun state => Kept (file codec) Limits state.cell)
    ?_ trace .new final ?_ admitted ran
  · intro state act next room kept stepped
    exact step_kept faithful .initial kept (fun _ => id)
      (fun value written => kept.value.written room written) stepped
  · exact .new .initial

theorem run_reopens (faithful : codec.Faithful)
    (admitted : Admitted (step env codec) Room .new trace)
    (ran : exec (step env codec) .new trace = some final) :
    (final.cell.reopen (file codec) .default).isSome = true :=
  (run_limits faithful admitted ran).reopens fun _ limits => faithful.decodes limits.accepted

end Watch

/-! ### Slack events -/

namespace Slack

variable {env : Environment} {codec : Codec EventState} {config : SlackEventsConfig}
  {sourceSecret : String} {trace : List Act} {final : System}

/-- What `open` accepts, and that each event is queued once. -/
def Sound (value : EventState) : Prop :=
  Limits value ∧ Attempts.Sound maxAttempts (jobs value)

theorem Sound.initial : Sound .default := ⟨.initial, .nil⟩

theorem Sound.accepted {value : EventState} (sound : Sound value) : value.accepted = true := by
  obtain ⟨limits, counted⟩ := sound
  rw [EventState.accepted, Bool.and_eq_true, decide_eq_true_eq, List.all_eq_true]
  refine ⟨⟨limits.version, limits.queue, limits.seen, limits.threads⟩, ?_⟩
  intro pending member
  obtain ⟨valid, small⟩ := limits.items pending member
  have room := counted.room _ (mem_jobs member)
  rw [Pending.accepted, valid, Bool.true_and, decide_eq_true_eq]
  exact ⟨small, room⟩

theorem run_sound (faithful : codec.Faithful)
    (admitted : Admitted (step env codec) Remembers (.new config sourceSecret) trace)
    (ran : exec (step env codec) (.new config sourceSecret) trace = some final) :
    Gated final ∧ Kept (file codec) Sound final.cell := by
  apply exec_invariant (step env codec) Remembers
    (fun state => Gated state ∧ Kept (file codec) Sound state.cell)
    ?_ trace (.new config sourceSecret) final ?_ admitted ran
  · rintro state act next remembers ⟨gated, kept⟩ stepped
    refine ⟨step_gated gated stepped, step_kept faithful .initial kept ?_ stepped⟩
    intro value written
    exact ⟨kept.value.1.written written, sound_written kept.value.2 gated remembers written⟩
  · exact ⟨.new config sourceSecret, .new .initial⟩

theorem run_reopens (faithful : codec.Faithful)
    (admitted : Admitted (step env codec) Remembers (.new config sourceSecret) trace)
    (ran : exec (step env codec) (.new config sourceSecret) trace = some final) :
    (final.cell.reopen (file codec) .default).isSome = true :=
  (run_sound faithful admitted ran).2.reopens fun _ sound => faithful.decodes sound.accepted

end Slack

/-! ### Both -/

/-- Every state that the watch events and the Slack events come to can be opened again, in runs
in which a watch subscription is stored when there is room for it in the file, and no Slack event
that was forgotten is taken in again while it is queued. -/
theorem committed_states_reopen (env : Environment) (watchCodec : Codec Watch.WatchState)
    (slackCodec : Codec Slack.EventState) (watchFaithful : watchCodec.Faithful)
    (slackFaithful : slackCodec.Faithful) :
    (∀ trace final, Admitted (Watch.step env watchCodec) Watch.Room .new trace →
      exec (Watch.step env watchCodec) .new trace = some final →
      (final.cell.reopen (Watch.file watchCodec) .default).isSome = true) ∧
    ∀ config sourceSecret trace final,
      Admitted (Slack.step env slackCodec) Slack.Remembers (.new config sourceSecret) trace →
      exec (Slack.step env slackCodec) (.new config sourceSecret) trace = some final →
      (final.cell.reopen (Slack.file slackCodec) .default).isSome = true := by
  constructor
  · intro trace final admitted ran
    exact Watch.run_reopens watchFaithful admitted ran
  · intro config sourceSecret trace final admitted ran
    exact Slack.run_reopens slackFaithful admitted ran

theorem committed_states_reopen_sample :
    (∃ final, exec (Watch.step (.sample Watch.sampleDigest) (.ofSerial Watch.WatchState.serial))
        .new (Watch.sampleSubscribe "https://a.example/" 'A' 60000 0) = some final ∧
      (final.cell.reopen (Watch.file (.ofSerial Watch.WatchState.serial)) .default).isSome) ∧
    ∃ final, exec (Slack.step (.sample Slack.sampleDigest) (.ofSerial Slack.EventState.serial))
        (.new Slack.sampleConfig "secret") (Slack.sampleSubscribe 'A' 60000 0) = some final ∧
      (final.cell.reopen (Slack.file (.ofSerial Slack.EventState.serial)) .default).isSome := by
  constructor
  · have watch := (committed_states_reopen (.sample Watch.sampleDigest) _ _
      (Codec.ofSerial_faithful Watch.WatchState.serial)
      (Codec.ofSerial_faithful Slack.EventState.serial)).1
    have completes : (exec (Watch.step (.sample Watch.sampleDigest)
        (.ofSerial Watch.WatchState.serial)) .new
        (Watch.sampleSubscribe "https://a.example/" 'A' 60000 0)).isSome = true := by
      decide +kernel
    obtain ⟨final, ran⟩ := Option.isSome_iff_exists.mp completes
    exact ⟨final, ran, watch _ final (by decide +kernel) ran⟩
  · have slack := (committed_states_reopen (.sample Slack.sampleDigest) _ _
      (Codec.ofSerial_faithful Watch.WatchState.serial)
      (Codec.ofSerial_faithful Slack.EventState.serial)).2
    have completes : (exec (Slack.step (.sample Slack.sampleDigest)
        (.ofSerial Slack.EventState.serial)) (.new Slack.sampleConfig "secret")
        (Slack.sampleSubscribe 'A' 60000 0)).isSome = true := by
      decide +kernel
    obtain ⟨final, ran⟩ := Option.isSome_iff_exists.mp completes
    exact ⟨final, ran, slack _ _ _ final (by decide +kernel) ran⟩

namespace Watch

/-! Thirty-two subscriptions for one second, and another one when they have expired. -/

/-- The requests of the run differ in length, and so do their digests. -/
def lengthDigest (bytes : List UInt8) : String :=
  String.singleton (Char.ofNat bytes.length)

abbrev sampleEnvironment : Environment := .sample lengthDigest

abbrev sampleCodec : Codec WatchState := .ofSerial WatchState.serial

/-- What `sampleSubscribe` stores for an address at a time. -/
def sampleStored (entry : String × Nat) : Subscription where
  id := subscriptionId sampleEnvironment "ann" "shop.orders" entry.1
  clientId := "ann"
  event := "shop.orders"
  url := entry.1
  secret := sampleSecret 'A'
  oldSecret := none
  oldSecretUntil := entry.2 + 300
  expires := entry.2 + 1
  verifiedUntil := entry.2 + 300

def stocked (entries : List (String × Nat)) : WatchState :=
  { WatchState.default with subscriptions := entries.map sampleStored }

/-- Nothing is under way, and the subscriptions are in memory and in the file. -/
structure Stocked (entries : List (String × Nat)) (state : System) : Prop where
  value : state.cell.value = stocked entries
  file : entries = [] ∨ state.cell.file = some (sampleCodec.toVec (stocked entries))
  working : state.cell.degraded = false
  waiting : state.waiting = []
  refreshing : state.refreshing = none
  delivering : state.delivering = none

/-- What the checks of `sampleSubscribe` give. -/
def sampleCall (url : String) : SubscribeCall where
  clientId := "ann"
  target := ⟨subscriptionId sampleEnvironment "ann" "shop.orders" url, "shop.orders", url⟩
  secret := sampleSecret 'A'
  ttl := 1000

theorem sample_key : signingKey sampleEnvironment (sampleSecret 'A') =
    .ok (List.replicate 24 0) := by
  decide +kernel

theorem sample_call (url : String) : subscribe sampleEnvironment false [sampleWatch] "ann"
    (sampleParams url 'A' 1000) = .ok (sampleCall url) := by
  have terms : requestedTerms sampleEnvironment (sampleParams url 'A' 1000) =
      .ok (sampleSecret 'A', 1000) := by
    have secret : (((sampleParams url 'A' 1000).get "delivery").get "secret").asStr =
        some (sampleSecret 'A') := rfl
    have ttl : (sampleParams url 'A' 1000).member? "ttlMs" = some (.number 1000) := rfl
    have cursor : (sampleParams url 'A' 1000).member? "cursor" = none := rfl
    simp only [requestedTerms, secret, ttl, cursor, sample_key]
    rfl
  have known : identity sampleEnvironment [sampleWatch] "ann" (sampleParams url 'A' 1000) =
      .ok (sampleCall url).target := rfl
  rw [subscribe, known, terms]
  rfl

theorem sample_headers (url : String) (now : Nat) :
    (challengeHeaders sampleEnvironment (sampleCall url).target.id "v" (sampleCall url).secret
      "c" now).toOption.isSome = true := by
  rw [challengeHeaders, signedHeaders]
  change (signingKey sampleEnvironment (sampleSecret 'A') >>= _).toOption.isSome = true
  rw [sample_key]
  rfl

theorem stock {entries : List (String × Nat)} {state : System} (ready : Stocked entries state)
    (url : String) (now : Nat)
    (apart : ∀ entry ∈ entries, (sampleStored entry).id ≠ (sampleStored (url, now)).id)
    (room : (entries.filter fun entry => now < entry.2 + 1).length < maxSubscriptions)
    (fits : (file sampleCodec).fits (stocked (entries ++ [(url, now)])) = true) :
    ∃ next, exec (step sampleEnvironment sampleCodec) state (sampleSubscribe url 'A' 1000 now) =
      some next ∧ Stocked (entries ++ [(url, now)]) next := by
  obtain ⟨⟨value, file, degraded⟩, waiting, refreshing, delivering, stopped, issued, log⟩ := state
  obtain ⟨rfl, _, rfl, rfl, rfl, rfl⟩ := ready
  have absent : (stocked entries).subscription? (sampleCall url).target.id = none := by
    refine List.find?_eq_none.mpr ?_
    intro subscription member
    obtain ⟨entry, present, rfl⟩ := List.mem_map.mp member
    have differs := apart entry present
    rw [sampleStored] at differs
    rw [decide_eq_true_eq]
    exact differs
  have admitted : (stocked entries).currentSubscription (sampleCall url).target.id now true = .ok none := by
    have live : ((stocked entries).subscriptions.filter fun subscription =>
        decide (subscription.id ≠ (sampleCall url).target.id ∧
          now < subscription.expires)).length < maxSubscriptions := by
      refine Nat.lt_of_le_of_lt ?_ room
      rw [stocked, List.filter_map, List.length_map]
      apply List.Sublist.length_le
      apply List.monotone_filter_right
      intro entry meets
      rw [Function.comp_apply, decide_eq_true_eq] at meets
      rw [decide_eq_true_eq]
      exact meets.2
    rw [WatchState.currentSubscription, if_pos rfl, if_neg (Nat.not_le_of_lt live), absent]
  have written : (sampleCall url).stored none now (stocked entries) =
      stocked (entries ++ [(url, now)]) := by
    have others : ((stocked entries).subscriptions.filter fun subscription =>
        decide (subscription.id ≠ (sampleCall url).target.id)) =
          (stocked entries).subscriptions := by
      refine List.filter_eq_self.mpr ?_
      intro subscription member
      obtain ⟨entry, present, rfl⟩ := List.mem_map.mp member
      exact decide_eq_true (apart entry present)
    have refreshed : (sampleCall url).refreshed none now = sampleStored (url, now) := by
      simp [SubscribeCall.refreshed, sampleStored, sampleCall]
    rw [SubscribeCall.stored, others, refreshed, stocked, stocked, List.map_append]
    simp only [Option.any_none, Bool.false_eq_true, if_false]
    rfl
  have echoed : challengeMet sampleEnvironment "c" sampleEcho = .ok () := by
    decide +kernel
  obtain ⟨headers, signed⟩ := Option.isSome_iff_exists.mp (sample_headers url now)
  cases shown : challengeHeaders sampleEnvironment (sampleCall url).target.id "v"
      (sampleCall url).secret "c" now with
  | error error =>
    rw [shown] at signed
    cases signed
  | ok headers =>
    simp only [sampleSubscribe, exec, step, sample_call, System.gateFree, admitted, shown, echoed,
      written, Cell.commit, fits, Option.bind_some, List.nil_append, List.getElem?_cons_zero,
      Option.isNone_none, Bool.and_self, if_true, Option.any_none, Bool.false_eq_true, if_false,
      Bool.not_true, List.eraseIdx_cons_zero, System.note]
    refine ⟨_, rfl, ?_⟩
    exact ⟨rfl, Or.inr rfl, rfl, rfl, rfl, rfl⟩

/-- A few short subscriptions fit in the file. -/
theorem stocked_fits {entries : List (String × Nat)} (few : entries.length ≤ 33)
    (short : ∀ entry ∈ entries,
      (Subscription.serial.encode (sampleStored entry)).length ≤ 1000) :
    (file sampleCodec).fits (stocked entries) = true := by
  have stored := Serial.length_list_le Subscription.serial (entries.map sampleStored) 1000 (by
    intro subscription member
    obtain ⟨entry, present, rfl⟩ := List.mem_map.mp member
    exact short entry present)
  rw [List.length_map] at stored
  have whole : (WatchState.serial.encode (stocked entries)).length =
      1 + (Subscription.serial.list.encode (entries.map sampleStored)).length + 2 := by
    change ([1] ++ (Subscription.serial.list.encode (entries.map sampleStored) ++
      ([0] ++ [0]))).length = _
    rw [List.length_append, List.length_append]
    rfl
  refine decide_eq_true ?_
  change (WatchState.serial.encode (stocked entries)).length ≤ 8388608
  rw [whole]
  omega

/-- Subscriptions that are stored one after the other, while there is room. -/
theorem stock_all {entries : List (String × Nat)} {state : System}
    (ready : Stocked entries state) (rest : List (String × Nat))
    (distinct : ((entries ++ rest).map fun entry => (sampleStored entry).id).Nodup)
    (room : (entries ++ rest).length ≤ maxSubscriptions)
    (short : ∀ entry ∈ entries ++ rest,
      (Subscription.serial.encode (sampleStored entry)).length ≤ 1000) :
    ∃ final, exec (step sampleEnvironment sampleCodec) state
      (rest.flatMap fun entry => sampleSubscribe entry.1 'A' 1000 entry.2) = some final ∧
      Stocked (entries ++ rest) final := by
  induction rest generalizing entries state with
  | nil => exact ⟨state, rfl, (List.append_nil entries).symm ▸ ready⟩
  | cons entry rest ih =>
    have regrouped : entries ++ entry :: rest = entries ++ [entry] ++ rest := by
      rw [List.append_assoc, List.singleton_append]
    rw [regrouped] at distinct room short ⊢
    have apart : ∀ other ∈ entries, (sampleStored other).id ≠ (sampleStored entry).id := by
      intro other member
      rw [List.map_append, List.map_append, List.nodup_append] at distinct
      have first := (List.nodup_append.mp distinct.1).2.2
      exact first _ (List.mem_map_of_mem member) _ (List.mem_singleton_self _)
    have fewer : entries.length + 1 ≤ maxSubscriptions := by
      rw [List.length_append, List.length_append] at room
      exact Nat.le_trans (Nat.le_add_right _ _) room
    have live : (entries.filter fun other => entry.2 < other.2 + 1).length < maxSubscriptions :=
      Nat.lt_of_le_of_lt (List.length_filter_le _ _) fewer
    have fits : (file sampleCodec).fits (stocked (entries ++ [(entry.1, entry.2)])) = true := by
      apply stocked_fits
      · rw [List.length_append]
        exact Nat.le_trans fewer (by decide)
      · intro other member
        exact short other (List.mem_append_left rest member)
    obtain ⟨next, stepped, stocked⟩ := stock ready entry.1 entry.2 apart live fits
    obtain ⟨final, ran, whole⟩ := ih stocked distinct room short
    refine ⟨final, ?_, whole⟩
    rw [List.flatMap_cons, Histories.exec_append, stepped]
    exact ran

/-- Thirty-two addresses. -/
def sampleAddresses : List (String × Nat) :=
  (List.range 32).map fun index => ("https://aa" ++ String.ofList (List.replicate index 'a'), 0)

def sampleOverflow : List Act :=
  sampleAddresses.flatMap (fun entry => sampleSubscribe entry.1 'A' 1000 entry.2) ++
    sampleSubscribe "https://b" 'A' 1000 2

theorem expired_subscriptions_overflow : ∃ final,
    exec (step sampleEnvironment sampleCodec) .new sampleOverflow = some final ∧
    sampleCodec.Faithful ∧ final.cell.reopen (file sampleCodec) .default = none := by
  have distinct : ((sampleAddresses ++ [("https://b", 2)]).map fun entry =>
      (sampleStored entry).id).Nodup := by
    decide +kernel
  have short : ∀ entry ∈ sampleAddresses ++ [("https://b", 2)],
      (Subscription.serial.encode (sampleStored entry)).length ≤ 1000 := by
    decide +kernel
  have expired : (sampleAddresses.filter fun entry => 2 < entry.2 + 1) = [] := by
    decide +kernel
  rw [List.map_append, List.nodup_append] at distinct
  have none : Stocked [] .new := ⟨rfl, Or.inl rfl, rfl, rfl, rfl, rfl⟩
  obtain ⟨middle, first, full⟩ := stock_all none sampleAddresses distinct.1 (by decide)
    (fun entry member => short entry (List.mem_append_left _ member))
  obtain ⟨final, last, overfull⟩ := stock full "https://b" 2
    (fun entry member => distinct.2.2 _ (List.mem_map_of_mem member) _
      (List.mem_singleton_self _))
    (by rw [List.nil_append, expired]; decide) (stocked_fits (by decide) short)
  refine ⟨final, ?_, Codec.ofSerial_faithful _, ?_⟩
  · rw [sampleOverflow, Histories.exec_append, first]
    exact last
  · have written := overfull.file.resolve_left (by simp)
    have full : (stocked (sampleAddresses ++ [("https://b", 2)])).accepted = false := by
      decide +kernel
    have refused := (Codec.ofSerial_faithful WatchState.serial).refuses full
    exact reopen_refused written refused

end Watch

end Plug
