import Plug.Histories
import Plug.SlackEvents

/-!
# What a step of the Slack events can do

One inversion of the step function, from which every invariant follows by cases, and one of the
events that a step notes.
-/

namespace Plug.Slack

open JsonValues Events Durable

variable {env : Environment} {codec : Codec EventState} {state next : System} {act : Act}

def Delivery.subscription : Delivery → Subscription
  | .taken subscription _ _ => subscription
  | .permitted subscription _ _ => subscription
  | .posting subscription _ => subscription

def Delivery.pending : Delivery → Pending
  | .taken _ pending _ => pending
  | .permitted _ pending _ => pending
  | .posting _ pending => pending

/-- The subscription that a `subscribe` has read. -/
def Stage.current? : Stage → Option (Option Subscription)
  | .entered => none
  | .unverified current => some current
  | .challenged current _ => some current
  | .verified current => some current

/-! ### Callbacks -/

/-- What `ingest` makes of a state, with the event remembered. -/
inductive Ingestion (config : SlackEventsConfig) (envelope : Value) (timestamp : Nat)
    (state : EventState) : EventState → Prop where
  | revoked (eventId : String) (own : isRevocation config envelope = true) :
      Ingestion config envelope timestamp state { state.cleared with
        seen := [(eventId, timestamp)]
        sourceRevoked := true }
  | noticed (eventId : String) (threads : List (String × Nat))
      (other : isRevocation config envelope = false)
      (known : eventIdOf envelope = some eventId)
      (fresh : Tables.containsKey (remembered state.seen timestamp) eventId = false)
      (room : (remembered state.seen timestamp).length < maxSeen)
      (bounded : state.threads.length ≤ maxSeen → threads.length ≤ maxSeen) :
      Ingestion config envelope timestamp state { state with
        seen := Tables.insert (remembered state.seen timestamp) eventId timestamp
        threads := threads }
  | passed (eventId channel : String) (body : List UInt8) (threads : List (String × Nat))
      (other : isRevocation config envelope = false)
      (known : eventIdOf envelope = some eventId)
      (fresh : Tables.containsKey (remembered state.seen timestamp) eventId = false)
      (room : (remembered state.seen timestamp).length < maxSeen)
      (bounded : state.threads.length ≤ maxSeen → threads.length ≤ maxSeen)
      (live : state.sourceRevoked = false) (space : state.queue.length < maxQueue)
      (valid : validPublicChannel channel = true) (small : body.length ≤ maxBody) :
      Ingestion config envelope timestamp state { state with
        seen := Tables.insert (remembered state.seen timestamp) eventId timestamp
        threads := threads
        queue := state.queue ++ [⟨eventId, channel, body, 0, timestamp⟩] }

variable {value taken : EventState} {timestamp : Nat} {config : SlackEventsConfig}

/-- Following a thread needs room for it. -/
theorem crowded_insert {key : String} (free : value.crowded key = false)
    (bounded : value.threads.length ≤ maxSeen) :
    (Tables.insert value.threads key timestamp).length ≤ maxSeen := by
  apply Tables.length_insert_le bounded
  cases found : Tables.containsKey value.threads key with
  | true => exact Or.inr rfl
  | false =>
    rw [EventState.crowded, found] at free
    refine Or.inl (Nat.lt_of_not_le ?_)
    simpa using free

/-- What a callback that revokes nothing makes of the state, before it is remembered. -/
inductive Taking (eventId : String) (timestamp : Nat) (state : EventState) :
    EventState → Prop where
  | noticed (threads : List (String × Nat))
      (bounded : state.threads.length ≤ maxSeen → threads.length ≤ maxSeen) :
      Taking eventId timestamp state { state with threads := threads }
  | passed (channel : String) (body : List UInt8) (threads : List (String × Nat))
      (bounded : state.threads.length ≤ maxSeen → threads.length ≤ maxSeen)
      (live : state.sourceRevoked = false) (space : state.queue.length < maxQueue)
      (valid : validPublicChannel channel = true) (small : body.length ≤ maxBody) :
      Taking eventId timestamp state { state with
        threads := threads
        queue := state.queue ++ [⟨eventId, channel, body, 0, timestamp⟩] }

theorem follow_taking {event : Value} {channel eventId : String}
    (followed : value.follow event channel timestamp = .ok taken) :
    Taking eventId timestamp value taken := by
  unfold EventState.follow at followed
  split at followed
  · cases followed
    exact .noticed value.threads id
  · split at followed
    · cases followed
    · rename_i free
      cases followed
      exact .noticed _ (crowded_insert (by simpa using free))

theorem channel_live {event : Value} {channel : String}
    (found : value.channel? event timestamp = some channel) :
    value.sourceRevoked = false ∧ validPublicChannel channel = true := by
  unfold EventState.channel? at found
  split at found
  · rename_i meets
    simp only [Bool.and_eq_true, Bool.not_eq_true'] at meets
    exact ⟨meets.1.1.1, (Option.filter_eq_some_iff.mp found).2⟩
  · cases found

theorem pass_taking {message : Message} {channel eventId : String}
    (live : value.sourceRevoked = false) (valid : validPublicChannel channel = true)
    (passed : value.pass env config eventId channel message timestamp = .ok taken) :
    Taking eventId timestamp value taken := by
  unfold EventState.pass at passed
  dsimp only at passed
  split at passed
  · cases passed
    exact .noticed value.threads id
  · split at passed
    · cases passed
    · rename_i free
      rw [Bool.or_eq_true, not_or, Bool.not_eq_true, Bool.not_eq_true, decide_eq_false_iff_not]
        at free
      split at passed
      · cases passed
      · rename_i occurrence _
        cases shown : isoTime env occurrence with
        | error error =>
          rw [shown] at passed
          cases passed
        | ok time =>
          rw [shown] at passed
          change (if maxBody < (eventBody env config eventId channel time message).length then
            throw (invalid "event payload exceeds size limit") else _) = Except.ok taken at passed
          split at passed
          · cases passed
          · rename_i small
            cases passed
            refine .passed channel _ _ ?_ live (Nat.lt_of_not_le free.1) valid
              (Nat.le_of_not_lt small)
            intro bounded
            split
            · exact bounded
            · exact crowded_insert free.2 bounded

theorem take_taking {event : Value} {eventId : String}
    (takes : value.take env config eventId event timestamp = .ok taken) :
    Taking eventId timestamp value taken := by
  have unchanged (same : Except.ok value = (.ok taken : Except EventError EventState)) :
      Taking eventId timestamp value taken := by
    cases same
    exact .noticed value.threads id
  unfold EventState.take at takes
  split at takes
  · exact unchanged takes
  · rename_i channel found
    split at takes
    · exact follow_taking takes
    · split at takes
      · obtain ⟨live, valid⟩ := channel_live found
        exact pass_taking live valid takes
      · exact unchanged takes

theorem ingested_ingestion {envelope : Value}
    (takes : value.ingested env config envelope timestamp = .ok (some taken)) :
    Ingestion config envelope timestamp value taken := by
  unfold EventState.ingested at takes
  dsimp only at takes
  split at takes
  · cases takes
  · split at takes
    · cases takes
    · rename_i eventId known
      split at takes
      · cases takes
      · rename_i unseen
        have fresh : Tables.containsKey (remembered value.seen timestamp) eventId = false :=
          eq_false_of_ne_true unseen
        split at takes
        · rename_i own
          cases takes
          exact .revoked eventId own
        · rename_i other
          split at takes
          · cases takes
          · rename_i full
            have room := Nat.lt_of_not_le full
            split at takes
            · cases takes
            · rename_i next taking
              split at takes
              · cases takes
              · cases takes
                have shorter : value.threads.length ≤ maxSeen →
                    (remembered value.threads timestamp).length ≤ maxSeen :=
                  Nat.le_trans (List.length_filter_le _ _)
                cases take_taking taking with
                | noticed threads bounded =>
                  exact .noticed eventId threads (by simpa using other) known fresh room
                    (bounded ∘ shorter)
                | passed channel body threads bounded live space valid small =>
                  exact .passed eventId channel body threads (by simpa using other) known fresh
                    room (bounded ∘ shorter) live space valid small

/-! ### Steps -/

/-- What the delivery worker writes when it makes no attempt. -/
inductive Discard (state : System) : EventState → Prop where
  | cleared : Discard state state.cell.value.cleared
  | withdrawn (channel : String) : Discard state (state.cell.value.withdrawn channel)
  | postponed (subscription : Subscription) (pending : Pending) (timestamp : Nat)
      (held : state.delivering = some (.taken subscription pending timestamp)) :
      Discard state (state.cell.value.postponed pending timestamp)

/-- What `step` does, one constructor for each outcome. -/
inductive Effect (env : Environment) (codec : Codec EventState) (state next : System)
    (act : Act) : Prop where
  | waits (waiting : List SubscribeCall) (received : List Value)
      (same : next = { state with
        waiting := waiting
        received := received })
  | entered (call : SubscribeCall) (waiting : List SubscribeCall) (refreshing : Option Refreshing)
      (free : state.gateFree = true)
      (fresh : ∀ held, refreshing = some held → held = ⟨call, .entered⟩ ∧
        state.cell.degraded = false)
      (same : next = { state with
        waiting := waiting
        refreshing := refreshing }.note (.entered call.target.id call.secret))
  | admitted (call : SubscribeCall) (stage : Stage)
      (held : state.refreshing = some ⟨call, .entered⟩)
      (live : state.cell.value.sourceRevoked = false)
      (reads : stage.current? = some state.cell.value.subscription)
      (same : next = { state with refreshing := some ⟨call, stage⟩ })
  | challenged (call : SubscribeCall) (current : Option Subscription) (challenge : String)
      (asked : ∃ verification now, act = .challenge challenge verification now)
      (held : state.refreshing = some ⟨call, .unverified current⟩)
      (same : next = { state with
        refreshing := some ⟨call, .challenged current challenge⟩ }.note
        (.verifying call.target.id state.cell.degraded))
  | echoed (call : SubscribeCall) (current : Option Subscription) (challenge : String)
      (held : state.refreshing = some ⟨call, .challenged current challenge⟩)
      (same : next = { state with refreshing := some ⟨call, .verified current⟩ })
  | stored (call : SubscribeCall) (current : Option Subscription) (now : Nat) (saving : Saving)
      (asked : ∃ enabled access, act = .store enabled access now saving)
      (held : state.refreshing = some ⟨call, .verified current⟩)
      (live : state.cell.value.sourceRevoked = false)
      (done : (state.cell.commit (file codec)
        (call.stored current now state.cell.value) saving).2 = true)
      (same : next = { state with
        refreshing := none
        cell := (state.cell.commit (file codec)
          (call.stored current now state.cell.value) saving).1 }.note
        (.stored call.target.id call.secret
          (state.cell.value.subscription.map Subscription.secret) now))
  | unstored (call : SubscribeCall) (current : Option Subscription) (now : Nat)
      (saving : Saving) (asked : ∃ enabled access, act = .store enabled access now saving)
      (held : state.refreshing = some ⟨call, .verified current⟩)
      (live : state.cell.value.sourceRevoked = false)
      (same : next = { state with
        refreshing := none
        cell := (state.cell.commit (file codec)
          (call.stored current now state.cell.value) saving).1 })
  | abandoned (same : next = { state with refreshing := none })
  | cleared (saving : Saving) (free : state.gateFree = true)
      (same : next = { state with
        cell := (state.cell.commit (file codec) state.cell.value.cleared saving).1 })
  | ingested (index : Nat) (envelope : Value) (timestamp : Nat) (value : EventState)
      (saving : Saving) (asked : act = .ingest index timestamp saving)
      (found : state.received[index]? = some envelope)
      (free : isRevocation state.config envelope = true → state.gateFree = true)
      (takes : state.cell.value.ingested env state.config envelope timestamp = .ok (some value))
      (reaches : state.cell.reaches (file codec) value saving = true)
      (same : next = { state with
        received := state.received.eraseIdx index
        cell := (state.cell.commit (file codec) value saving).1 }.note
        (callbackEvent state.config envelope timestamp state.cell.value value))
  | unwritten (index timestamp : Nat) (received : List Value) (value : EventState)
      (saving : Saving) (asked : act = .ingest index timestamp saving)
      (misses : state.cell.reaches (file codec) value saving = false)
      (same : next = { state with
        received := received
        cell := (state.cell.commit (file codec) value saving).1 })
  | took (subscription : Subscription) (pending : Pending) (now : Nat)
      (free : state.gateFree = true) (working : state.stopped = false)
      (live : state.cell.value.expired now = false)
      (due : state.cell.value.due now = some (subscription, pending))
      (same : next = { state with delivering := some (.taken subscription pending now) })
  | permitted (subscription : Subscription) (pending : Pending) (timestamp : Nat)
      (held : state.delivering = some (.taken subscription pending timestamp))
      (same : next = { state with
        delivering := some (.permitted subscription pending timestamp) })
  | discarded (subscription : Subscription) (pending : Pending) (timestamp : Nat)
      (held : state.delivering = some (.taken subscription pending timestamp))
      (value : EventState) (saving : Saving) (writes : Discard state value)
      (same : next = state.idle (state.cell.commit (file codec) value saving).1)
  | dropped (waits : ∀ subscription pending,
        state.delivering ≠ some (.posting subscription pending))
      (same : next = state.idle state.cell)
  | posted (subscription : Subscription) (pending : Pending) (timestamp : Nat)
      (held : state.delivering = some (.permitted subscription pending timestamp))
      (working : state.cell.degraded = false)
      (same : next = { state with
        delivering := some (.posting subscription pending) }.note
        (.posted subscription.id pending.eventId
          (signers subscription.secret subscription.oldSecret subscription.oldSecretUntil
            timestamp) timestamp state.cell.degraded))
  | finished (subscription : Subscription) (pending : Pending) (status : Option Nat)
      (now : Nat) (saving : Saving) (asked : act = .finish status now saving)
      (held : state.delivering = some (.posting subscription pending))
      (same : next = state.idle (state.cell.commit (file codec)
        (state.cell.value.answered pending status now) saving).1)
  | cancelled (same : next = { state with
      delivering := none
      stopped := true })
  | opened (config : SlackEventsConfig) (sourceSecret : String) (cell : Cell EventState)
      (reopened : state.cell.reopen (file codec) .default = some cell)
      (same : next = { state with
        config := config
        sourceSecret := sourceSecret
        cell := cell
        waiting := []
        refreshing := none
        received := []
        delivering := none
        stopped := false }.note .opened)

theorem gateFree_refreshing (free : state.gateFree = true) : state.refreshing = none := by
  rw [System.gateFree, Bool.and_eq_true] at free
  exact Option.isNone_iff_eq_none.mp free.1

theorem gateFree_delivering (free : state.gateFree = true) : state.delivering = none := by
  rw [System.gateFree, Bool.and_eq_true] at free
  exact Option.isNone_iff_eq_none.mp free.2

/-- The cell after `ingest` is that of the write. -/
theorem ingest_cell {cell : Cell EventState} {envelope : Value}
    (takes : cell.value.ingested env config envelope timestamp = .ok (some value))
    (saving : Saving) : (ingest env codec cell config envelope timestamp saving).2 =
      (cell.commit (file codec) value saving).1 := by
  rw [ingest, takes]

theorem unsubscribe_cell (cell : Cell EventState) (id : String) (saving : Saving) :
    (unsubscribe codec cell id saving).2 = cell ∨
      (unsubscribe codec cell id saving).2 =
        (cell.commit (file codec) cell.value.cleared saving).1 := by
  unfold unsubscribe
  split
  · exact Or.inr rfl
  · exact Or.inl rfl

theorem step_effect (stepped : step env codec state act = some next) :
    Effect env codec state next act := by
  have unmoved : next = state → Effect env codec state next act := fun same =>
    .waits state.waiting state.received same
  cases act with
  | subscribe params =>
    simp only [step] at stepped
    split at stepped
    · cases stepped
      exact .waits _ state.received rfl
    · cases stepped
      exact unmoved rfl
  | enter index enabled =>
    simp only [step] at stepped
    split at stepped
    · rename_i call found
      split at stepped
      · rename_i free
        split at stepped
        · cases stepped
          refine .entered call _ state.refreshing free ?_ rfl
          intro held present
          cases (gateFree_refreshing free).symm.trans present
        · rename_i refused
          cases stepped
          refine .entered call _ _ free ?_ rfl
          rintro held ⟨⟩
          rw [Bool.or_eq_true, not_or, Bool.not_eq_true] at refused
          exact ⟨rfl, refused.1⟩
      · cases stepped
    · cases stepped
  | checkGrant access now =>
    simp only [step] at stepped
    split at stepped
    · rename_i call held
      split at stepped
      · rename_i current _ admitted
        cases stepped
        unfold EventState.currentSubscription at admitted
        split at admitted
        · cases admitted
        · rename_i revoked
          split at admitted
          · cases admitted
          · cases admitted
            refine .admitted call _ held (by simpa using revoked) ?_ rfl
            split <;> rfl
      · cases stepped
        exact .abandoned rfl
    · cases stepped
  | challenge challenge verification now =>
    simp only [step] at stepped
    split at stepped
    · rename_i call current held
      split at stepped
      · cases stepped
        exact .challenged call current challenge ⟨verification, now, rfl⟩ held rfl
      · cases stepped
        exact .abandoned rfl
    · cases stepped
  | echo response =>
    simp only [step] at stepped
    split at stepped
    · rename_i call current challenge held
      split at stepped
      · cases stepped
        exact .echoed call current challenge held rfl
      · cases stepped
        exact .abandoned rfl
    · cases stepped
  | store enabled access now saving =>
    simp only [step] at stepped
    split at stepped
    · rename_i call current held
      split at stepped
      · cases stepped
        exact .abandoned rfl
      · split at stepped
        · cases stepped
          exact .abandoned rfl
        · rename_i revoked
          have live : state.cell.value.sourceRevoked = false := by simpa using revoked
          cases stepped
          split
          · rename_i done
            exact .stored call current now saving ⟨enabled, access, rfl⟩ held live done rfl
          · exact .unstored call current now saving ⟨enabled, access, rfl⟩ held live rfl
    · cases stepped
  | abandon =>
    simp only [step] at stepped
    split at stepped
    · cases stepped
      exact .abandoned rfl
    · cases stepped
  | leave index =>
    cases stepped
    exact .waits _ state.received rfl
  | unsubscribe params saving =>
    simp only [step] at stepped
    split at stepped
    · rename_i target known
      split at stepped
      · rename_i free
        cases stepped
        cases @unsubscribe_cell codec state.cell target.id saving with
        | inl kept => exact unmoved (by rw [kept])
        | inr cleared => exact .cleared saving free (by rw [cleared])
      · cases stepped
    · cases stepped
      exact unmoved rfl
  | receive enabled headers body now =>
    simp only [step] at stepped
    split at stepped
    · cases stepped
      exact .waits state.waiting _ rfl
    · cases stepped
      exact unmoved rfl
  | ingest index timestamp saving =>
    simp only [step] at stepped
    split at stepped
    · rename_i envelope found
      split at stepped
      · cases stepped
      · rename_i gate
        have free : isRevocation state.config envelope = true → state.gateFree = true := by
          simpa using gate
        split at stepped
        · rename_i value takes
          cases stepped
          rw [ingest_cell takes]
          split
          · rename_i reaches
            exact .ingested index envelope timestamp value saving rfl found free takes reaches
              rfl
          · rename_i misses
            exact .unwritten index timestamp _ value saving rfl (by simpa using misses) rfl
        · cases stepped
          exact .waits state.waiting _ rfl
    · cases stepped
  | hangUp index =>
    cases stepped
    exact .waits state.waiting _ rfl
  | takeDue now saving =>
    simp only [step] at stepped
    split at stepped
    · rename_i ready
      rw [Bool.and_eq_true] at ready
      split at stepped
      · cases stepped
        exact .cleared saving ready.1 rfl
      · rename_i live
        split at stepped
        · rename_i subscription pending due
          cases stepped
          exact .took subscription pending now ready.1 (by simpa using ready.2)
            (by simpa using live) due rfl
        · cases stepped
          exact unmoved rfl
    · cases stepped
  | decide access channel saving =>
    simp only [step] at stepped
    split at stepped
    · rename_i subscription pending timestamp held
      have unsent : ∀ other item, state.delivering ≠ some (.posting other item) := by
        intro other item posting
        cases held.symm.trans posting
      split at stepped
      · cases stepped
        exact .discarded subscription pending timestamp held _ saving .cleared rfl
      · cases stepped
        exact .dropped unsent rfl
      · cases stepped
        exact .discarded subscription pending timestamp held _ saving (.withdrawn _) rfl
      · cases stepped
        exact .discarded subscription pending timestamp held _ saving
          (.postponed subscription pending timestamp held) rfl
      · cases stepped
        exact .permitted subscription pending timestamp held rfl
    · cases stepped
  | post enabled =>
    simp only [step] at stepped
    split at stepped
    · rename_i subscription pending timestamp held
      have unsent : ∀ other item, state.delivering ≠ some (.posting other item) := by
        intro other item posting
        cases held.symm.trans posting
      split at stepped
      · cases stepped
        exact .dropped unsent rfl
      · rename_i refused
        rw [Bool.or_eq_true, not_or, Bool.not_eq_true] at refused
        split at stepped
        · cases stepped
          exact .posted subscription pending timestamp held refused.1 rfl
        · cases stepped
          exact .dropped unsent rfl
    · cases stepped
  | finish status now saving =>
    simp only [step] at stepped
    split at stepped
    · rename_i subscription pending held
      cases stepped
      exact .finished subscription pending status now saving rfl held rfl
    · cases stepped
  | cancel =>
    cases stepped
    exact .cancelled rfl
  | reopen config sourceSecret =>
    simp only [step] at stepped
    split at stepped
    · obtain ⟨cell, reopened, rfl⟩ := Option.map_eq_some_iff.mp stepped
      exact .opened config sourceSecret cell reopened rfl
    · cases stepped

theorem step_appends (env : Environment) (codec : Codec EventState) :
    Histories.Appends (step env codec) System.log := by
  intro state act next stepped
  cases step_effect stepped with
  | waits waiting received same => exact same ▸ Or.inl rfl
  | entered call waiting refreshing free fresh same => exact same ▸ Or.inr ⟨_, rfl⟩
  | admitted call stage held live reads same => exact same ▸ Or.inl rfl
  | challenged call current challenge asked held same => exact same ▸ Or.inr ⟨_, rfl⟩
  | echoed call current challenge held same => exact same ▸ Or.inl rfl
  | stored call current now saving asked held live done same => exact same ▸ Or.inr ⟨_, rfl⟩
  | unstored call current now saving asked held live same => exact same ▸ Or.inl rfl
  | abandoned same => exact same ▸ Or.inl rfl
  | cleared saving free same => exact same ▸ Or.inl rfl
  | ingested index envelope timestamp value saving asked found free takes reaches same =>
    exact same ▸ Or.inr ⟨_, rfl⟩
  | unwritten index timestamp received value saving asked misses same => exact same ▸ Or.inl rfl
  | took subscription pending now free working live due same => exact same ▸ Or.inl rfl
  | permitted subscription pending timestamp held same => exact same ▸ Or.inl rfl
  | discarded subscription pending timestamp held value saving writes same =>
    exact same ▸ Or.inl rfl
  | dropped waits same => exact same ▸ Or.inl rfl
  | posted subscription pending timestamp held working same => exact same ▸ Or.inr ⟨_, rfl⟩
  | finished subscription pending status now saving asked held same => exact same ▸ Or.inl rfl
  | cancelled same => exact same ▸ Or.inl rfl
  | opened config sourceSecret cell reopened same => exact same ▸ Or.inr ⟨_, rfl⟩

theorem callbackEvent_cases (config : SlackEventsConfig) (envelope : Value) (timestamp : Nat)
    (former value : EventState) :
    (isRevocation config envelope = true ∧
      callbackEvent config envelope timestamp former value = .revoked) ∨
    (isRevocation config envelope = false ∧
      callbackEvent config envelope timestamp former value =
        .ingested ((eventIdOf envelope).getD "")
          (decide (former.queue.length < value.queue.length)) timestamp) := by
  unfold callbackEvent
  split
  · exact Or.inl ⟨‹_›, rfl⟩
  · exact Or.inr ⟨eq_false_of_ne_true ‹_›, rfl⟩

/-- What a step did that noted an event. -/
inductive Noted (env : Environment) (codec : Codec EventState) (state next : System)
    (act : Act) : Event → Prop where
  | entered (call : SubscribeCall) :
      Noted env codec state next act (.entered call.target.id call.secret)
  | challenged (call : SubscribeCall) (current : Option Subscription)
      (held : state.refreshing = some ⟨call, .unverified current⟩) :
      Noted env codec state next act (.verifying call.target.id state.cell.degraded)
  | stored (call : SubscribeCall) (current : Option Subscription) (now : Nat) (saving : Saving)
      (held : state.refreshing = some ⟨call, .verified current⟩)
      (done : (state.cell.commit (file codec)
        (call.stored current now state.cell.value) saving).2 = true)
      (same : next = { state with
        refreshing := none
        cell := (state.cell.commit (file codec)
          (call.stored current now state.cell.value) saving).1 }.note
        (.stored call.target.id call.secret
          (state.cell.value.subscription.map Subscription.secret) now)) :
      Noted env codec state next act (.stored call.target.id call.secret
        (state.cell.value.subscription.map Subscription.secret) now)
  | ingested (envelope : Value) (timestamp : Nat) (value : EventState) (saving : Saving)
      (received : List Value)
      (free : isRevocation state.config envelope = true → state.gateFree = true)
      (takes : state.cell.value.ingested env state.config envelope timestamp = .ok (some value))
      (reaches : state.cell.reaches (file codec) value saving = true)
      (same : next = { state with
        received := received
        cell := (state.cell.commit (file codec) value saving).1 }.note
        (callbackEvent state.config envelope timestamp state.cell.value value)) :
      Noted env codec state next act
        (callbackEvent state.config envelope timestamp state.cell.value value)
  | posted (subscription : Subscription) (pending : Pending) (timestamp : Nat)
      (held : state.delivering = some (.permitted subscription pending timestamp))
      (working : state.cell.degraded = false) :
      Noted env codec state next act (.posted subscription.id pending.eventId
        (signers subscription.secret subscription.oldSecret subscription.oldSecretUntil
          timestamp) timestamp state.cell.degraded)
  | opened : Noted env codec state next act .opened

theorem step_noted {event : Event} (stepped : step env codec state act = some next)
    (noted : next.log = state.log ++ [event]) : Noted env codec state next act event := by
  have own {other : System} {appended : Event} (same : next = other)
      (log : other.log = state.log ++ [appended]) : appended = event := by
    rw [same, log] at noted
    exact (List.cons.inj (List.append_cancel_left noted)).1
  have silent (same : next.log = state.log) : Noted env codec state next act event :=
    absurd (List.self_eq_append_right.mp (same.symm.trans noted)) (List.cons_ne_nil _ _)
  cases step_effect stepped with
  | waits waiting received same => exact silent (same ▸ rfl)
  | entered call waiting refreshing free fresh same =>
    obtain rfl := own same rfl
    exact .entered call
  | admitted call stage held live reads same => exact silent (same ▸ rfl)
  | challenged call current challenge asked held same =>
    obtain rfl := own same rfl
    exact .challenged call current held
  | echoed call current challenge held same => exact silent (same ▸ rfl)
  | stored call current now saving asked held live done same =>
    obtain rfl := own same rfl
    exact .stored call current now saving held done same
  | unstored call current now saving asked held live same => exact silent (same ▸ rfl)
  | abandoned same => exact silent (same ▸ rfl)
  | cleared saving free same => exact silent (same ▸ rfl)
  | ingested index envelope timestamp value saving asked found free takes reaches same =>
    obtain rfl := own same rfl
    exact .ingested envelope timestamp value saving _ free takes reaches same
  | unwritten index timestamp received value saving asked misses same => exact silent (same ▸ rfl)
  | took subscription pending now free working live due same => exact silent (same ▸ rfl)
  | permitted subscription pending timestamp held same => exact silent (same ▸ rfl)
  | discarded subscription pending timestamp held value saving writes same =>
    exact silent (same ▸ rfl)
  | dropped waits same => exact silent (same ▸ rfl)
  | posted subscription pending timestamp held working same =>
    obtain rfl := own same rfl
    exact .posted subscription pending timestamp held working
  | finished subscription pending status now saving asked held same =>
    exact silent (same ▸ rfl)
  | cancelled same => exact silent (same ▸ rfl)
  | opened config sourceSecret cell reopened same =>
    obtain rfl := own same rfl
    exact .opened

end Plug.Slack
