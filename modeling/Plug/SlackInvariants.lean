import Plug.Attempts
import Plug.SlackSteps

/-!
# What every state of the Slack events keeps

The values that a step may write, the limits they keep, and the jobs in the queue. A property of
all values written holds of the value in memory and of the file, also after the component was
opened again.
-/

namespace Plug.Slack

open JsonValues Events Durable

variable {env : Environment} {codec : Codec EventState} {state next : System} {act : Act}

/-! ### What is written -/

/-- The values that a step may write. -/
inductive Written (env : Environment) (state : System) (act : Act) : EventState → Prop where
  | cleared : Written env state act state.cell.value.cleared
  | ingested (index : Nat) (envelope : Value) (timestamp : Nat) (saving : Saving)
      (value : EventState) (asked : act = .ingest index timestamp saving)
      (found : state.received[index]? = some envelope)
      (free : isRevocation state.config envelope = true → state.gateFree = true)
      (takes : Ingestion state.config envelope timestamp state.cell.value value) :
      Written env state act value
  | discarded (subscription : Subscription) (pending : Pending) (timestamp : Nat)
      (held : state.delivering = some (.taken subscription pending timestamp))
      (value : EventState) (discards : Discard state value) : Written env state act value
  | answered (subscription : Subscription) (pending : Pending) (status : Option Nat) (now : Nat)
      (held : state.delivering = some (.posting subscription pending)) :
      Written env state act (state.cell.value.answered pending status now)
  | stored (call : SubscribeCall) (current : Option Subscription) (now : Nat)
      (asked : ∃ enabled access saving, act = .store enabled access now saving)
      (held : state.refreshing = some ⟨call, .verified current⟩)
      (live : state.cell.value.sourceRevoked = false) :
      Written env state act (call.stored current now state.cell.value)

variable {value : EventState} {envelope : Value} {timestamp : Nat} {pending : Pending}

/-- A write that does not reach the file leaves the value and the file as they are. -/
theorem commit_unreached {cell : Cell EventState} {saving : Saving}
    (misses : cell.reaches (file codec) value saving = false) :
    (cell.commit (file codec) value saving).1.value = cell.value ∧
      (cell.commit (file codec) value saving).1.file = cell.file := by
  unfold Cell.reaches at misses
  unfold Cell.commit
  cases degraded : cell.degraded with
  | true => exact ⟨rfl, rfl⟩
  | false =>
    cases fits : (file codec).fits value with
    | false => exact ⟨rfl, rfl⟩
    | true =>
      rw [degraded, fits] at misses
      cases saving with
      | saved => cases misses
      | failedBefore => exact ⟨rfl, rfl⟩
      | failedAfter => cases misses

theorem commit_halts (value : EventState) (saving : Saving)
    (degraded : state.cell.degraded = true) :
    (state.cell.commit (file codec) value saving).1.degraded = true := by
  rw [commit_degraded _ _ _ degraded]
  exact degraded

/-- How a step changes the value and the file: not, by a write, or by opening again. -/
theorem step_cell (stepped : step env codec state act = some next) :
    (next.cell.value = state.cell.value ∧ next.cell.file = state.cell.file ∧
      (state.cell.degraded = true → next.cell.degraded = true)) ∨
    (∃ value saving, Written env state act value ∧
      next.cell = (state.cell.commit (file codec) value saving).1) ∨
    state.cell.reopen (file codec) .default = some next.cell := by
  cases step_effect stepped with
  | waits waiting received same => exact same ▸ Or.inl ⟨rfl, rfl, id⟩
  | entered call waiting refreshing free fresh same => exact same ▸ Or.inl ⟨rfl, rfl, id⟩
  | admitted call stage held live reads same => exact same ▸ Or.inl ⟨rfl, rfl, id⟩
  | challenged call current challenge asked held same => exact same ▸ Or.inl ⟨rfl, rfl, id⟩
  | echoed call current challenge held same => exact same ▸ Or.inl ⟨rfl, rfl, id⟩
  | stored call current now saving asked held live done same =>
    obtain ⟨enabled, access, asked⟩ := asked
    subst same
    exact Or.inr (Or.inl ⟨_, saving,
      .stored call current now ⟨enabled, access, saving, asked⟩ held live, rfl⟩)
  | unstored call current now saving asked held live same =>
    obtain ⟨enabled, access, asked⟩ := asked
    subst same
    exact Or.inr (Or.inl ⟨_, saving,
      .stored call current now ⟨enabled, access, saving, asked⟩ held live, rfl⟩)
  | abandoned same => exact same ▸ Or.inl ⟨rfl, rfl, id⟩
  | cleared saving free same =>
    subst same
    exact Or.inr (Or.inl ⟨_, saving, .cleared, rfl⟩)
  | ingested index envelope timestamp value saving asked found free takes reaches same =>
    subst same
    exact Or.inr (Or.inl ⟨value, saving, .ingested index envelope timestamp saving value asked
      found free (ingested_ingestion takes), rfl⟩)
  | unwritten index timestamp received value saving asked misses same => 
    subst same
    obtain ⟨value, file⟩ := commit_unreached misses
    exact Or.inl ⟨value, file, commit_halts _ saving⟩
  | took subscription pending now free working live due same => exact same ▸ Or.inl ⟨rfl, rfl, id⟩
  | permitted subscription pending timestamp held same => exact same ▸ Or.inl ⟨rfl, rfl, id⟩
  | discarded subscription pending timestamp held value saving writes same =>
    subst same
    exact Or.inr (Or.inl ⟨value, saving,
      .discarded subscription pending timestamp held value writes, rfl⟩)
  | dropped waits same => exact same ▸ Or.inl ⟨rfl, rfl, id⟩
  | posted subscription pending timestamp held working same => exact same ▸ Or.inl ⟨rfl, rfl, id⟩
  | finished subscription pending status now saving asked held same =>
    subst same
    exact Or.inr (Or.inl ⟨_, saving, .answered subscription pending status now held, rfl⟩)
  | cancelled same => exact same ▸ Or.inl ⟨rfl, rfl, id⟩
  | opened config sourceSecret cell reopened same => exact same ▸ Or.inr (Or.inr reopened)

/-- What all values written have in common is kept. -/
theorem step_kept {good : EventState → Prop} (faithful : codec.Faithful)
    (initially : good .default) (kept : Kept (file codec) good state.cell)
    (writes : ∀ value, Written env state act value → good value)
    (stepped : step env codec state act = some next) : Kept (file codec) good next.cell := by
  rcases step_cell stepped with ⟨value, same, _⟩ | ⟨value, saving, written, same⟩ | reopened
  · refine ⟨value ▸ kept.value, ?_⟩
    rw [same]
    exact kept.file
  · rw [same]
    exact kept.commit (writes value written) saving
  · exact kept.reopen initially faithful.reads reopened

theorem answered_subscription (value : EventState) (pending : Pending) (status : Option Nat)
    (now : Nat) : (value.answered pending status now).subscription = value.subscription ∨
      (value.answered pending status now).subscription = none := by
  unfold EventState.answered
  split
  · split
    · exact Or.inr rfl
    · exact Or.inl rfl
  · exact Or.inl rfl

theorem postponed_subscription (value : EventState) (pending : Pending) (timestamp : Nat) :
    (value.postponed pending timestamp).subscription = value.subscription := by
  unfold EventState.postponed
  split <;> rfl

/-- What is written has the subscription that there was, or none, or the one stored. -/
theorem Written.subscription (written : Written env state act value) :
    value.subscription = state.cell.value.subscription ∨ value.subscription = none ∨
      ∃ call current now, (∃ enabled access saving, act = .store enabled access now saving) ∧
        state.refreshing = some ⟨call, .verified current⟩ ∧
        state.cell.value.sourceRevoked = false ∧
        value.subscription = some (call.refreshed current now) := by
  cases written with
  | cleared => exact Or.inr (Or.inl rfl)
  | ingested index envelope timestamp saving value asked found free takes =>
    cases takes with
    | revoked eventId own => exact Or.inr (Or.inl rfl)
    | noticed eventId threads other known fresh room bounded => exact Or.inl rfl
    | passed eventId channel body threads other known fresh room bounded live space valid small =>
      exact Or.inl rfl
  | discarded subscription pending timestamp held value discards =>
    cases discards with
    | cleared => exact Or.inr (Or.inl rfl)
    | withdrawn channel => exact Or.inl rfl
    | postponed subscription pending timestamp held =>
      exact Or.inl (postponed_subscription _ pending timestamp)
  | answered subscription pending status now held =>
    exact (answered_subscription _ pending status now).imp_right Or.inl
  | stored call current now asked held live =>
    exact Or.inr (Or.inr ⟨call, current, now, asked, held, live, rfl⟩)

/-! ### Limits -/

structure Limits (value : EventState) : Prop where
  version : value.version = 2
  queue : value.queue.length ≤ maxQueue
  seen : value.seen.length ≤ maxSeen
  threads : value.threads.length ≤ maxSeen
  items : ∀ pending ∈ value.queue,
    validPublicChannel pending.channelId = true ∧ pending.body.length ≤ maxBody

theorem Limits.initial : Limits .default :=
  ⟨rfl, Nat.zero_le _, Nat.zero_le _, Nat.zero_le _, nofun⟩

theorem Limits.cleared (limits : Limits value) : Limits value.cleared :=
  ⟨limits.version, Nat.zero_le _, limits.seen, Nat.zero_le _, nofun⟩

/-- What is taken out of the queue does not matter. -/
theorem Limits.fewer (limits : Limits value) {queue : List Pending}
    (sublist : List.Sublist queue value.queue) : Limits { value with queue := queue } :=
  ⟨limits.version, Nat.le_trans sublist.length_le limits.queue, limits.seen, limits.threads,
    fun pending member => limits.items pending (sublist.subset member)⟩

theorem Limits.retry (limits : Limits value) (eventId : String) (now : Nat) :
    Limits (value.retry eventId now) := by
  refine ⟨limits.version, ?_, limits.seen, limits.threads, ?_⟩
  · rw [EventState.retry, Queues.length_modifyFirst]
    exact limits.queue
  · intro pending member
    rcases Queues.mem_modifyFirst member with present | ⟨former, present, _, rfl⟩
    · exact limits.items pending present
    · exact limits.items former present

theorem Limits.answered (limits : Limits value) (pending : Pending) (status : Option Nat)
    (now : Nat) : Limits (value.answered pending status now) := by
  unfold EventState.answered
  split
  · split
    · exact (limits.fewer List.filter_sublist).cleared
    · exact limits.fewer List.filter_sublist
  · exact limits.retry _ _

theorem Limits.discard (limits : Limits state.cell.value) (discards : Discard state value) :
    Limits value := by
  cases discards with
  | cleared => exact limits.cleared
  | withdrawn channel =>
    have kept := limits.fewer
      (show List.Sublist (state.cell.value.withdrawn channel).queue _ from List.filter_sublist)
    exact ⟨kept.version, kept.queue, kept.seen,
      Nat.le_trans (List.length_filter_le _ _) limits.threads, kept.items⟩
  | postponed subscription pending timestamp held =>
    unfold EventState.postponed
    split
    · exact limits.fewer List.filter_sublist
    · exact limits.retry _ _

theorem Limits.ingested {config : SlackEventsConfig} {former : EventState} (limits : Limits former)
    (takes : Ingestion config envelope timestamp former value) : Limits value := by
  have remembers {eventId : String}
      (room : (remembered former.seen timestamp).length < maxSeen) :
      (Tables.insert (remembered former.seen timestamp) eventId timestamp).length ≤ maxSeen :=
    Tables.length_insert_le (Nat.le_of_lt room) (Or.inl room)
  cases takes with
  | revoked eventId own =>
    have one : 1 ≤ maxSeen := by decide
    exact ⟨limits.version, Nat.zero_le _, one, Nat.zero_le _, nofun⟩
  | noticed eventId threads other known fresh room bounded =>
    exact ⟨limits.version, limits.queue, remembers room, bounded limits.threads, limits.items⟩
  | passed eventId channel body threads other known fresh room bounded live space valid small =>
    refine ⟨limits.version, ?_, remembers room, bounded limits.threads, ?_⟩
    · rw [List.length_append]
      exact space
    · intro pending member
      cases List.mem_append.mp member with
      | inl earlier => exact limits.items pending earlier
      | inr last =>
        rw [List.mem_singleton.mp last]
        exact ⟨valid, small⟩

theorem Limits.written (limits : Limits state.cell.value) (written : Written env state act value) :
    Limits value := by
  cases written with
  | cleared => exact limits.cleared
  | ingested index envelope timestamp saving value asked found free takes =>
    exact limits.ingested takes
  | discarded subscription pending timestamp held value discards => exact limits.discard discards
  | answered subscription pending status now held => exact limits.answered pending status now
  | stored call current now asked held live =>
    unfold SubscribeCall.stored
    dsimp only
    split
    · exact ⟨limits.version, Nat.zero_le _, limits.seen, Nat.zero_le _, nofun⟩
    · exact ⟨limits.version, limits.queue, limits.seen, limits.threads, limits.items⟩

theorem step_limits (faithful : codec.Faithful) (kept : Kept (file codec) Limits state.cell)
    (stepped : step env codec state act = some next) : Kept (file codec) Limits next.cell :=
  step_kept faithful .initial kept (fun _ written => kept.value.written written) stepped

/-! ### Behind the gate -/

/-- What those behind the gate have read is as they have read it. -/
structure Gated (state : System) : Prop where
  exclusive : state.refreshing = none ∨ state.delivering = none
  queued : ∀ delivery, state.delivering = some delivery →
    delivery.pending ∈ state.cell.value.queue
  live : ∀ delivery, state.delivering = some delivery →
    state.cell.value.subscription = some delivery.subscription
  read : ∀ held current, state.refreshing = some held → held.stage.current? = some current →
    current = state.cell.value.subscription

theorem Gated.new (config : SlackEventsConfig) (sourceSecret : String) :
    Gated (.new config sourceSecret) :=
  ⟨Or.inl rfl, nofun, nofun, nofun⟩

theorem Gated.free (refreshing : state.refreshing = none) (delivering : state.delivering = none) :
    Gated state := by
  refine ⟨Or.inl refreshing, ?_, ?_, ?_⟩
  · intro delivery present
    cases delivering.symm.trans present
  · intro delivery present
    cases delivering.symm.trans present
  · intro held current present
    cases refreshing.symm.trans present

/-- Nobody delivers, and what a `subscribe` has read is still so. -/
theorem Gated.reading (delivering : state.delivering = none)
    (read : ∀ held current, state.refreshing = some held → held.stage.current? = some current →
      current = state.cell.value.subscription) : Gated state := by
  refine ⟨Or.inr delivering, ?_, ?_, read⟩
  · intro delivery present
    cases delivering.symm.trans present
  · intro delivery present
    cases delivering.symm.trans present

/-- Nobody refreshes, and what is delivered is still queued for the same subscription. -/
theorem Gated.serving (refreshing : state.refreshing = none)
    (queued : ∀ delivery, state.delivering = some delivery →
      delivery.pending ∈ state.cell.value.queue)
    (live : ∀ delivery, state.delivering = some delivery →
      state.cell.value.subscription = some delivery.subscription) : Gated state := by
  refine ⟨Or.inl refreshing, queued, live, ?_⟩
  intro held current present
  cases refreshing.symm.trans present

/-- The queue only grows, and the subscription stays. -/
theorem Gated.grows (gated : Gated state) (refreshing : next.refreshing = state.refreshing)
    (delivering : next.delivering = state.delivering)
    (queue : ∀ pending ∈ state.cell.value.queue, pending ∈ next.cell.value.queue)
    (subscription : next.cell.value.subscription = state.cell.value.subscription) :
    Gated next := by
  refine ⟨?_, ?_, ?_, ?_⟩
  · rw [refreshing, delivering]
    exact gated.exclusive
  · rw [delivering]
    exact fun delivery present => queue _ (gated.queued delivery present)
  · rw [delivering, subscription]
    exact gated.live
  · rw [refreshing, subscription]
    exact gated.read

theorem Gated.refreshing_only (gated : Gated state) {held : Refreshing}
    (refreshing : state.refreshing = some held) : state.delivering = none := by
  cases gated.exclusive with
  | inl none => cases none.symm.trans refreshing
  | inr none => exact none

theorem Gated.delivering_only (gated : Gated state) {delivery : Delivery}
    (delivering : state.delivering = some delivery) : state.refreshing = none := by
  cases gated.exclusive with
  | inl none => exact none
  | inr none => cases none.symm.trans delivering

theorem due_pending {now : Nat} {subscription : Subscription}
    (due : value.due now = some (subscription, pending)) :
    value.subscription = some subscription ∧ pending ∈ value.queue := by
  obtain ⟨found, present, rest⟩ := Option.bind_eq_some_iff.mp due
  obtain ⟨item, first, same⟩ := Option.map_eq_some_iff.mp rest
  cases same
  exact ⟨present, List.mem_of_find?_eq_some first⟩

/-- A callback that does not revoke the grant adds to the queue at most. -/
theorem Ingestion.keeps {config : SlackEventsConfig} {former : EventState}
    (takes : Ingestion config envelope timestamp former value)
    (other : isRevocation config envelope = false) :
    (∀ pending ∈ former.queue, pending ∈ value.queue) ∧
      value.subscription = former.subscription := by
  cases takes with
  | revoked eventId own => cases other.symm.trans own
  | noticed eventId threads other known fresh room bounded => exact ⟨fun _ => id, rfl⟩
  | passed eventId channel body threads other known fresh room bounded live space valid small =>
    exact ⟨fun _ => List.mem_append_left _, rfl⟩

theorem step_gated (gated : Gated state) (stepped : step env codec state act = some next) :
    Gated next := by
  cases step_effect stepped with
  | waits waiting received same =>
    exact same ▸ gated.grows rfl rfl (fun _ => id) rfl
  | entered call waiting refreshing free fresh same =>
    have delivering := gateFree_delivering free
    subst same
    refine .reading delivering ?_
    intro held current present reads
    obtain ⟨rfl, _⟩ := fresh held present
    cases reads
  | admitted call stage held live reads same =>
    subst same
    refine .reading (gated.refreshing_only held) ?_
    rintro other current ⟨⟩ again
    exact Option.some.inj (again.symm.trans reads)
  | challenged call current challenge asked held same =>
    have before := gated.read _ current held rfl
    subst same
    refine .reading (gated.refreshing_only held) ?_
    rintro other reads ⟨⟩ ⟨⟩
    exact before
  | echoed call current challenge held same =>
    have before := gated.read _ current held rfl
    subst same
    refine .reading (gated.refreshing_only held) ?_
    rintro other reads ⟨⟩ ⟨⟩
    exact before
  | stored call current now saving asked held live done same =>
    subst same
    exact .free rfl (gated.refreshing_only held)
  | unstored call current now saving asked held live same =>
    subst same
    exact .free rfl (gated.refreshing_only held)
  | abandoned same =>
    subst same
    exact .serving rfl gated.queued gated.live
  | cleared saving free same =>
    subst same
    exact .free (gateFree_refreshing free) (gateFree_delivering free)
  | ingested index envelope timestamp value saving asked found free takes reaches same =>
    subst same
    cases revokes : isRevocation state.config envelope with
    | true => exact .free (gateFree_refreshing (free revokes)) (gateFree_delivering (free revokes))
    | false =>
      obtain ⟨grows, subscription⟩ := (ingested_ingestion takes).keeps revokes
      cases commit_value (file codec) state.cell value saving with
      | inl former =>
        refine gated.grows rfl rfl ?_ (congrArg EventState.subscription former)
        intro pending member
        exact (congrArg EventState.queue former).symm ▸ member
      | inr written =>
        refine gated.grows rfl rfl ?_ ((congrArg EventState.subscription written).trans
          subscription)
        intro pending member
        exact (congrArg EventState.queue written).symm ▸ grows pending member
  | unwritten index timestamp received value saving asked misses same =>
    subst same
    have former := (commit_unreached misses).1
    refine gated.grows rfl rfl ?_ (congrArg EventState.subscription former)
    intro pending member
    exact (congrArg EventState.queue former).symm ▸ member
  | took subscription pending now free working live due same =>
    obtain ⟨present, member⟩ := due_pending due
    have refreshing := gateFree_refreshing free
    subst same
    refine .serving refreshing ?_ ?_
    · rintro delivery ⟨⟩
      exact member
    · rintro delivery ⟨⟩
      exact present
  | permitted subscription pending timestamp held same =>
    have queued := gated.queued _ held
    have live := gated.live _ held
    subst same
    refine .serving (gated.delivering_only held) ?_ ?_
    · rintro delivery ⟨⟩
      exact queued
    · rintro delivery ⟨⟩
      exact live
  | discarded subscription pending timestamp held value saving writes same =>
    subst same
    exact .free (gated.delivering_only held) rfl
  | dropped waits same =>
    subst same
    exact .reading rfl gated.read
  | posted subscription pending timestamp held working same =>
    have queued := gated.queued _ held
    have live := gated.live _ held
    subst same
    refine .serving (gated.delivering_only held) ?_ ?_
    · rintro delivery ⟨⟩
      exact queued
    · rintro delivery ⟨⟩
      exact live
  | finished subscription pending status now saving asked held same =>
    subst same
    exact .free (gated.delivering_only held) rfl
  | cancelled same =>
    subst same
    exact .reading rfl gated.read
  | opened config sourceSecret cell reopened same =>
    subst same
    exact .free rfl rfl

/-! ### Jobs -/

/-- The queued events, with the attempts made at each. -/
def jobs (value : EventState) : List (String × Nat) :=
  value.queue.map fun pending => (pending.eventId, pending.attempts)

/-- A callback with an event that is still queued is taken in while the event is remembered. -/
def remembers (state : System) : Act → Bool
  | .ingest index timestamp _ =>
    (state.received[index]?.bind eventIdOf).all fun eventId =>
      !state.cell.value.queue.any (fun pending => pending.eventId = eventId) ||
        Tables.containsKey (remembered state.cell.value.seen timestamp) eventId
  | _ => true

abbrev Remembers (state : System) (act : Act) : Prop := remembers state act = true

theorem mem_jobs (member : pending ∈ value.queue) :
    (pending.eventId, pending.attempts) ∈ jobs value :=
  List.mem_map_of_mem member

theorem jobs_distinct {limit : Nat} (sound : Attempts.Sound limit (jobs value)) :
    (value.queue.map Pending.eventId).Nodup := by
  have distinct := sound.distinct
  rw [jobs, List.map_map] at distinct
  exact distinct

/-- An event is queued once. -/
theorem queued_once {limit : Nat} (sound : Attempts.Sound limit (jobs value)) {attempts : Nat}
    (member : pending ∈ value.queue) (counted : (pending.eventId, attempts) ∈ jobs value) :
    attempts = pending.attempts :=
  (Prod.mk.inj (sound.same counted (mem_jobs member) rfl)).2

theorem jobs_drop (value : EventState) (eventId : String) :
    List.Sublist (jobs (value.drop eventId)) (jobs value) :=
  List.filter_sublist.map _

theorem jobs_retry {limit : Nat} (sound : Attempts.Sound limit (jobs value)) (eventId : String)
    (now : Nat) : jobs (value.retry eventId now) = Attempts.bump eventId (jobs value) := by
  rw [jobs, EventState.retry, Queues.modifyFirst_eq_map (jobs_distinct sound), jobs,
    Attempts.bump, List.map_map, List.map_map]
  apply List.map_congr_left
  intro pending _
  rw [Function.comp_apply, Function.comp_apply]
  split <;> rfl

/-- Counting one more attempt at an event that is queued as it was taken. -/
theorem sound_retry (sound : Attempts.Sound maxAttempts (jobs value))
    (member : pending ∈ value.queue) (room : pending.attempts + 1 < maxAttempts) (now : Nat) :
    Attempts.Sound maxAttempts (jobs (value.retry pending.eventId now)) := by
  rw [jobs_retry sound]
  apply sound.bump
  intro attempts counted
  rw [queued_once sound member counted]
  exact room

theorem sound_answered (sound : Attempts.Sound maxAttempts (jobs value))
    (member : pending ∈ value.queue) (status : Option Nat) (now : Nat) :
    Attempts.Sound maxAttempts (jobs (value.answered pending status now)) := by
  unfold EventState.answered
  split
  · split
    · exact .nil
    · exact sound.fewer (jobs_drop value _)
  · rename_i unsettled
    exact sound_retry sound member (unsettled_room unsettled) now

theorem sound_discard (sound : Attempts.Sound maxAttempts (jobs state.cell.value))
    (gated : Gated state) (discards : Discard state value) :
    Attempts.Sound maxAttempts (jobs value) := by
  cases discards with
  | cleared => exact .nil
  | withdrawn channel => exact sound.fewer (List.filter_sublist.map _)
  | postponed subscription pending timestamp held =>
    unfold EventState.postponed
    split
    · exact sound.fewer (jobs_drop _ _)
    · rename_i room
      exact sound_retry sound (gated.queued _ held) (Nat.lt_of_not_le room) timestamp

/-- A callback adds a job that is not queued, or none. -/
theorem Ingestion.jobs {config : SlackEventsConfig} {former : EventState}
    (takes : Ingestion config envelope timestamp former value) :
    List.Sublist (jobs value) (jobs former) ∨
      ∃ eventId, eventIdOf envelope = some eventId ∧
        Tables.containsKey (remembered former.seen timestamp) eventId = false ∧
        jobs value = jobs former ++ [(eventId, 0)] := by
  cases takes with
  | revoked eventId own => exact Or.inl (List.nil_sublist _)
  | noticed eventId threads other known fresh room bounded => exact Or.inl (List.Sublist.refl _)
  | passed eventId channel body threads other known fresh room bounded live space valid small =>
    exact Or.inr ⟨eventId, known, fresh, List.map_append⟩

/-- What a callback queues is not queued yet. -/
theorem fresh_job (known : Remembers state act) {index : Nat} {saving : Saving} {eventId : String}
    (asked : act = .ingest index timestamp saving) (found : state.received[index]? = some envelope)
    (named : eventIdOf envelope = some eventId)
    (fresh : Tables.containsKey (remembered state.cell.value.seen timestamp) eventId = false) :
    ∀ job ∈ jobs state.cell.value, job.1 ≠ eventId := by
  rintro job member rfl
  obtain ⟨pending, present, rfl⟩ := List.mem_map.mp member
  subst asked
  rw [Remembers, remembers, found, Option.bind_some, named, Option.all_some, fresh,
    Bool.or_false, Bool.not_eq_true', List.any_eq_false] at known
  exact known pending present (decide_eq_true rfl)

theorem sound_written (sound : Attempts.Sound maxAttempts (jobs state.cell.value))
    (gated : Gated state) (known : Remembers state act) (written : Written env state act value) :
    Attempts.Sound maxAttempts (jobs value) := by
  cases written with
  | cleared => exact .nil
  | ingested index envelope timestamp saving value asked found free takes =>
    rcases takes.jobs with fewer | ⟨eventId, named, fresh, same⟩
    · exact sound.fewer fewer
    · rw [same]
      refine sound.add (by decide) (List.nodup_singleton eventId) ?_
      rintro other member
      rw [List.mem_singleton.mp member]
      exact fresh_job known asked found named fresh
  | discarded subscription pending timestamp held value discards =>
    exact sound_discard sound gated discards
  | answered subscription pending status now held =>
    exact sound_answered sound (gated.queued _ held) status now
  | stored call current now asked held live =>
    unfold SubscribeCall.stored
    dsimp only
    split
    · exact .nil
    · exact sound

end Plug.Slack
