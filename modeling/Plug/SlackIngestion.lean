import Plug.SlackInvariants

/-!
# Callbacks are queued once

An event that was queued is in the seven-day memory, which loses it only when a callback is taken
in seven days later. A revoked grant is in the state for good, and the state has no subscription
then. Both are in the file as soon as a write reaches it; when the write is not known to have
ended, memory lags behind, but a degraded component neither queues nor posts.
-/

namespace Plug.Slack

open JsonValues Events Durable Runs

variable {env : Environment} {codec : Codec EventState} {state next : System} {act : Act}

/-- What all values written keep, once it is written, lasts. -/
theorem step_lasting {good : EventState → Prop} (faithful : codec.Faithful)
    (lasting : Lasting (file codec) good state.cell)
    (writes : ∀ value, Written env state act value → good state.cell.value → good value)
    (stepped : step env codec state act = some next) : Lasting (file codec) good next.cell := by
  rcases step_cell stepped with ⟨value, same, halts⟩ | ⟨value, saving, written, same⟩ | reopened
  · exact lasting.unchanged value same halts
  · rw [same]
    exact lasting.commit (writes value written) saving
  · exact lasting.reopen faithful.reads reopened

/-! ### Revocation -/

/-- The grant is revoked, and there is no subscription. -/
def EventState.Withdrawn (value : EventState) : Prop :=
  value.sourceRevoked = true ∧ value.subscription = none

/-- The event that queues or posts something. -/
def Event.Delivers : Event → Prop
  | .ingested _ queued _ => queued = true
  | .posted _ _ _ _ _ => True
  | _ => False

theorem answered_revoked (value : EventState) (pending : Pending) (status : Option Nat)
    (now : Nat) : (value.answered pending status now).sourceRevoked = value.sourceRevoked := by
  unfold EventState.answered
  split
  · split <;> rfl
  · rfl

variable {value : EventState} {config : SlackEventsConfig} {timestamp : Nat}

theorem Written.withdrawn (written : Written env state act value)
    (withdrawn : state.cell.value.Withdrawn) : value.Withdrawn := by
  obtain ⟨revoked, none⟩ := withdrawn
  refine ⟨?_, ?_⟩
  · cases written with
    | cleared => exact revoked
    | ingested index envelope timestamp saving value asked found free takes =>
      cases takes with
      | revoked eventId own => rfl
      | noticed eventId threads other known fresh room bounded => exact revoked
      | passed eventId channel body threads other known fresh room bounded live space valid small =>
        exact revoked
    | discarded subscription pending timestamp held value discards =>
      cases discards with
      | cleared => exact revoked
      | withdrawn channel => exact revoked
      | postponed subscription pending timestamp held =>
        unfold EventState.postponed
        split <;> exact revoked
    | answered subscription pending status now held => exact (answered_revoked ..).trans revoked
    | stored call current now asked held live => cases live.symm.trans revoked
  · rcases written.subscription with same | gone | ⟨call, current, now, asked, held, live, stored⟩
    · exact same.trans none
    · exact gone
    · cases live.symm.trans revoked

/-- The callback that revokes the grant leaves no subscription. -/
theorem step_revoked (stepped : step env codec state act = some next)
    (noted : next.log = state.log ++ [.revoked]) :
    Lasting (file codec) EventState.Withdrawn next.cell := by
  generalize event : Event.revoked = last at noted
  cases step_noted stepped noted with
  | ingested envelope timestamp value saving received free takes reaches same =>
    subst same
    refine .reached reaches ?_
    rcases callbackEvent_cases state.config envelope timestamp state.cell.value value with
      ⟨own, _⟩ | ⟨_, callback⟩
    · cases ingested_ingestion takes with
      | revoked eventId own => exact ⟨rfl, rfl⟩
      | noticed eventId threads other known fresh room bounded => cases other.symm.trans own
      | passed eventId channel body threads other known fresh room bounded live space valid small =>
        cases other.symm.trans own
    · cases event.trans callback
  | _ => cases event

/-- What a callback adds to the queue needs a grant. -/
theorem Ingestion.grown {envelope : Value} {former : EventState}
    (takes : Ingestion config envelope timestamp former value)
    (grows : former.queue.length < value.queue.length) : former.sourceRevoked = false := by
  cases takes with
  | revoked eventId own => cases grows
  | noticed eventId threads other known fresh room bounded => exact absurd grows (Nat.lt_irrefl _)
  | passed eventId channel body threads other known fresh room bounded live space valid small =>
    exact live

/-- Nothing is queued or posted without a grant. -/
theorem step_withdrawn {event : Event} (gated : Gated state)
    (lasting : Lasting (file codec) EventState.Withdrawn state.cell) (delivers : event.Delivers)
    (stepped : step env codec state act = some next) : next.log ≠ state.log ++ [event] := by
  intro noted
  cases step_noted stepped noted with
  | ingested envelope timestamp value saving received free takes reaches same =>
    rw [Cell.reaches, Bool.and_eq_true, Bool.and_eq_true, Bool.not_eq_true'] at reaches
    have revoked := (lasting.value reaches.1.1).1
    rcases callbackEvent_cases state.config envelope timestamp state.cell.value value with
      ⟨_, callback⟩ | ⟨_, callback⟩
    · rw [callback] at delivers
      exact delivers
    · rw [callback] at delivers
      have live := (ingested_ingestion takes).grown (of_decide_eq_true delivers)
      cases live.symm.trans revoked
  | posted subscription pending timestamp held working =>
    have none := (lasting.value working).2
    cases none.symm.trans (gated.live _ held)
  | _ => exact delivers

theorem run_withdrawn (faithful : codec.Faithful) {sourceSecret : String} {trace : List Act}
    {final : System} {before after : List Event}
    (ran : exec (step env codec) (.new config sourceSecret) trace = some final)
    (split : final.log = before ++ .revoked :: after) : ∀ event ∈ after, ¬ event.Delivers := by
  intro event member delivers
  obtain ⟨between, later, rfl⟩ := List.append_of_mem member
  have whole : final.log = before ++ .revoked :: between ++ event :: later := by
    rw [split, List.append_assoc, List.cons_append]
  have admitted : Admitted (step env codec) (fun _ _ => True) (.new config sourceSecret) trace :=
    .of_forall (fun _ _ => trivial) _
  obtain ⟨_, _, impossible⟩ := Histories.stopped_between (step_appends env codec) Gated
    (fun state => Lasting (file codec) EventState.Withdrawn state.cell) (fun _ => False)
    (fun _ _ _ _ gated stepped => step_gated gated stepped)
    (fun _ _ _ _ _ stepped noted => step_revoked stepped noted)
    (fun _ _ _ _ _ lasting stepped =>
      Or.inl (step_lasting faithful lasting (fun _ written => written.withdrawn) stepped))
    (fun _ _ _ _ gated lasting stepped => step_withdrawn gated lasting delivers stepped)
    (.new config sourceSecret) admitted ran whole
  exact impossible

/-! ### The seven-day memory -/

/-- An event was taken in at a time, or the grant was revoked since. -/
def EventState.Remembers (eventId : String) (timestamp : Nat) (value : EventState) : Prop :=
  value.sourceRevoked = true ∨ (eventId, timestamp) ∈ value.seen

/-- A callback was taken in seven days after a time. -/
def Forgets (timestamp : Nat) (event : Event) : Prop :=
  ∃ eventId queued later, event = .ingested eventId queued later ∧ timestamp + 7 * day ≤ later

section Memory

variable {eventId : String} {taken : Nat}

theorem mem_remembered {memory : List (String × Nat)} (early : timestamp < taken + 7 * day)
    (member : (eventId, taken) ∈ memory) : (eventId, taken) ∈ remembered memory timestamp :=
  List.mem_filter.mpr ⟨member, decide_eq_true early⟩

/-- The memory keeps what is not seven days old, and takes nothing in twice. -/
theorem insert_remembered {memory : List (String × Nat)} {other : String}
    (early : timestamp < taken + 7 * day)
    (fresh : Tables.containsKey (remembered memory timestamp) other = false)
    (member : (eventId, taken) ∈ memory) :
    (eventId, taken) ∈ Tables.insert (remembered memory timestamp) other timestamp := by
  have kept := mem_remembered early member
  refine Tables.mem_insert.mpr (Or.inr ⟨kept, ?_⟩)
  rintro rfl
  cases fresh.symm.trans (Tables.containsKey_iff.mpr ⟨taken, kept⟩)

theorem Ingestion.remembers {envelope : Value} {former : EventState}
    (takes : Ingestion config envelope timestamp former value) (early : timestamp < taken + 7 * day)
    (remembers : former.Remembers eventId taken) : value.Remembers eventId taken := by
  cases takes with
  | revoked eventId own => exact Or.inl rfl
  | noticed other threads plain known fresh room bounded =>
    exact remembers.imp_right (insert_remembered early fresh)
  | passed other channel body threads plain known fresh room bounded live space valid small =>
    exact remembers.imp_right (insert_remembered early fresh)

theorem answered_seen (value : EventState) (pending : Pending) (status : Option Nat)
    (now : Nat) : (value.answered pending status now).seen = value.seen := by
  unfold EventState.answered
  split
  · split <;> rfl
  · rfl

theorem Discard.remembers (discards : Discard state value)
    (remembers : state.cell.value.Remembers eventId taken) : value.Remembers eventId taken := by
  cases discards with
  | cleared => exact remembers
  | withdrawn channel => exact remembers
  | postponed subscription pending timestamp held =>
    unfold EventState.postponed
    split <;> exact remembers

theorem step_remembers (faithful : codec.Faithful)
    (lasting : Lasting (file codec) (EventState.Remembers eventId taken) state.cell)
    (stepped : step env codec state act = some next) :
    Lasting (file codec) (EventState.Remembers eventId taken) next.cell ∨
      ∃ event, next.log = state.log ++ [event] ∧ Forgets taken event := by
  have commits (value : EventState) (saving : Saving) (keeps :
      state.cell.value.Remembers eventId taken → value.Remembers eventId taken) :
      Lasting (file codec) (EventState.Remembers eventId taken)
        (state.cell.commit (file codec) value saving).1 := lasting.commit keeps saving
  cases step_effect stepped with
  | ingested index envelope timestamp value saving asked found free takes reaches same =>
    subst same
    have keeps := ingested_ingestion takes
    rcases callbackEvent_cases state.config envelope timestamp state.cell.value value with
      ⟨own, callback⟩ | ⟨other, callback⟩
    · refine Or.inl (commits value saving fun _ => ?_)
      cases keeps with
      | revoked eventId own => exact Or.inl rfl
      | noticed eventId threads other known fresh room bounded => cases other.symm.trans own
      | passed eventId channel body threads other known fresh room bounded live space valid small =>
        cases other.symm.trans own
    · by_cases late : taken + 7 * day ≤ timestamp
      · exact Or.inr ⟨_, rfl, _, _, timestamp, callback, late⟩
      · exact Or.inl (commits value saving (keeps.remembers (Nat.lt_of_not_le late)))
  | unwritten index timestamp received value saving asked misses same =>
    subst same
    obtain ⟨former, file⟩ := commit_unreached misses
    refine Or.inl (lasting.unchanged former file ?_)
    exact commit_halts value saving
  | stored call current now saving asked held live done same =>
    subst same
    exact Or.inl (commits (call.stored current now state.cell.value) saving id)
  | unstored call current now saving asked held live same =>
    subst same
    exact Or.inl (commits (call.stored current now state.cell.value) saving id)
  | cleared saving free same =>
    subst same
    exact Or.inl (commits state.cell.value.cleared saving id)
  | discarded subscription pending timestamp held value saving writes same =>
    subst same
    exact Or.inl (commits value saving writes.remembers)
  | finished subscription pending status now saving asked held same =>
    subst same
    refine Or.inl (commits _ saving ?_)
    rw [EventState.Remembers, EventState.Remembers, answered_revoked, answered_seen]
    exact id
  | opened config sourceSecret cell reopened same =>
    subst same
    exact Or.inl (lasting.reopen faithful.reads reopened)
  | waits waiting received same => exact Or.inl (same ▸ lasting)
  | entered call waiting refreshing free fresh same => exact Or.inl (same ▸ lasting)
  | admitted call stage held live reads same => exact Or.inl (same ▸ lasting)
  | challenged call current challenge asked held same => exact Or.inl (same ▸ lasting)
  | echoed call current challenge held same => exact Or.inl (same ▸ lasting)
  | abandoned same => exact Or.inl (same ▸ lasting)
  | took subscription pending now free working live due same => exact Or.inl (same ▸ lasting)
  | permitted subscription pending timestamp held same => exact Or.inl (same ▸ lasting)
  | dropped waits same => exact Or.inl (same ▸ lasting)
  | posted subscription pending timestamp held working same => exact Or.inl (same ▸ lasting)
  | cancelled same => exact Or.inl (same ▸ lasting)

/-- The callback that queues an event puts it into the memory. -/
theorem step_taken (stepped : step env codec state act = some next)
    (noted : next.log = state.log ++ [.ingested eventId true taken]) :
    Lasting (file codec) (EventState.Remembers eventId taken) next.cell := by
  generalize event : Event.ingested eventId true taken = last at noted
  cases step_noted stepped noted with
  | ingested envelope timestamp value saving received free takes reaches same =>
    subst same
    refine .reached reaches ?_
    rcases callbackEvent_cases state.config envelope timestamp state.cell.value value with
      ⟨_, callback⟩ | ⟨_, callback⟩
    · cases event.trans callback
    · obtain ⟨rfl, _, rfl⟩ := Event.ingested.inj (event.trans callback)
      cases ingested_ingestion takes with
      | revoked eventId own => exact Or.inl rfl
      | noticed eventId threads other known fresh room bounded =>
        rw [known]
        exact Or.inr (List.mem_cons_self ..)
      | passed eventId channel body threads other known fresh room bounded live space valid small =>
        rw [known]
        exact Or.inr (List.mem_cons_self ..)
  | _ => cases event

/-- An event that is remembered is not queued. -/
theorem step_known {later : Nat} (early : later < taken + 7 * day)
    (lasting : Lasting (file codec) (EventState.Remembers eventId taken) state.cell)
    (stepped : step env codec state act = some next) :
    next.log ≠ state.log ++ [.ingested eventId true later] := by
  intro noted
  generalize event : Event.ingested eventId true later = last at noted
  cases step_noted stepped noted with
  | ingested envelope timestamp value saving received free takes reaches same =>
    rw [Cell.reaches, Bool.and_eq_true, Bool.and_eq_true, Bool.not_eq_true'] at reaches
    have known := lasting.value reaches.1.1
    rcases callbackEvent_cases state.config envelope timestamp state.cell.value value with
      ⟨_, callback⟩ | ⟨_, callback⟩
    · cases event.trans callback
    · obtain ⟨rfl, grows, rfl⟩ := Event.ingested.inj (event.trans callback)
      have taking := ingested_ingestion takes
      have live := taking.grown (of_decide_eq_true grows.symm)
      cases known with
      | inl revoked => cases live.symm.trans revoked
      | inr member =>
        have kept := Tables.containsKey_iff.mpr ⟨taken, mem_remembered early member⟩
        rcases taking.jobs with fewer | ⟨other, named, fresh, _⟩
        · have shorter := fewer.length_le
          rw [jobs, jobs, List.length_map, List.length_map] at shorter
          exact Nat.not_le_of_lt (of_decide_eq_true grows.symm) shorter
        · rw [named] at kept
          cases fresh.symm.trans kept
  | _ => cases event

theorem run_once (faithful : codec.Faithful) {sourceSecret : String} {trace : List Act}
    {final : System} {before between after : List Event} {later : Nat}
    (ran : exec (step env codec) (.new config sourceSecret) trace = some final)
    (split : final.log = before ++ .ingested eventId true taken :: between ++ .ingested eventId true
      later :: after) : taken + 7 * day ≤ later ∨ ∃ event ∈ between, Forgets taken event := by
  by_cases early : later < taken + 7 * day
  · have admitted : Admitted (step env codec) (fun _ _ => True) (.new config sourceSecret) trace :=
      .of_forall (fun _ _ => trivial) _
    refine Or.inr ?_
    exact Histories.stopped_between (step_appends env codec) (fun _ => True)
      (fun state => Lasting (file codec) (EventState.Remembers eventId taken) state.cell)
      (Forgets taken) (fun _ _ _ _ _ _ => trivial)
      (fun _ _ _ _ _ stepped noted => step_taken stepped noted)
      (fun _ _ _ _ _ lasting stepped => step_remembers faithful lasting stepped)
      (fun _ _ _ _ _ lasting stepped => step_known early lasting stepped)
      trivial admitted ran split
  · exact Or.inl (Nat.le_of_not_lt early)

end Memory

/-! ### Refusals -/

/-- A callback that is refused leaves the state as it was, and the file too unless it is not
known how the write has ended. -/
theorem ingest_refused {cell : Cell EventState} {envelope : Value} {saving : Saving}
    {error : EventError}
    (refused : (ingest env codec cell config envelope timestamp saving).1 = .error error) :
    (ingest env codec cell config envelope timestamp saving).2.value = cell.value ∧
      (saving ≠ .failedAfter →
        (ingest env codec cell config envelope timestamp saving).2.file = cell.file) := by
  unfold ingest at refused ⊢
  split
  · exact ⟨rfl, fun _ => rfl⟩
  · exact ⟨rfl, fun _ => rfl⟩
  · rename_i value takes
    rw [takes] at refused
    apply commit_refused
    cases done : (cell.commit (file codec) value saving).2 with
    | false => rfl
    | true =>
      dsimp only at refused
      rw [done] at refused
      cases refused

theorem run_limits (faithful : codec.Faithful) {sourceSecret : String} {trace : List Act}
    {final : System} (ran : exec (step env codec) (.new config sourceSecret) trace = some final) :
    Limits final.cell.value := by
  have admitted : Admitted (step env codec) (fun _ _ => True) (.new config sourceSecret) trace :=
    .of_forall (fun _ _ => trivial) _
  have kept : Kept (file codec) Limits final.cell :=
    exec_invariant (step env codec) (fun _ _ => True)
      (fun state => Kept (file codec) Limits state.cell)
      (fun _ _ _ _ kept stepped => step_limits faithful kept stepped) trace _ final
      (.new .initial) admitted ran
  exact kept.value

/-- In every run: an event is queued again only seven days later, or after a callback that came
seven days later; nothing is queued or posted after the grant was revoked; queue and memories are
within their limits; and a callback that is refused leaves the state as it was, and the file too
unless it is not known how the write has ended. -/
theorem callbacks_queued_once (env : Environment) (codec : Codec EventState)
    (faithful : codec.Faithful) {config : SlackEventsConfig} {sourceSecret : String}
    {trace : List Act} {final : System}
    (ran : exec (step env codec) (.new config sourceSecret) trace = some final) :
    (∀ before between after eventId first second,
      final.log = before ++ .ingested eventId true first :: between ++
        .ingested eventId true second :: after →
      first + 7 * day ≤ second ∨ ∃ event ∈ between, Forgets first event) ∧
    (∀ before after, final.log = before ++ .revoked :: after →
      ∀ event ∈ after, ¬ event.Delivers) ∧
    Limits final.cell.value ∧
    (∀ enabled headers body now error, receive env final.config final.sourceSecret
      final.cell.degraded enabled headers body now = .error error →
      step env codec final (.receive enabled headers body now) = some final) ∧
    ∀ envelope timestamp saving error,
      (ingest env codec final.cell final.config envelope timestamp saving).1 = .error error →
      (ingest env codec final.cell final.config envelope timestamp saving).2.value =
        final.cell.value ∧
      (saving ≠ .failedAfter →
        (ingest env codec final.cell final.config envelope timestamp saving).2.file =
          final.cell.file) := by
  refine ⟨?_, ?_, run_limits faithful ran, ?_, ?_⟩
  · intro before between after eventId first second split
    exact run_once faithful ran split
  · intro before after split
    exact run_withdrawn faithful ran split
  · intro enabled headers body now error refused
    rw [step, refused]
  · intro envelope timestamp saving error refused
    exact ingest_refused refused

/-- A callback, and the same again. -/
theorem callbacks_queued_once_sample : ∃ final,
    exec (step callbackEnvironment (.ofSerial EventState.serial)) (.new sampleConfig "secret")
      (sampleSubscribe 'A' 600000 0 ++ sampleIngest 1 ++ sampleIngest 2) = some final ∧
    final.log.getLast? = some (.ingested "Ev1" true 1) ∧ Limits final.cell.value := by
  have log : (exec (step callbackEnvironment (.ofSerial EventState.serial))
      (.new sampleConfig "secret") (sampleSubscribe 'A' 600000 0 ++ sampleIngest 1 ++
        sampleIngest 2)).map (fun final => final.log.getLast?) =
      some (some (.ingested "Ev1" true 1)) := by
    decide +kernel
  obtain ⟨final, ran, last⟩ := Option.map_eq_some_iff.mp log
  have settled := callbacks_queued_once callbackEnvironment _
    (Codec.ofSerial_faithful EventState.serial) ran
  exact ⟨final, ran, last, settled.2.2.1⟩

end Plug.Slack
