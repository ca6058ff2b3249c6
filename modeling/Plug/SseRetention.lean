import Plug.SseOrder

/-!
# Events that no stream took

Every event is in the replay buffer once it is numbered, and in the queue when no stream took
it. It leaves them when it has become the oldest of a buffer at its limit, or when what it asks
has been answered. The cleanup after a stream was served drops queued events too, on the
assumption that the stream, or an earlier one, got them, or that the replay buffer has them.
-/

namespace Plug.Sse

/-- The event is in the queue or in the replay buffer of the session. -/
def Held (event : SseEvent) (state : System) : Prop :=
  ∃ entry, state.session = some entry ∧
    (event ∈ entry.pendingNotifications ∨ event ∈ entry.replayEvents)

instance (event : SseEvent) (state : System) : Decidable (Held event state) :=
  decidable_of_iff (state.session.any (fun entry =>
    decide (event ∈ entry.pendingNotifications ∨ event ∈ entry.replayEvents)) = true)
    (by simp [Held, Option.any_eq_true])

/-- The event was put on a channel. -/
def Put (event : SseEvent) (channels : List Channel) : Prop :=
  ∃ channel ∈ channels, event ∈ channel.sent

instance (event : SseEvent) (channels : List Channel) : Decidable (Put event channels) :=
  inferInstanceAs (Decidable (∃ channel ∈ channels, event ∈ channel.sent))

/-- The event that a step numbers; a send reports it delivered or queued. -/
def accepted (state : System) : Act → Option SseEvent
  | .send now message allowed =>
    (state.sendable now allowed).map fun entry => (entry.nextEvent message).1
  | .broadcast now message allowed admitted =>
    if admitted then (state.sendable now allowed).map fun entry => (entry.nextEvent message).1
    else none
  | _ => none

def oldestAtLimit (limit : Nat) (queue : List SseEvent) (event : SseEvent) : Bool :=
  decide (limit ≤ queue.length) && decide (queue.head? = some event)

/-- The step puts an event in a buffer that is at its limit, of which the event is the oldest. -/
def evicts (state : System) (event : SseEvent) : Act → Bool
  | .send _ _ _ =>
    state.session.any fun entry => oldestAtLimit replayLimit entry.replayEvents event
  | .broadcast _ _ _ _ =>
    state.session.any fun entry =>
      oldestAtLimit replayLimit entry.replayEvents event ||
        oldestAtLimit pendingLimit entry.pendingNotifications event
  | .finish _ _ =>
    state.session.any fun entry => oldestAtLimit pendingLimit entry.pendingNotifications event
  | _ => false

/-- What the event asks has been answered, or the session ends. -/
def withdraws (event : SseEvent) : Act → Bool
  | .removeReplayEventsByKey key => decide (event.message.replayKey = some key)
  | .remove => true
  | _ => false

/-- Why an event need not be kept any longer. -/
def Released (event : SseEvent) (state : System) (act : Act) (next : System) : Prop :=
  Put event next.channels ∨ (evicts state event act = true ∧ ¬ Held event next) ∨
    withdraws event act = true

instance (event : SseEvent) (state : System) (act : Act) (next : System) :
    Decidable (Released event state act next) :=
  inferInstanceAs (Decidable (_ ∨ _ ∨ _))

/-- When a stream is attached, the queued events that were never put on a channel are still in
the replay buffer, or they are in order and the stream is served all of them. -/
def keepsEvents (state : System) : Act → Bool
  | .setSseSender _ _ lastEventId _ =>
    state.session.all fun entry =>
      (entry.pendingNotifications.all fun event =>
        decide (event ∈ entry.replayEvents) || decide (Put event state.channels)) ||
      ((entry.honouredId lastEventId).isNone &&
        decide (entry.pendingNotifications.Pairwise fun event later => event.id < later.id))
  | _ => true

/-! ### What steps leave in the buffers -/

theorem beginSend_session (state : System) (entry : SessionState) (now : Nat)
    (message : SseMessage) :
    ∃ after, (state.beginSend entry now message).session = some after ∧
      after.replayEvents =
        Queues.push replayLimit entry.replayEvents (entry.nextEvent message).1 ∧
      after.pendingNotifications = entry.pendingNotifications := by
  unfold System.beginSend
  dsimp only
  split
  · split
    · exact ⟨_, rfl, rfl, rfl⟩
    · exact ⟨_, rfl, rfl, rfl⟩
  · exact ⟨_, rfl, rfl, rfl⟩

theorem broadcast_session (state : System) (entry : SessionState) (now : Nat)
    (message : SseMessage) :
    ∃ after, (state.broadcast entry now message).session = some after ∧
      after.replayEvents =
        Queues.push replayLimit entry.replayEvents (entry.nextEvent message).1 ∧
      (after.pendingNotifications = entry.pendingNotifications ∨
        after.pendingNotifications =
          Queues.push pendingLimit entry.pendingNotifications (entry.nextEvent message).1) := by
  unfold System.broadcast
  dsimp only
  split
  · split
    · exact ⟨_, rfl, rfl, Or.inl rfl⟩
    · exact ⟨_, rfl, rfl, Or.inr rfl⟩
  · exact ⟨_, rfl, rfl, Or.inr rfl⟩

theorem Finished.session {entry : SessionState} {channels : List Channel} {sending : Sending}
    {now : Nat} {result : SessionState × List Channel}
    (finished : Finished entry channels sending now result) :
    result.1.replayEvents = entry.replayEvents ∧
      (result.1.pendingNotifications = entry.pendingNotifications ∨
        result.1.pendingNotifications =
          Queues.push pendingLimit entry.pendingNotifications sending.event) := by
  cases finished with
  | sent => exact ⟨rfl, Or.inl rfl⟩
  | queued kept same =>
    rcases same with rfl | rfl
    · exact ⟨rfl, Or.inr rfl⟩
    · exact ⟨rfl, Or.inr rfl⟩

variable {event : SseEvent}

theorem accepted_held {state next : System} {act : Act} (accepts : accepted state act = some event)
    (stepped : step state act = some next) : Held event next := by
  cases act with
  | send now message allowed =>
    obtain ⟨entry, sendable, rfl⟩ := Option.map_eq_some_iff.mp accepts
    simp only [step, sendable] at stepped
    cases stepped
    obtain ⟨after, present, replay, -⟩ := beginSend_session state entry now message
    exact ⟨after, present, Or.inr (replay ▸ Queues.mem_push_self)⟩
  | broadcast now message allowed admitted =>
    cases admitted with
    | false => cases accepts
    | true =>
      obtain ⟨entry, sendable, rfl⟩ := Option.map_eq_some_iff.mp accepts
      simp only [step, sendable] at stepped
      cases stepped
      obtain ⟨after, present, replay, -⟩ := broadcast_session state entry now message
      exact ⟨after, present, Or.inr (replay ▸ Queues.mem_push_self)⟩
  | _ => cases accepts

/-- An event stays in a buffer, or was the oldest of it. -/
theorem mem_push_or_oldest {limit : Nat} {queue : List SseEvent} {other : SseEvent}
    (member : event ∈ queue) :
    event ∈ Queues.push limit queue other ∨ oldestAtLimit limit queue event = true := by
  rcases Queues.mem_push member with kept | ⟨full, first⟩
  · exact Or.inl kept
  · exact Or.inr (by simp [oldestAtLimit, full, first])

/-- An event stays in a buffer that is left as it is or gets another one. -/
theorem mem_kept_or_oldest {limit : Nat} {queue after : List SseEvent} {other : SseEvent}
    (change : after = queue ∨ after = Queues.push limit queue other) (member : event ∈ queue) :
    event ∈ after ∨ oldestAtLimit limit queue event = true := by
  cases change with
  | inl same => exact Or.inl (same ▸ member)
  | inr pushed =>
    rw [pushed]
    exact mem_push_or_oldest member

/-- What a stream did not take of a queue that is in order is queued again. -/
theorem unsent_queued {sent unsent : List SseEvent} (ascending : Ascending (sent ++ unsent))
    (member : event ∈ unsent) :
    ((sentThrough none sent).all fun id => decide (id < event.id)) = true := by
  have ordered := (List.pairwise_append.mp ascending).2.2
  cases last : sent.getLast? with
  | none => simp [sentThrough, last]
  | some newest =>
    have earlier := ordered newest (List.mem_of_getLast? last) event member
    simpa [sentThrough, last] using earlier

theorem setSseSender_held {state : System} {entry : SessionState} (now capacity : Nat)
    (lastEventId : Option Nat) (gaps : List Gap)
    (member : event ∈ entry.pendingNotifications ∨ event ∈ entry.replayEvents)
    (known : event ∈ entry.replayEvents ∨ Put event state.channels ∨ (entry.honouredId lastEventId =
      none ∧ Ascending entry.pendingNotifications)) :
    Held event (state.setSseSender entry now capacity lastEventId gaps) ∨
      Put event (state.setSseSender entry now capacity lastEventId gaps).channels := by
  unfold System.setSseSender
  generalize entry.honouredId lastEventId = seen at known ⊢
  have served := sendReplayEvents_served (entry.attach now state.channels.length)
    (Channel.new capacity) seen now gaps
  obtain ⟨split, content⟩ := sendAll_split (Channel.new capacity) gaps (entry.replayFor seen)
  rcases known with replayed | ⟨channel, attached, sent⟩ | ⟨rfl, ascending⟩
  · exact Or.inl ⟨_, rfl, Or.inr (served.replay ▸ replayed)⟩
  · exact Or.inr ⟨channel, List.mem_append_left _ attached, sent⟩
  · rcases member with queued | replayed
    · have whole : event ∈ entry.replayFor none := queued
      rw [← split] at whole
      cases List.mem_append.mp whole with
      | inl taken =>
        refine Or.inr ⟨_, List.mem_append_right _ (List.mem_singleton_self _), ?_⟩
        exact content ▸ List.mem_append_right _ taken
      | inr unsent =>
        refine Or.inl ⟨_, rfl, Or.inl ?_⟩
        have ordered : Ascending (entry.replayFor none) := ascending
        rw [← split] at ordered
        exact served.pending ▸ List.mem_filter.mpr ⟨unsent, unsent_queued ordered unsent⟩
    · exact Or.inl ⟨_, rfl, Or.inr (served.replay ▸ replayed)⟩

/-- An event stays in the buffers unless it may leave them. -/
theorem step_held {state next : System} {act : Act} (keeps : keepsEvents state act = true)
    (held : Held event state) (stepped : step state act = some next) :
    Held event next ∨ Put event next.channels ∨ evicts state event act = true ∨
      withdraws event act = true := by
  obtain ⟨entry, present, member⟩ := held
  cases act with
  | opened now reopened => simp [step, present] at stepped
  | remove => exact Or.inr (Or.inr (Or.inr rfl))
  | send now message allowed =>
    simp only [step] at stepped
    split at stepped
    · rename_i found sendable
      obtain rfl : entry = found :=
        Option.some.inj (present.symm.trans (sendable_session sendable))
      cases stepped
      obtain ⟨after, session, replay, pending⟩ := beginSend_session state entry now message
      cases member with
      | inl queued => exact Or.inl ⟨after, session, Or.inl (pending ▸ queued)⟩
      | inr replayed =>
        cases mem_push_or_oldest replayed with
        | inl kept => exact Or.inl ⟨after, session, Or.inr (replay ▸ kept)⟩
        | inr oldest => exact Or.inr (Or.inr (Or.inl (by simp [evicts, present, oldest])))
    · cases stepped
      exact Or.inl ⟨entry, present, member⟩
  | broadcast now message allowed admitted =>
    simp only [step] at stepped
    split at stepped
    · rename_i found sendable
      obtain rfl : entry = found :=
        Option.some.inj (present.symm.trans (sendable_session sendable))
      cases stepped
      cases admitted with
      | false => exact Or.inl ⟨entry, present, member⟩
      | true =>
        obtain ⟨after, session, replay, pending⟩ := broadcast_session state entry now message
        cases member with
        | inl queued =>
          cases mem_kept_or_oldest pending queued with
          | inl kept => exact Or.inl ⟨after, session, Or.inl kept⟩
          | inr oldest => exact Or.inr (Or.inr (Or.inl (by simp [evicts, present, oldest])))
        | inr replayed =>
          cases mem_push_or_oldest replayed with
          | inl kept => exact Or.inl ⟨after, session, Or.inr (replay ▸ kept)⟩
          | inr oldest => exact Or.inr (Or.inr (Or.inl (by simp [evicts, present, oldest])))
    · cases stepped
      exact Or.inl ⟨entry, present, member⟩
  | finish index now =>
    simp only [step, present] at stepped
    split at stepped
    · rename_i sending found
      cases stepped
      obtain ⟨replay, pending⟩ := (finishSend_finished entry state.channels sending now).session
      cases member with
      | inl queued =>
        cases mem_kept_or_oldest pending queued with
        | inl kept => exact Or.inl ⟨_, rfl, Or.inl kept⟩
        | inr oldest => exact Or.inr (Or.inr (Or.inl (by simp [evicts, present, oldest])))
      | inr replayed => exact Or.inl ⟨_, rfl, Or.inr (replay ▸ replayed)⟩
    · cases stepped
  | setSseSender now capacity lastEventId gaps =>
    simp only [step, present] at stepped
    cases stepped
    have known : event ∈ entry.replayEvents ∨ Put event state.channels ∨
        (entry.honouredId lastEventId = none ∧ Ascending entry.pendingNotifications) := by
      cases member with
      | inl queued =>
        simp only [keepsEvents, present, Option.all_some, Bool.or_eq_true, List.all_eq_true,
          Bool.and_eq_true, decide_eq_true_eq, Option.isNone_iff_eq_none] at keeps
        cases keeps with
        | inl all =>
          cases all event queued with
          | inl replayed => exact Or.inl replayed
          | inr sent => exact Or.inr (Or.inl sent)
        | inr ordered => exact Or.inr (Or.inr ordered)
      | inr replayed => exact Or.inl replayed
    cases setSseSender_held now capacity lastEventId gaps member known with
    | inl kept => exact Or.inl kept
    | inr sent => exact Or.inr (Or.inl sent)
  | removeReplayEventsByKey key =>
    cases stepped
    by_cases own : event.message.replayKey = some key
    · exact Or.inr (Or.inr (Or.inr (decide_eq_true own)))
    · refine Or.inl ⟨entry.removeReplayEventsByKey key, by simp [present], ?_⟩
      cases member with
      | inl queued => exact Or.inl (List.mem_filter.mpr ⟨queued, decide_eq_true own⟩)
      | inr replayed => exact Or.inr (List.mem_filter.mpr ⟨replayed, decide_eq_true own⟩)
  | receive channel count =>
    cases stepped
    exact Or.inl ⟨entry, present, member⟩
  | close channel =>
    cases stepped
    exact Or.inl ⟨entry, present, member⟩

/-- Whatever is done to the session after it accepted an event, if streams are attached as
`keepsEvents` says, the event is in the queue or in the replay buffer, or it was put on a
channel, or some step dropped it as the oldest of a buffer at its limit, or withdrew it. -/
theorem no_event_lost (state next final : System) (act : Act) (event : SseEvent)
    (after : List Act) (accepts : accepted state act = some event)
    (stepped : step state act = some next) (continued : Runs.exec step next after = some final)
    (keeps : Runs.Admitted step (fun state act => keepsEvents state act = true) next after) :
    Held event final ∨ Put event next.channels ∨
      Runs.Occurs step (Released event) next after := by
  have stays := Runs.exec_unless step (fun state act => keepsEvents state act = true)
    (Held event) (Released event) (by
      intro state act next keeps held stepped
      rcases step_held keeps held stepped with kept | sent | limit | withdrawn
      · exact Or.inl kept
      · exact Or.inr (Or.inl sent)
      · by_cases kept : Held event next
        · exact Or.inl kept
        · exact Or.inr (Or.inr (Or.inl ⟨limit, kept⟩))
      · exact Or.inr (Or.inr (Or.inr withdrawn)))
    after next final (accepted_held accepts stepped) keeps continued
  cases stays with
  | inl held => exact Or.inl held
  | inr occurs => exact Or.inr (Or.inr occurs)

/-- A session that is open, without a stream. -/
def openSession : System := { System.new 10 with session := some (.new 0 false) }

def firstSend : System := openSession.beginSend (.new 0 false) 0 sampleMessage

/-- The second phase of the send finds a stream that is full. Later events get through, and the
client comes back for what it has not seen. -/
def strandedEvent (later : Nat) : List Act :=
  ([.setSseSender 0 1 none [], .send 0 sampleMessage true, .finish 0 0] : List Act) ++
    (List.replicate later [Act.receive 0 1, .send 0 sampleMessage true]).flatten ++
    ([.setSseSender 0 8 (some (later + 2)) []] : List Act)

/-- The replay buffer still has the event. -/
theorem no_event_lost_stranded : ∃ final,
    Runs.exec step firstSend (strandedEvent 2) = some final ∧
    (Held ⟨1, sampleMessage⟩ final ∨ Put ⟨1, sampleMessage⟩ firstSend.channels ∨
      Runs.Occurs step (Released ⟨1, sampleMessage⟩) firstSend (strandedEvent 2)) := by
  refine ⟨_, rfl, ?_⟩
  exact no_event_lost openSession firstSend _ (.send 0 sampleMessage true) ⟨1, sampleMessage⟩
    (strandedEvent 2) rfl rfl rfl (by decide)

theorem exec_stranded : (Runs.exec step firstSend (strandedEvent 128)).isSome = true := by
  decide +kernel

/-- The replay buffer has it no longer, and the cleanup drops it. -/
theorem stranded_event_lost : ∃ final,
    accepted openSession (.send 0 sampleMessage true) = some ⟨1, sampleMessage⟩ ∧
    step openSession (.send 0 sampleMessage true) = some firstSend ∧
    Runs.exec step firstSend (strandedEvent 128) = some final ∧
    ¬ (Held ⟨1, sampleMessage⟩ final ∨ Put ⟨1, sampleMessage⟩ firstSend.channels ∨
      Runs.Occurs step (Released ⟨1, sampleMessage⟩) firstSend (strandedEvent 128)) := by
  refine ⟨_, rfl, rfl, (Option.some_get exec_stranded).symm, ?_⟩
  decide +kernel

end Plug.Sse
