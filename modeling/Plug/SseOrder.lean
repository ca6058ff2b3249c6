import Plug.SseSessions
import Plug.Runs

/-!
# The order of events on a stream

Events are put on a stream as they are numbered, from the queue of those that no stream took,
or from the replay buffer. Each of these is in order. Two steps mix them: the second phase of
a send, whose event may have been overtaken since it was numbered, and a replay that breaks
off, whose event is queued once more.
-/

namespace Plug.Sse

def Ascending (events : List SseEvent) : Prop :=
  events.Pairwise fun event later => event.id < later.id

def Below (bound : Nat) (events : List SseEvent) : Prop :=
  ∀ event ∈ events, event.id < bound

/-! ### Channels -/

variable {event : SseEvent} {channels : List Channel} {sender now : Nat} {entry : SessionState}
  {state : System}

theorem trySend_sent {channel after : Channel} (sent : channel.trySend event = some after) :
    after.sent = channel.sent ++ [event] := by
  unfold Channel.trySend at sent
  split at sent
  · cases sent
    rfl
  · cases sent

theorem during_sent (channel : Channel) (gap : Gap) : (channel.during gap).sent = channel.sent := by
  unfold Channel.during
  dsimp only
  split <;> rfl

theorem trySendOn_sent {after : List Channel}
    (sent : trySendOn channels sender event = some after) :
    ∃ channel taken, channels[sender]? = some channel ∧ taken.sent = channel.sent ++ [event] ∧
      after = channels.set sender taken := by
  obtain ⟨channel, found, tried⟩ := Option.bind_eq_some_iff.mp sent
  obtain ⟨taken, accepted, rfl⟩ := Option.map_eq_some_iff.mp tried
  exact ⟨channel, taken, found, trySend_sent accepted, rfl⟩

/-- The events that are served are taken from the front. -/
theorem sendAll_split (channel : Channel) (gaps : List Gap) (events : List SseEvent) :
    (sendAll channel gaps events).1 ++ (sendAll channel gaps events).2.1 = events ∧
    (sendAll channel gaps events).2.2.sent = channel.sent ++ (sendAll channel gaps events).1 := by
  induction events generalizing channel gaps with
  | nil => simp [sendAll]
  | cons event rest ih =>
    have kept : ((gaps.head?.map channel.during).getD channel).sent = channel.sent := by
      cases gaps with
      | nil => rfl
      | cons gap others => exact during_sent channel gap
    rw [sendAll]
    dsimp only
    cases tried : ((gaps.head?.map channel.during).getD channel).trySend event with
    | none => exact ⟨rfl, by simpa using kept⟩
    | some after =>
      obtain ⟨split, sent⟩ := ih after gaps.tail
      refine ⟨congrArg (List.cons event) split, ?_⟩
      dsimp only
      rw [sent, trySend_sent tried, kept, List.append_assoc, List.singleton_append]

/-! ### What is kept in order -/

/-- The queues of a session are in order, and everything it has, or has put on its stream, was
numbered before its next event. -/
structure Ordered (channels : List Channel) (entry : SessionState) : Prop where
  pending : Ascending entry.pendingNotifications
  replay : Ascending entry.replayEvents
  pendingBelow : Below entry.nextEventId entry.pendingNotifications
  replayBelow : Below entry.nextEventId entry.replayEvents
  sentBelow : ∀ sender channel, entry.sseSender = some sender →
    channels[sender]? = some channel → Below entry.nextEventId channel.sent

theorem Ordered.touch (ordered : Ordered channels entry) (now : Nat) :
    Ordered channels (entry.touch now) :=
  ⟨ordered.pending, ordered.replay, ordered.pendingBelow, ordered.replayBelow, ordered.sentBelow⟩

theorem Ordered.clearSender (ordered : Ordered channels entry) :
    Ordered channels entry.clearSender :=
  ⟨ordered.pending, ordered.replay, ordered.pendingBelow, ordered.replayBelow, nofun⟩

theorem Ordered.enqueuePending (ordered : Ordered channels entry)
    (numbered : event.id < entry.nextEventId) (newest : Below event.id entry.pendingNotifications) :
    Ordered channels (entry.enqueuePending event) := by
  refine ⟨Queues.pairwise_push ordered.pending newest, ordered.replay, ?_, ordered.replayBelow,
    ordered.sentBelow⟩
  intro other member
  rcases Queues.mem_of_mem_push member with earlier | rfl
  · exact ordered.pendingBelow other earlier
  · exact numbered

/-- An event is numbered after everything else. -/
theorem Ordered.nextEvent (ordered : Ordered channels entry) (left : entry.nextEventId < maxEventId)
    (message : SseMessage) : Ordered channels (entry.nextEvent message).2 := by
  have bound : min (entry.nextEventId + 1) maxEventId = entry.nextEventId + 1 := by omega
  have later : ∀ {events : List SseEvent}, Below entry.nextEventId events →
      Below (entry.nextEventId + 1) events := by
    intro events below event member
    exact Nat.lt_succ_of_lt (below event member)
  constructor
  · exact ordered.pending
  · exact Queues.pairwise_push ordered.replay ordered.replayBelow
  · dsimp only [SessionState.nextEvent, SessionState.enqueueReplay]
    rw [bound]
    exact later ordered.pendingBelow
  · dsimp only [SessionState.nextEvent, SessionState.enqueueReplay]
    rw [bound]
    intro event member
    rcases Queues.mem_of_mem_push member with earlier | rfl
    · exact later ordered.replayBelow event earlier
    · exact Nat.lt_succ_self _
  · intro sender channel attached found
    dsimp only [SessionState.nextEvent, SessionState.enqueueReplay]
    rw [bound]
    exact later (ordered.sentBelow sender channel attached found)

/-- A stream takes an event of the session. -/
theorem Ordered.sent {after : List Channel} (ordered : Ordered channels entry)
    (numbered : event.id < entry.nextEventId) (attached : entry.sseSender = some sender)
    (sent : trySendOn channels sender event = some after) : Ordered after entry := by
  refine ⟨ordered.pending, ordered.replay, ordered.pendingBelow, ordered.replayBelow, ?_⟩
  intro other channel same found
  obtain rfl : sender = other := Option.some.inj (attached.symm.trans same)
  obtain ⟨former, taken, present, content, rfl⟩ := trySendOn_sent sent
  rw [Runs.getElem?_set_found present, if_pos rfl] at found
  cases found
  rw [content]
  intro put member
  cases List.mem_append.mp member with
  | inl earlier => exact ordered.sentBelow sender former attached present put earlier
  | inr last =>
    rw [List.mem_singleton.mp last]
    exact numbered

theorem channels_sent {after : List Channel}
    (ascending : ∀ channel ∈ channels, Ascending channel.sent)
    (newest : ∀ channel, channels[sender]? = some channel → Below event.id channel.sent)
    (sent : trySendOn channels sender event = some after) :
    ∀ channel ∈ after, Ascending channel.sent := by
  obtain ⟨former, taken, present, content, rfl⟩ := trySendOn_sent sent
  intro channel member
  rcases List.mem_or_eq_of_mem_set member with earlier | rfl
  · exact ascending channel earlier
  · rw [content, Ascending, List.pairwise_append]
    refine ⟨ascending former (List.mem_of_getElem? present), List.pairwise_singleton _ _, ?_⟩
    intro put earlier last same
    rw [List.mem_singleton.mp same]
    exact newest former present put earlier

/-! ### Steps -/

structure InOrder (state : System) : Prop where
  channels : ∀ channel ∈ state.channels, Ascending channel.sent
  session : ∀ entry, state.session = some entry → Ordered state.channels entry

/-- What the event of a send is put behind when the send is finished. -/
def SessionState.joined (entry : SessionState) (channels : List Channel) (sending : Sending) :
    List SseEvent :=
  match entry.sseSender with
  | some sender =>
    if sending.failedSender = some sender ∨ trySendOn channels sender sending.event = none then
      entry.pendingNotifications
    else ((channels[sender]?).map Channel.sent).getD []
  | none => entry.pendingNotifications

/-- The ids have not run out; an event whose send is finished is newer than those it is put
behind; and the event at which a replay breaks off is newer than those that are queued. -/
def keepsOrder (state : System) : Act → Bool
  | .send now _ allowed =>
    (state.sendable now allowed).all fun entry => decide (entry.nextEventId < maxEventId)
  | .broadcast now _ allowed admitted =>
    !admitted ||
      (state.sendable now allowed).all fun entry => decide (entry.nextEventId < maxEventId)
  | .finish index _ =>
    (state.sends[index]?).all fun sending =>
      state.session.all fun entry =>
        decide (sending.event.id < entry.nextEventId) &&
          (entry.joined state.channels sending).all fun event =>
            decide (event.id < sending.event.id)
  | .setSseSender _ capacity lastEventId gaps =>
    state.session.all fun entry =>
      (entry.honouredId lastEventId).all fun seen =>
        ((sendAll (Channel.new capacity) gaps (entry.replayFor (some seen))).2.1.head?).all
          fun failed => entry.pendingNotifications.all fun event => decide (event.id < failed.id)
  | _ => true

theorem sendable_session {allowed : Bool} (sendable : state.sendable now allowed = some entry) :
    state.session = some entry :=
  (Option.filter_eq_some_iff.mp sendable).1

theorem InOrder.replace (inOrder : InOrder state) {after : SessionState}
    (ordered : Ordered state.channels after) (sends : List Sending) :
    InOrder { state with
      session := some after
      sends := sends } := by
  constructor
  · exact inOrder.channels
  · rintro _ ⟨⟩
    exact ordered

theorem nextEvent_numbered (left : entry.nextEventId < maxEventId) (message : SseMessage) :
    (entry.nextEvent message).1.id < (entry.nextEvent message).2.nextEventId := by
  show entry.nextEventId < min (entry.nextEventId + 1) maxEventId
  omega

/-- The stream takes an event that was just numbered. -/
theorem InOrder.delivered (inOrder : InOrder state) (present : state.session = some entry)
    (left : entry.nextEventId < maxEventId) (now : Nat) {message : SseMessage}
    (attached : entry.sseSender = some sender)
    (sent : trySendOn state.channels sender (entry.nextEvent message).1 = some channels) :
    InOrder { state with
      session := some ((entry.nextEvent message).2.touch now)
      channels := channels } := by
  have before := inOrder.session entry present
  have ordered := before.nextEvent left message
  constructor
  · exact channels_sent inOrder.channels (before.sentBelow sender · attached) sent
  · rintro _ ⟨⟩
    exact (ordered.sent (nextEvent_numbered left message) attached sent).touch now

theorem InOrder.beginSend (inOrder : InOrder state) (present : state.session = some entry)
    (left : entry.nextEventId < maxEventId) (now : Nat) (message : SseMessage) :
    InOrder (state.beginSend entry now message) := by
  have ordered := (inOrder.session entry present).nextEvent left message
  unfold System.beginSend
  dsimp only
  split
  · rename_i sender attached
    split
    · rename_i channels sent
      exact inOrder.delivered present left now attached sent
    · exact inOrder.replace ordered _
  · exact inOrder.replace ordered _

theorem InOrder.broadcast (inOrder : InOrder state) (present : state.session = some entry)
    (left : entry.nextEventId < maxEventId) (now : Nat) (message : SseMessage) :
    InOrder (state.broadcast entry now message) := by
  have before := inOrder.session entry present
  have ordered := before.nextEvent left message
  have numbered := nextEvent_numbered left message
  unfold System.broadcast
  dsimp only
  split
  · rename_i sender attached
    split
    · rename_i channels sent
      exact inOrder.delivered present left now attached sent
    · apply inOrder.replace
      exact ordered.clearSender.enqueuePending numbered before.pendingBelow
  · apply inOrder.replace
    exact ordered.enqueuePending numbered before.pendingBelow

/-- How a send is finished. -/
inductive Finished (entry : SessionState) (channels : List Channel) (sending : Sending)
    (now : Nat) : SessionState × List Channel → Prop where
  | sent (sender : Nat) (after : List Channel) (attached : entry.sseSender = some sender)
      (accepted : trySendOn channels sender sending.event = some after)
      (joins : entry.joined channels sending = ((channels[sender]?).map Channel.sent).getD []) :
      Finished entry channels sending now (entry.touch now, after)
  | queued (kept : SessionState) (same : kept = entry ∨ kept = entry.clearSender)
      (joins : entry.joined channels sending = entry.pendingNotifications) :
      Finished entry channels sending now (kept.enqueuePending sending.event, channels)

theorem enqueueOrDeliverRacy_finished {sending : Sending}
    (other : sending.failedSender = none ∨ entry.sseSender ≠ sending.failedSender) :
    Finished entry channels sending now
      (entry.enqueueOrDeliverRacy channels sending.event now).2 := by
  unfold SessionState.enqueueOrDeliverRacy
  split
  · rename_i sender attached
    have untried : sending.failedSender ≠ some sender := by
      cases other with
      | inl none =>
        rw [none]
        nofun
      | inr differs =>
        rw [← attached]
        exact differs.symm
    split
    · rename_i after accepted
      refine .sent sender after attached accepted ?_
      simp [SessionState.joined, attached, untried, accepted]
    · rename_i refused
      refine .queued entry (Or.inl rfl) ?_
      simp [SessionState.joined, attached, refused]
  · rename_i detached
    refine .queued entry (Or.inl rfl) ?_
    simp [SessionState.joined, detached]

theorem finishSend_finished (entry : SessionState) (channels : List Channel) (sending : Sending)
    (now : Nat) : Finished entry channels sending now (entry.finishSend channels sending now) := by
  unfold SessionState.finishSend
  split
  · rename_i failedSender failed
    unfold SessionState.clearSenderIfMatching
    split
    · rename_i same
      refine .queued entry.clearSender (Or.inr rfl) ?_
      simp [SessionState.joined, same, failed]
    · rename_i differs
      refine enqueueOrDeliverRacy_finished (Or.inr ?_)
      rw [failed]
      exact differs
  · rename_i none
    exact enqueueOrDeliverRacy_finished (Or.inl none)

theorem InOrder.finish (inOrder : InOrder state) (present : state.session = some entry)
    {sending : Sending} (numbered : sending.event.id < entry.nextEventId)
    (newest : Below sending.event.id (entry.joined state.channels sending))
    {result : SessionState × List Channel}
    (finished : Finished entry state.channels sending now result) (sends : List Sending) :
    InOrder { state with
      sends := sends
      session := some result.1
      channels := result.2 } := by
  have before := inOrder.session entry present
  cases finished with
  | sent sender after attached accepted joins =>
    constructor
    · refine channels_sent inOrder.channels ?_ accepted
      intro channel found
      simpa [joins, found] using newest
    · rintro _ ⟨⟩
      exact (before.sent numbered attached accepted).touch now
  | queued kept same joins =>
    rw [joins] at newest
    apply inOrder.replace
    cases same with
    | inl same =>
      subst same
      exact before.enqueuePending numbered newest
    | inr cleared =>
      subst cleared
      exact before.clearSender.enqueuePending numbered newest

/-! ### Attaching a stream -/

/-- What is queued after a stream was served, before the cleanup. -/
def SessionState.unserved (entry : SessionState) (lastEventId : Option Nat)
    (unsent : List SseEvent) : List SseEvent :=
  match lastEventId, unsent with
  | none, unsent => unsent
  | some _, [] => entry.pendingNotifications
  | some _, failed :: _ => Queues.push pendingLimit entry.pendingNotifications failed

/-- What is left of a session when a stream took the events `sent` and not the others. -/
structure Served (entry : SessionState) (lastEventId : Option Nat) (sent unsent : List SseEvent)
    (after : SessionState) : Prop where
  replay : after.replayEvents = entry.replayEvents
  nextEventId : after.nextEventId = entry.nextEventId
  sender : after.sseSender = entry.sseSender ∨ after.sseSender = none
  pending : after.pendingNotifications =
    (entry.unserved lastEventId unsent).filter fun event =>
      (sentThrough lastEventId sent).all fun id => decide (id < event.id)

theorem stopped_served (entry : SessionState) (lastEventId : Option Nat) (now : Nat)
    (sent unsent : List SseEvent) :
    (entry.stopped lastEventId now sent unsent).replayEvents = entry.replayEvents ∧
    (entry.stopped lastEventId now sent unsent).nextEventId = entry.nextEventId ∧
    ((entry.stopped lastEventId now sent unsent).sseSender = entry.sseSender ∨
      (entry.stopped lastEventId now sent unsent).sseSender = none) ∧
    (entry.stopped lastEventId now sent unsent).pendingNotifications =
      entry.unserved lastEventId unsent := by
  cases sent with
  | nil =>
    cases lastEventId with
    | none => cases unsent <;> simp [SessionState.stopped, SessionState.unserved,
        SessionState.requeueFront, SessionState.clearSender]
    | some seen => cases unsent <;> simp [SessionState.stopped, SessionState.unserved,
        SessionState.enqueuePending, SessionState.clearSender]
  | cons first others =>
    cases lastEventId with
    | none => cases unsent <;> simp [SessionState.stopped, SessionState.unserved,
        SessionState.requeueFront, SessionState.clearSender, SessionState.touch]
    | some seen => cases unsent <;> simp [SessionState.stopped, SessionState.unserved,
        SessionState.enqueuePending, SessionState.clearSender, SessionState.touch]

theorem sendReplayEvents_served (entry : SessionState) (channel : Channel)
    (lastEventId : Option Nat) (now : Nat) (gaps : List Gap) :
    Served entry lastEventId (sendAll channel gaps (entry.replayFor lastEventId)).1
      (sendAll channel gaps (entry.replayFor lastEventId)).2.1
      (entry.sendReplayEvents channel lastEventId now gaps).1 := by
  unfold SessionState.sendReplayEvents
  generalize sendAll channel gaps (entry.replayFor lastEventId) = parts
  obtain ⟨sent, unsent, last⟩ := parts
  obtain ⟨replay, nextEventId, sender, pending⟩ := stopped_served entry lastEventId now sent unsent
  dsimp only [SessionState.cleaned]
  cases through : sentThrough lastEventId sent with
  | none => exact ⟨replay, nextEventId, sender, by simpa [through] using pending⟩
  | some sentId => exact ⟨replay, nextEventId, sender, by simp [through, pending]⟩

/-- Everything that may be served is in order. -/
theorem Ordered.replayFor (ordered : Ordered channels entry) (lastEventId : Option Nat) :
    Ascending (entry.replayFor lastEventId) ∧
      Below entry.nextEventId (entry.replayFor lastEventId) := by
  cases lastEventId with
  | none => exact ⟨ordered.pending, ordered.pendingBelow⟩
  | some seen =>
    refine ⟨ordered.replay.filter _, ?_⟩
    intro event member
    exact ordered.replayBelow event (List.mem_filter.mp member).1

/-- What is queued after a replay is in order, unless an event that it broke off at was
overtaken by a queued one. -/
theorem Ordered.unserved (ordered : Ordered channels entry) (lastEventId : Option Nat)
    {sent unsent : List SseEvent} (split : sent ++ unsent = entry.replayFor lastEventId)
    (newest : lastEventId ≠ none → ∀ failed, unsent.head? = some failed → Below failed.id
      entry.pendingNotifications) :
    Ascending (entry.unserved lastEventId unsent) ∧
      Below entry.nextEventId (entry.unserved lastEventId unsent) := by
  obtain ⟨ascending, below⟩ := ordered.replayFor lastEventId
  rw [← split] at ascending below
  cases lastEventId with
  | none =>
    refine ⟨(List.pairwise_append.mp ascending).2.1, ?_⟩
    intro event member
    exact below event (List.mem_append_right sent member)
  | some seen =>
    cases unsent with
    | nil => exact ⟨ordered.pending, ordered.pendingBelow⟩
    | cons failed rest =>
      refine ⟨Queues.pairwise_push ordered.pending (newest nofun failed rfl), ?_⟩
      intro event member
      rcases Queues.mem_of_mem_push member with earlier | rfl
      · exact ordered.pendingBelow event earlier
      · exact below event (by simp)

theorem Served.ordered {after : SessionState} {lastEventId : Option Nat}
    {sent unsent : List SseEvent} {channel : Channel}
    (served : Served (entry.attach now channels.length) lastEventId sent unsent after)
    (before : Ordered channels entry) (split : sent ++ unsent = entry.replayFor lastEventId)
    (content : channel.sent = sent)
    (newest : lastEventId ≠ none → ∀ failed, unsent.head? = some failed → Below failed.id
      entry.pendingNotifications) : Ordered (channels ++ [channel]) after := by
  have queued := before.unserved lastEventId split newest
  have below := (before.replayFor lastEventId).2
  rw [← split] at below
  constructor
  · rw [served.pending]
    exact queued.1.filter _
  · rw [served.replay]
    exact before.replay
  · rw [served.pending, served.nextEventId]
    intro event member
    exact queued.2 event (List.mem_filter.mp member).1
  · rw [served.replay, served.nextEventId]
    exact before.replayBelow
  · intro other found attached present
    rw [served.nextEventId]
    cases served.sender with
    | inl same =>
      obtain rfl : channels.length = other := Option.some.inj (same.symm.trans attached)
      rw [List.getElem?_concat_length] at present
      cases present
      intro event member
      exact below event (List.mem_append_left _ (content ▸ member))
    | inr none =>
      rw [none] at attached
      cases attached

theorem InOrder.setSseSender (inOrder : InOrder state) (present : state.session = some entry)
    (now capacity : Nat) (lastEventId : Option Nat) (gaps : List Gap)
    (newest : ∀ seen, entry.honouredId lastEventId = some seen → ∀ failed, (sendAll (Channel.new
      capacity) gaps (entry.replayFor (some seen))).2.1.head? = some failed → Below failed.id
      entry.pendingNotifications) :
    InOrder (state.setSseSender entry now capacity lastEventId gaps) := by
  have before := inOrder.session entry present
  unfold System.setSseSender
  generalize entry.honouredId lastEventId = seen at newest ⊢
  obtain ⟨split, sent⟩ := sendAll_split (Channel.new capacity) gaps (entry.replayFor seen)
  have served := sendReplayEvents_served (entry.attach now state.channels.length)
    (Channel.new capacity) seen now gaps
  have ascending := (before.replayFor seen).1
  rw [← split] at ascending
  constructor
  · intro channel member
    cases List.mem_append.mp member with
    | inl earlier => exact inOrder.channels channel earlier
    | inr last =>
      rw [List.mem_singleton.mp last]
      exact sent ▸ (List.pairwise_append.mp ascending).1
  · rintro _ ⟨⟩
    refine served.ordered before split sent ?_
    intro known failed refused
    obtain ⟨id, rfl⟩ := Option.ne_none_iff_exists'.mp known
    exact newest id rfl failed refused

/-! ### Runs -/

theorem InOrder.channels_kept (inOrder : InOrder state) (change : Channel → Channel)
    (kept : ∀ channel, (change channel).sent = channel.sent) (index : Nat) :
    InOrder { state with channels := state.channels.modify index change } := by
  constructor
  · intro channel member
    obtain ⟨place, found⟩ := List.getElem?_of_mem member
    rw [List.getElem?_modify] at found
    obtain ⟨former, present, rfl⟩ := Option.map_eq_some_iff.mp found
    have ascending := inOrder.channels former (List.mem_of_getElem? present)
    split
    · rw [kept]
      exact ascending
    · exact ascending
  · intro entry present
    have before := inOrder.session entry present
    refine ⟨before.pending, before.replay, before.pendingBelow, before.replayBelow, ?_⟩
    intro sender channel attached found
    rw [List.getElem?_modify] at found
    obtain ⟨former, present, rfl⟩ := Option.map_eq_some_iff.mp found
    have below := before.sentBelow sender former attached present
    split
    · rw [kept]
      exact below
    · exact below

theorem Ordered.removeReplayEventsByKey (ordered : Ordered channels entry) (key : SseReplayKey) :
    Ordered channels (entry.removeReplayEventsByKey key) := by
  refine ⟨ordered.pending.filter _, ordered.replay.filter _, ?_, ?_, ordered.sentBelow⟩
  · intro event member
    exact ordered.pendingBelow event (List.mem_filter.mp member).1
  · intro event member
    exact ordered.replayBelow event (List.mem_filter.mp member).1

theorem step_inOrder {next : System} {act : Act} (keeps : keepsOrder state act = true)
    (inOrder : InOrder state) (stepped : step state act = some next) : InOrder next := by
  cases act with
  | opened now reopened =>
    simp only [step] at stepped
    split at stepped
    · cases stepped
      refine ⟨inOrder.channels, ?_⟩
      rintro _ ⟨⟩
      exact ⟨.nil, .nil, nofun, nofun, nofun⟩
    · cases stepped
  | remove =>
    cases stepped
    exact ⟨inOrder.channels, nofun⟩
  | send now message allowed =>
    simp only [step] at stepped
    split at stepped
    · rename_i entry sendable
      cases stepped
      simp only [keepsOrder, sendable, Option.all_some, decide_eq_true_eq] at keeps
      exact inOrder.beginSend (sendable_session sendable) keeps now message
    · cases stepped
      exact inOrder
  | broadcast now message allowed admitted =>
    simp only [step] at stepped
    split at stepped
    · rename_i entry sendable
      cases stepped
      cases admitted with
      | false => exact inOrder
      | true =>
        simp only [keepsOrder, sendable, Option.all_some, decide_eq_true_eq, Bool.not_true,
          Bool.false_or] at keeps
        exact inOrder.broadcast (sendable_session sendable) keeps now message
    · cases stepped
      exact inOrder
  | finish index now =>
    simp only [step] at stepped
    split at stepped
    · rename_i sending found
      split at stepped
      · rename_i entry present
        cases stepped
        simp only [keepsOrder, found, present, Option.all_some, Bool.and_eq_true,
          decide_eq_true_eq, List.all_eq_true] at keeps
        exact inOrder.finish present keeps.1 keeps.2
          (finishSend_finished entry state.channels sending now) _
      · rename_i absent
        cases stepped
        exact ⟨inOrder.channels, inOrder.session⟩
    · cases stepped
  | setSseSender now capacity lastEventId gaps =>
    simp only [step] at stepped
    split at stepped
    · rename_i entry present
      cases stepped
      refine inOrder.setSseSender present now capacity lastEventId gaps ?_
      intro seen honoured failed refused event member
      simp only [keepsOrder, present, honoured, refused, Option.all_some, List.all_eq_true,
        decide_eq_true_eq] at keeps
      exact keeps event member
    · cases stepped
  | removeReplayEventsByKey key =>
    cases stepped
    refine ⟨inOrder.channels, ?_⟩
    intro after present
    obtain ⟨entry, found, rfl⟩ := Option.map_eq_some_iff.mp present
    exact (inOrder.session entry found).removeReplayEventsByKey key
  | receive channel count =>
    cases stepped
    exact inOrder.channels_kept (fun found => found.receive count) (fun _ => rfl) channel
  | close channel =>
    cases stepped
    exact inOrder.channels_kept Channel.close (fun _ => rfl) channel

/-- In every run whose steps keep the order, the ids of the events put on each channel
increase. -/
theorem stream_ids_increase (timeout : Nat) (trace : List Act) (state : System)
    (keeps : Runs.Admitted step (fun state act => keepsOrder state act = true)
      (System.new timeout) trace)
    (ran : Runs.exec step (System.new timeout) trace = some state) :
    ∀ channel ∈ state.channels,
      channel.sent.Pairwise fun event later => event.id < later.id := by
  have inOrder : InOrder state := by
    refine Runs.exec_invariant step (fun state act => keepsOrder state act = true) InOrder ?_
      trace (System.new timeout) state ?_ keeps ran
    · intro state act next keeps inOrder stepped
      exact step_inOrder keeps inOrder stepped
    · exact ⟨nofun, nofun⟩
  exact inOrder.channels

def sampleMessage : SseMessage := ⟨"changed", none⟩

/-- An event is queued and sent, another is refused by a stream that was closed, and a client
comes back for what it did not see. -/
def returningClient : List Act :=
  [.opened 0 false, .broadcast 0 sampleMessage true true, .setSseSender 0 8 none [],
    .send 1 sampleMessage true, .close 0, .send 2 sampleMessage true, .finish 0 2,
    .setSseSender 3 8 (some 1) [], .send 4 sampleMessage true]

theorem stream_ids_increase_returning : ∃ state,
    Runs.exec step (System.new 10) returningClient = some state ∧
    state.channels.map (fun channel => channel.sent.map SseEvent.id) = [[1, 2], [2, 3, 4]] ∧
    ∀ channel ∈ state.channels,
      channel.sent.Pairwise fun event later => event.id < later.id := by
  refine ⟨_, rfl, by decide, ?_⟩
  exact stream_ids_increase 10 returningClient _ (by decide) rfl

/-- A replay that breaks off at an event that is queued queues it again, and the next stream is
served both. -/
def brokenReplay : List Act :=
  [.opened 0 false, .broadcast 0 sampleMessage true true, .broadcast 0 sampleMessage true true,
    .setSseSender 0 1 (some 0) [], .setSseSender 1 8 none []]

/-- A stream that comes in between the phases of a send is served the event from the replay
buffer, and the send then puts it on the stream. -/
def overtakenSend : List Act :=
  [.opened 0 false, .send 0 sampleMessage true, .setSseSender 0 8 (some 0) [], .finish 0 0]

theorem stream_repeats_event :
    (∃ state, Runs.exec step (System.new 10) brokenReplay = some state ∧
      state.channels.map (fun channel => channel.sent.map SseEvent.id) = [[1], [2, 2]] ∧
      ¬ ∀ channel ∈ state.channels,
        channel.sent.Pairwise fun event later => event.id < later.id) ∧
    ∃ state, Runs.exec step (System.new 10) overtakenSend = some state ∧
      state.channels.map (fun channel => channel.sent.map SseEvent.id) = [[1, 1]] ∧
      ¬ ∀ channel ∈ state.channels,
        channel.sent.Pairwise fun event later => event.id < later.id :=
  ⟨⟨_, rfl, by decide, by decide⟩, _, rfl, by decide, by decide⟩

end Plug.Sse
