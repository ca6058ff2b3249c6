import Plug.DaemonRouting

/-!
# Runs of a connection

What a connection has read, answered and handed over, after any run with a proxy that answers
reverse requests in one of the two ways.
-/

namespace Plug.Daemon

open Connection

variable {Content Result Body : Type} {serde : Serde Content Result} {authToken : String}
  {style : Replies} {state next : Connection Content Result Body}

structure Invariant (serde : Serde Content Result) (style : Replies)
    (state : Connection Content Result Body) : Prop where
  accounts : state.phase ≠ .ended → Accounts serde [] state
  routed : Routed serde style state
  heard : state.replies = state.read.filter (isReply serde)

theorem Invariant.start : Invariant serde style ({} : Connection Content Result Body) := by
  refine ⟨fun _ => ?_, ?_, rfl⟩
  · exact ⟨fun _ => rfl, rfl, List.suffix_refl _, fun _ _ member => absurd member List.not_mem_nil,
      fun _ member => absurd member List.not_mem_nil,
      fun _ member => absurd member List.not_mem_nil, List.nodup_nil⟩
  · exact ⟨List.Pairwise.nil, fun _ member => absurd member List.not_mem_nil,
      List.Sublist.refl _, fun _ => ⟨Nat.le_refl _, rfl⟩,
      fun _ member => absurd member List.not_mem_nil,
      fun _ member => absurd member List.not_mem_nil, List.nodup_nil, List.nodup_nil,
      fun _ member => absurd member List.not_mem_nil⟩

/-! ### What a frame does -/

theorem Invariant.reply {frame : Frame Content} {id : Nat} (invariant : Invariant serde style state)
    (reply : isReply serde frame = true) (meant : MeantFor style state frame id) :
    Invariant serde style ((state.reads frame).deliverReverseReply serde id frame) := by
  obtain ⟨accounts, routed, heard⟩ := invariant
  have reading : Routed serde style (state.reads frame) :=
    routed.same rfl (List.Sublist.refl _)
  refine ⟨fun live => ?_, reading.deliver ?_, ?_⟩
  · exact (accounts live).reply reply rfl rfl
  · cases style <;> exact meant
  · change state.replies ++ [frame] = (state.read ++ [frame]).filter (isReply serde)
    rw [List.filter_append, heard, List.filter_singleton, reply, cond_true]

theorem handleFrame_read {frame : Frame Content} (request : isReply serde frame = false)
    (authToken : String) (state : Connection Content Result Body) (number : Nat) :
    (state.handleFrame serde authToken number frame).read = state.read ∧
      (state.handleFrame serde authToken number frame).replies = state.replies := by
  rw [Connection.handleFrame, reverseReplyTarget_request request]
  dsimp only
  cases parsed : parseRequest serde frame with
  | none => exact ⟨rfl, rfl⟩
  | some given =>
    dsimp only
    cases refused : (authorize authToken given : Option (IpcResponse Body)) with
    | some refusal => exact ⟨rfl, rfl⟩
    | none =>
      cases tag : frame.ids.ipcId with
      | none => exact ⟨rfl, rfl⟩
      | some id =>
        dsimp only [Connection.handleRequest]
        split
        · split <;> exact ⟨rfl, rfl⟩
        · exact ⟨rfl, rfl⟩

/-- A request in hand. -/
theorem Invariant.request {number : Nat} {frame : Frame Content}
    (accounts : Accounts serde [⟨number, frame.ids.ipcId⟩] state)
    (routed : Routed serde style state) (idle : state.phase = .idle)
    (heard : state.replies = state.read.filter (isReply serde))
    (request : isReply serde frame = false) :
    Invariant serde style (state.handleFrame serde authToken number frame) := by
  obtain ⟨read, replies⟩ := handleFrame_read request authToken state number
  refine ⟨fun live => ?_, routed.handleFrame idle request, ?_⟩
  · obtain finished | kept := accounts.handleFrame authToken idle request
    · exact absurd finished live
    · exact kept
  · rw [read, replies]
    exact heard

/-- The end of the stream waits behind the frames. -/
theorem Accounts.mark {number : Nat} {ipcId : Option Nat} {kind : RequestKind}
    {reverseRx : Option (List Nat)} {item : Received Content} (accounts : Accounts serde [] state)
    (phase : state.phase.tickets = [⟨number, ipcId⟩]) (unnumbered : item.ticket = none) :
    Accounts serde [] { state with
      phase := .dispatching number ipcId kind reverseRx false
      deferred := state.deferred ++ [item] } := by
  obtain ⟨counted, untagged, last, requests, tagged, fresh, distinct⟩ := accounts
  have waiting : (state.deferred ++ [item]).filterMap Received.ticket = state.waiting := by
    rw [List.filterMap_append, List.filterMap_cons_none unnumbered]
    exact List.append_nil _
  rw [phase] at counted untagged
  refine ⟨?_, ?_, ?_, ?_, tagged, fresh, distinct⟩
  · intro ticket
    have before := counted ticket
    rw [← waiting] at before
    exact before
  · rw [← waiting] at untagged
    exact untagged
  · rw [← waiting] at last
    exact last
  · intro other frame member
    obtain earlier | new := List.mem_append.mp member
    · exact requests other frame earlier
    · rw [← List.mem_singleton.mp new] at unnumbered
      cases unnumbered

/-! ### Steps -/

theorem Invariant.close (invariant : Invariant serde style state) :
    Invariant serde style state.close :=
  ⟨fun live => absurd rfl live, invariant.routed.close, invariant.heard⟩

theorem step_receive {input : Input Content} (invariant : Invariant serde style state)
    (conforms : Conforms serde style state (.receive input : Act Content Body))
    (stepped : step serde authToken state (.receive input) = some next) :
    Invariant serde style next := by
  dsimp only [step] at stepped
  cases phase : state.phase with
  | ended =>
    rw [phase] at stepped
    cases stepped
  | idle =>
    rw [phase] at stepped
    dsimp only at stepped
    have live : state.phase ≠ .ended := by rw [phase]; exact Phase.noConfusion
    by_cases empty : state.deferred.isEmpty = true
    · rw [if_pos empty] at stepped
      cases input with
      | frame frame =>
        cases stepped
        by_cases reply : isReply serde frame = true
        · obtain ⟨id, target, meant⟩ := target_meant invariant.routed conforms reply
          rw [Connection.handleFrame, Connection.reads, target]
          exact invariant.reply reply meant
        · rw [Bool.not_eq_true] at reply
          have accounts := (invariant.accounts live).receive (List.isEmpty_iff.mp empty) reply
          refine Invariant.request accounts ?_ phase ?_ reply
          · exact invariant.routed.same rfl (List.Sublist.refl _)
          · change state.replies = (state.read ++ [frame]).filter (isReply serde)
            rw [List.filter_append, List.filter_singleton, reply, cond_false, List.append_nil]
            exact invariant.heard
      | closed | failed =>
        cases stepped
        exact invariant.close
    · rw [if_neg empty] at stepped
      cases stepped
  | dispatching number ipcId kind reverseRx readAhead =>
    rw [phase] at stepped
    have live : state.phase ≠ .ended := by rw [phase]; exact Phase.noConfusion
    have held : state.phase.tickets = [⟨number, ipcId⟩] := by rw [phase]; rfl
    have channel : state.channel = reverseRx := by rw [Connection.channel, phase]
    have sublist : (reverseRx.getD []).Sublist (state.channel.getD []) := by
      rw [channel]
    cases readAhead with
    | false => cases stepped
    | true =>
      cases input with
      | frame frame =>
        cases stepped
        by_cases reply : isReply serde frame = true
        · obtain ⟨id, target, meant⟩ := target_meant invariant.routed conforms reply
          rw [Connection.readAhead, Connection.reads, target]
          exact invariant.reply reply meant
        · rw [Bool.not_eq_true] at reply
          refine ⟨fun _ => (invariant.accounts live).readAhead reply, ?_, ?_⟩
          · rw [Connection.readAhead, reverseReplyTarget_request reply]
            exact invariant.routed.same rfl (List.Sublist.refl _)
          · rw [Connection.readAhead, reverseReplyTarget_request reply]
            change state.replies = (state.read ++ [frame]).filter (isReply serde)
            rw [List.filter_append, List.filter_singleton, reply, cond_false, List.append_nil]
            exact invariant.heard
      | closed | failed =>
        cases stepped
        exact ⟨fun _ => (invariant.accounts live).mark held rfl,
          invariant.routed.same rfl sublist, invariant.heard⟩

theorem step_next (invariant : Invariant serde style state)
    (stepped : step serde authToken state .next = some next) : Invariant serde style next := by
  dsimp only [step] at stepped
  cases phase : state.phase with
  | ended | dispatching =>
    rw [phase] at stepped
    cases stepped
  | idle =>
    have live : state.phase ≠ .ended := by rw [phase]; exact Phase.noConfusion
    cases queue : state.deferred with
    | nil =>
      rw [phase, queue] at stepped
      cases stepped
    | cons item rest =>
      rw [phase, queue] at stepped
      cases stepped
      have routed : Routed serde style (state.popped rest) :=
        invariant.routed.same rfl (List.Sublist.refl _)
      cases item with
      | frame number frame =>
        have accounts := invariant.accounts live
        have request : isReply serde frame = false :=
          accounts.requests number frame (by rw [queue]; exact List.mem_cons_self)
        exact Invariant.request (accounts.next queue) routed phase invariant.heard request
      | closed | failed => exact ⟨fun live => absurd rfl live, routed.close, invariant.heard⟩

theorem step_finish {response : IpcResponse Body} (invariant : Invariant serde style state)
    (stepped : step serde authToken state (.finish response) = some next) :
    Invariant serde style next := by
  dsimp only [step] at stepped
  cases phase : state.phase with
  | ended | idle =>
    rw [phase] at stepped
    cases stepped
  | dispatching number ipcId kind reverseRx readAhead =>
    rw [phase] at stepped
    cases stepped
    have live : state.phase ≠ .ended := by rw [phase]; exact Phase.noConfusion
    refine ⟨fun going => ?_, invariant.routed.finish phase response, ?_⟩
    · obtain finished | kept := (invariant.accounts live).finish phase response
      · exact absurd finished going
      · exact kept
    · rw [Connection.finish]
      dsimp only
      split <;> exact invariant.heard

theorem step_settle {place : Nat} {outcome : Option (IpcResponse Body)}
    (invariant : Invariant serde style state)
    (stepped : step serde authToken state (.settle place outcome) = some next) :
    Invariant serde style next := by
  dsimp only [step] at stepped
  cases there : state.tasks[place]? with
  | none =>
    rw [there] at stepped
    cases stepped
  | some task =>
    rw [there] at stepped
    dsimp only at stepped
    split at stepped
    · cases stepped
      exact ⟨fun live => (invariant.accounts live).settle there (some outcome),
        invariant.routed.same rfl (List.Sublist.refl _), invariant.heard⟩
    · cases stepped

theorem step_join {place : Nat} (invariant : Invariant serde style state)
    (stepped : step serde authToken state (.join place) = some next) :
    Invariant serde style next := by
  dsimp only [step] at stepped
  split at stepped
  · cases there : state.tasks[place]? with
    | none =>
      rw [there] at stepped
      cases stepped
    | some task =>
      rw [there] at stepped
      obtain ⟨settled, _, rfl⟩ := Option.map_eq_some_iff.mp stepped
      have routed : Routed serde style { state with tasks := state.tasks.eraseIdx place } :=
        invariant.routed.same rfl (List.Sublist.refl _)
      have written (given : Connection Content Result Body) :
          (given.writeInFlightReply task settled).phase = given.phase ∧
            (given.writeInFlightReply task settled).replies = given.replies ∧
            (given.writeInFlightReply task settled).read = given.read := by
        rw [Connection.writeInFlightReply]
        dsimp only
        split <;> exact ⟨rfl, rfl, rfl⟩
      obtain ⟨phase, replies, read⟩ :=
        written { state with tasks := state.tasks.eraseIdx place }
      refine ⟨fun live => ?_, routed.join settled, ?_⟩
      · rw [phase] at live
        exact (invariant.accounts live).join there settled
      · rw [replies, read]
        exact invariant.heard
  · cases stepped

theorem step_call (invariant : Invariant serde style state)
    (stepped : step serde authToken state .call = some next) : Invariant serde style next := by
  dsimp only [step] at stepped
  cases there : state.channel with
  | none =>
    rw [there] at stepped
    cases stepped
  | some calls =>
    rw [there] at stepped
    dsimp only at stepped
    split at stepped
    · cases stepped
      have routed := invariant.routed.call there
      obtain ⟨phase, reverseRx, put, tickets, closedIff⟩ :=
        setChannel_eq state (calls ++ [state.nextCall])
      rw [put] at routed ⊢
      refine ⟨fun live => ?_, routed, invariant.heard⟩
      exact (invariant.accounts fun ended => live (closedIff.mpr ended)).same
        (congrArg (·, _) tickets) rfl
    · cases stepped

theorem step_reverse (invariant : Invariant serde style state)
    (stepped : step serde authToken state .reverse = some next) :
    Invariant serde style next := by
  dsimp only [step] at stepped
  split at stepped
  · cases there : state.channel with
    | none =>
      rw [there] at stepped
      cases stepped
    | some queue =>
      rw [there] at stepped
      cases queue with
      | nil => cases stepped
      | cons call calls =>
        cases stepped
        have routed := invariant.routed.reverse there
        obtain ⟨phase, reverseRx, put, tickets, closedIff⟩ := setChannel_eq state calls
        rw [put] at routed ⊢
        refine ⟨fun live => ?_, routed, invariant.heard⟩
        exact (invariant.accounts fun ended => live (closedIff.mpr ended)).same
          (congrArg (·, _) tickets) rfl
  · cases stepped

theorem step_invariant (act : Act Content Body) (invariant : Invariant serde style state)
    (conforms : Conforms serde style state act)
    (stepped : step serde authToken state act = some next) : Invariant serde style next := by
  cases act with
  | receive input => exact step_receive invariant conforms stepped
  | next => exact step_next invariant stepped
  | finish response => exact step_finish invariant stepped
  | settle place outcome => exact step_settle invariant stepped
  | join place => exact step_join invariant stepped
  | call => exact step_call invariant stepped
  | reverse => exact step_reverse invariant stepped
  | giveUp call =>
    cases stepped
    exact ⟨fun live => (invariant.accounts live).same rfl rfl,
      invariant.routed.same rfl (List.Sublist.refl _), invariant.heard⟩
  | elsewhere =>
    cases stepped
    obtain ⟨rising, issued, waits, oldest, right, released, once, callsOnce, callsMade⟩ :=
      invariant.routed
    refine ⟨fun live => (invariant.accounts live).same rfl rfl, ?_,
      invariant.heard⟩
    exact ⟨rising, fun item member => Nat.lt_succ_of_lt (issued item member), waits, oldest,
      fun item member => ⟨(right item member).sender, (right item member).reply⟩, released, once,
      callsOnce, callsMade⟩
  | stop =>
    cases stepped
    exact invariant.close

/-! ### Runs -/

/-- Every request that was read is answered, runs or waits, and is in one of these places, under
its own id. The untagged ones are answered in the order of their arrival, and those that wait are
the last that arrived, in that order. -/
structure AnsweredOnce (serde : Serde Content Result) (state : Connection Content Result Body) :
    Prop where
  once : (state.answered ++ (state.phase.tickets ++ state.onTasks) ++ state.waiting).Perm
    (requestsAmong serde state.read)
  distinct : (requestsAmong serde state.read).Nodup
  untagged : (state.answered ++ state.phase.tickets ++ state.waiting).filter Ticket.untagged =
    (requestsAmong serde state.read).filter Ticket.untagged
  waits : state.waiting <:+ requestsAmong serde state.read

/-- What was handed over came in a reply to the request of the call, and no call was handed two
responses. -/
structure HandedOnce (serde : Serde Content Result) (style : Replies)
    (state : Connection Content Result Body) : Prop where
  right : ∀ item ∈ state.handed, HandedRight serde style state item
  once : (state.handed.map Handed.call).Nodup
  replies : state.replies = state.read.filter (isReply serde)
  ids : (state.sent.map Prod.fst).Nodup

theorem Accounts.answeredOnce (accounts : Accounts serde [] state) : AnsweredOnce serde state := by
  refine ⟨?_, requestsAmong_nodup serde state.read, ?_, accounts.last⟩
  · rw [List.perm_iff_count]
    intro ticket
    have counted := accounts.counted ticket
    rw [List.count_nil] at counted
    rw [List.count_append, List.count_append, List.count_append]
    omega
  · rw [← accounts.untagged, List.filter_append, List.filter_append, List.append_assoc]
    rfl

/-- A call sent one request, so that two responses for it would be two for that request. -/
theorem Routed.handedOnce (routed : Routed serde style state)
    (heard : state.replies = state.read.filter (isReply serde)) :
    HandedOnce serde style state := by
  have calls : (state.sent.map Prod.snd).Nodup := (List.nodup_append.mp routed.callsOnce).1
  refine ⟨routed.right, ?_, heard, routed.rising.imp Nat.ne_of_lt⟩
  rw [List.Nodup, List.pairwise_map]
  have ids := List.pairwise_map.mp routed.once
  refine ids.imp_of_mem ?_
  intro first second firstIn secondIn apart same
  have sentFirst := (routed.right first firstIn).sender
  have sentSecond := (routed.right second secondIn).sender
  rw [same] at sentFirst
  exact apart (congrArg Prod.fst (List.inj_on_of_nodup_map calls sentFirst sentSecond rfl))

/-- Over every run, a connection that has not ended answers each request once, and each reply is
handed to the call whose request it answers. -/
theorem answered_and_handed (style : Replies) (trace : List (Act Content Body))
    {final : Connection Content Result Body}
    (conforming : Runs.Admitted (step serde authToken) (Conforms serde style) {} trace)
    (ran : Runs.exec (step serde authToken) {} trace = some final) :
    (final.phase ≠ .ended → AnsweredOnce serde final) ∧ HandedOnce serde style final := by
  have invariant : Invariant serde style final :=
    Runs.exec_invariant (step serde authToken) (Conforms serde style) (Invariant serde style)
      (fun state act next conforms held stepped => step_invariant act held conforms stepped)
      trace {} final Invariant.start conforming ran
  exact ⟨fun live => (invariant.accounts live).answeredOnce,
    invariant.routed.handedOnce invariant.heard⟩

/-! ### A run -/

instance (style : Replies) (state : Connection Content Result Body) (act : Act Content Body) :
    Decidable (Conforms serde style state act) :=
  match act, style with
  | .receive (.frame frame), .tagged =>
    inferInstanceAs (Decidable (isReply serde frame = true → frame.ids.reverseId.isSome = true))
  | .receive (.frame frame), .bare =>
    inferInstanceAs (Decidable (frame.ids.reverseId = none ∧ (isReply serde frame = true →
      frame.ids.ipcId = none ∧ state.replies.length < state.sent.length)))
  | .receive .closed, _ | .receive .failed, _ | .next, _ | .finish _, _ | .settle _ _, _
  | .join _, _ | .call, _ | .giveUp _, _ | .reverse, _ | .elsewhere, _ | .stop, _ =>
    isTrue trivial

/-- Contents that are numbers. -/
def numberSerde : Serde Nat Nat where
  request := fun _ _ => some ""
  result := fun _ content => .ok content
  message := fun _ => .ok ""
  unknownVariant := id
  lacksRegistration := fun _ => false

/-- Two calls ask at once while a tagged request runs, and are answered in the other order. -/
def crossedTrace : List (Act Nat Nat) :=
  [.receive (.frame ⟨⟨none, none⟩, "Register", 0⟩), .finish (.registered 0),
    .receive (.frame ⟨⟨some 7, none⟩, "McpRequest", 0⟩), .call, .call, .reverse, .reverse,
    .receive (.frame ⟨⟨none, none⟩, "Status", 0⟩),
    .receive (.frame ⟨⟨none, some 2⟩, "CreateElicitation", 20⟩),
    .receive (.frame ⟨⟨none, none⟩, "ListTools", 0⟩), .settle 0 (some .ok), .join 0,
    .finish (.other 1), .next, .receive (.frame ⟨⟨none, some 1⟩, "CreateMessage", 10⟩)]

/-- The replies are written under the ids of their requests, and what the second call is handed came
before what the first is. -/
theorem answered_and_handed_crossed : ∃ final : Connection Nat Nat Nat,
    Runs.exec (step numberSerde "") {} crossedTrace = some final ∧
      final.handed.map (fun item => (item.call, item.response)) =
        [(1, .createElicitation 20), (0, .createMessage 10)] ∧
      final.written.map (fun reply => (reply.number, reply.ipcId)) =
        [(0, none), (1, some 7), (2, none)] ∧
      (final.phase ≠ .ended → AnsweredOnce numberSerde final) ∧
      HandedOnce numberSerde .tagged final := by
  have shown : ((Runs.exec (step numberSerde "") {} crossedTrace).map
      fun final : Connection Nat Nat Nat =>
        (final.handed.map fun item => (item.call, item.response),
          final.written.map fun reply => (reply.number, reply.ipcId))) =
      some ([(1, .createElicitation 20), (0, .createMessage 10)],
        [(0, none), (1, some 7), (2, none)]) := by
    decide +kernel
  obtain ⟨final, ran, observed⟩ := Option.map_eq_some_iff.mp shown
  rw [Prod.mk.injEq] at observed
  have conforming : Runs.Admitted (step numberSerde "") (Conforms numberSerde .tagged)
      ({} : Connection Nat Nat Nat) crossedTrace := by
    decide +kernel
  exact ⟨final, ran, observed.1, observed.2,
    answered_and_handed .tagged crossedTrace conforming ran⟩

end Plug.Daemon
