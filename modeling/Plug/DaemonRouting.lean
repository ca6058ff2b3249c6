import Plug.DaemonReplies

/-!
# Every reply goes to its own call

A proxy tags its replies to reverse requests with their ids, or answers one after the other in the
order in which they came. Either way a reply is handed to the call whose request it answers.
-/

namespace Plug.Daemon

open Proxy (insertWaiter insertWaiter_newest mem_of_waiterOf removeWaiter waiterOf)
open Connection

variable {Content Result Body : Type}

/-! ### Proxies -/

/-- How a proxy answers reverse requests. -/
inductive Replies where
  /-- With their ids. -/
  | tagged
  /-- Bare, one at a time, in their order. -/
  | bare
deriving DecidableEq

/-- A proxy that answers bare has not answered every reverse request that was written to it when
its next reply is read. -/
def Conforms (serde : Serde Content Result) (style : Replies)
    (state : Connection Content Result Body) : Act Content Body → Prop
  | .receive (.frame frame) =>
    match style with
    | .tagged => isReply serde frame = true → frame.ids.reverseId.isSome = true
    | .bare => frame.ids.reverseId = none ∧ (isReply serde frame = true →
        frame.ids.ipcId = none ∧ state.replies.length < state.sent.length)
  | _ => True

/-- A response was handed to the call that sent the request. The reply that it was in names the
request, or is as many replies after the first as the request is requests after the first. -/
structure HandedRight (serde : Serde Content Result) (style : Replies)
    (state : Connection Content Result Body) (item : Handed Result) : Prop where
  sender : (item.id, item.call) ∈ state.sent
  reply : ∃ frame, state.replies[item.position]? = some frame ∧
    item.response = replyOf serde frame ∧
    match style with
    | .tagged => frame.ids.reverseId = some item.id
    | .bare => state.sent[item.position]? = some (item.id, item.call)

structure Routed (serde : Serde Content Result) (style : Replies)
    (state : Connection Content Result Body) : Prop where
  rising : (state.sent.map Prod.fst).Pairwise (· < ·)
  issued : ∀ item ∈ state.sent, item.1 < state.reverseRequestCounter
  waits : state.pendingReverse.Sublist state.sent
  oldest : style = .bare → state.replies.length ≤ state.sent.length ∧
    state.pendingReverse = state.sent.drop state.replies.length
  right : ∀ item ∈ state.handed, HandedRight serde style state item
  released : ∀ item ∈ state.handed, item.id ∉ state.pendingReverse.map Prod.fst
  once : (state.handed.map Handed.id).Nodup
  callsOnce : (state.sent.map Prod.snd ++ state.channel.getD []).Nodup
  callsMade : ∀ call ∈ state.sent.map Prod.snd ++ state.channel.getD [], call < state.nextCall

/-- What says where reverse requests are, but for the channel. -/
def Connection.reverseParts (state : Connection Content Result Body) :=
  (state.pendingReverse, state.reverseRequestCounter, state.sent, state.replies, state.handed,
    state.nextCall)

section Routed

variable {serde : Serde Content Result} {style : Replies} {state : Connection Content Result Body}

/-- An operation that leaves reverse requests alone. -/
theorem Routed.same {next : Connection Content Result Body} (routed : Routed serde style state)
    (parts : next.reverseParts = state.reverseParts)
    (channel : (next.channel.getD []).Sublist (state.channel.getD [])) :
    Routed serde style next := by
  simp only [Connection.reverseParts, Prod.mk.injEq] at parts
  obtain ⟨pending, counter, sent, replies, handed, nextCall⟩ := parts
  obtain ⟨rising, issued, waits, oldest, right, released, once, callsOnce, callsMade⟩ := routed
  have fewer : (next.sent.map Prod.snd ++ next.channel.getD []).Sublist
      (state.sent.map Prod.snd ++ state.channel.getD []) := by
    rw [sent]
    exact List.Sublist.append (List.Sublist.refl _) channel
  refine ⟨?_, ?_, ?_, ?_, ?_, ?_, ?_, callsOnce.sublist fewer, ?_⟩
  · rw [sent]
    exact rising
  · rw [sent, counter]
    exact issued
  · rw [sent, pending]
    exact waits
  · rw [sent, pending, replies]
    exact oldest
  · rw [handed]
    intro item member
    obtain ⟨sender, reply⟩ := right item member
    refine ⟨?_, ?_⟩
    · rw [sent]
      exact sender
    · rw [sent, replies]
      exact reply
  · rw [handed, pending]
    exact released
  · rw [handed]
    exact once
  · rw [nextCall]
    exact fun call member => callsMade call (fewer.subset member)

theorem channel_setChannel (calls : List Nat) :
    (state.setChannel calls).channel = some calls := by
  rw [Connection.setChannel]
  unfold Connection.channel
  cases phase : state.phase <;> rfl

/-- A channel is put where it was. -/
theorem setChannel_eq (state : Connection Content Result Body) (calls : List Nat) :
    ∃ phase reverseRx,
      state.setChannel calls = { state with phase := phase, reverseRx := reverseRx } ∧
        phase.tickets = state.phase.tickets ∧ (phase = .ended ↔ state.phase = .ended) := by
  obtain ⟨phase, session, subscribed, reverseRx⟩ := state
  cases phase with
  | dispatching number ipcId kind held readAhead =>
    refine ⟨.dispatching number ipcId kind (some calls) readAhead, reverseRx, rfl, rfl, ?_⟩
    constructor <;> intro ended <;> cases ended
  | idle => exact ⟨.idle, some calls, rfl, rfl, Iff.rfl⟩
  | ended => exact ⟨.ended, some calls, rfl, rfl, Iff.rfl⟩

theorem Routed.call {calls : List Nat} (routed : Routed serde style state)
    (there : state.channel = some calls) :
    Routed serde style
      { state.setChannel (calls ++ [state.nextCall]) with nextCall := state.nextCall + 1 } := by
  obtain ⟨rising, issued, waits, oldest, right, released, once, callsOnce, callsMade⟩ := routed
  have channel : (state.setChannel (calls ++ [state.nextCall])).channel =
      some (calls ++ [state.nextCall]) :=
    channel_setChannel _
  obtain ⟨phase, reverseRx, put, -, -⟩ := setChannel_eq state (calls ++ [state.nextCall])
  rw [put] at channel ⊢
  rw [there, Option.getD_some] at callsOnce callsMade
  have whole : state.sent.map Prod.snd ++ (calls ++ [state.nextCall]) =
      (state.sent.map Prod.snd ++ calls) ++ [state.nextCall] :=
    (List.append_assoc ..).symm
  refine ⟨rising, issued, waits, oldest, fun item member => ?_, released, once, ?_, ?_⟩
  · exact ⟨(right item member).sender, (right item member).reply⟩
  · change (state.sent.map Prod.snd ++ (Connection.channel { state with
      phase := phase, reverseRx := reverseRx }).getD []).Nodup
    rw [channel, Option.getD_some, whole]
    refine List.Nodup.append callsOnce (List.nodup_singleton _) ?_
    intro call earlier new
    rw [List.mem_singleton] at new
    exact absurd (callsMade call earlier) (by rw [new]; exact Nat.lt_irrefl _)
  · change ∀ call ∈ state.sent.map Prod.snd ++ (Connection.channel { state with
      phase := phase, reverseRx := reverseRx }).getD [], call < state.nextCall + 1
    rw [channel, Option.getD_some, whole]
    intro call member
    obtain earlier | new := List.mem_append.mp member
    · exact Nat.lt_succ_of_lt (callsMade call earlier)
    · rw [List.mem_singleton.mp new]
      exact Nat.lt_succ_self state.nextCall

/-- The request that is written last waits last. -/
theorem Routed.reverse {call : Nat} {calls : List Nat} (routed : Routed serde style state)
    (there : state.channel = some (call :: calls)) :
    Routed serde style ((state.setChannel calls).sendReverseRequest call) := by
  obtain ⟨rising, issued, waits, oldest, right, released, once, callsOnce, callsMade⟩ := routed
  have channel : (state.setChannel calls).channel = some calls := channel_setChannel calls
  obtain ⟨phase, reverseRx, put, -, -⟩ := setChannel_eq state calls
  rw [put] at channel ⊢
  rw [there, Option.getD_some] at callsOnce callsMade
  have pending : insertWaiter state.reverseRequestCounter call state.pendingReverse =
      state.pendingReverse ++ [(state.reverseRequestCounter, call)] :=
    insertWaiter_newest fun item member => issued item (waits.subset member)
  have whole : (state.sent ++ [(state.reverseRequestCounter, call)]).map Prod.snd ++ calls =
      state.sent.map Prod.snd ++ call :: calls := by
    rw [List.map_append, List.append_assoc]
    rfl
  have new : ∀ item ∈ state.handed, item.id < state.reverseRequestCounter :=
    fun item member => issued _ (right item member).sender
  refine ⟨?_, ?_, ?_, ?_, ?_, ?_, once, ?_, ?_⟩
  · change ((state.sent ++ [(state.reverseRequestCounter, call)]).map Prod.fst).Pairwise (· < ·)
    rw [List.map_append, List.pairwise_append]
    refine ⟨rising, List.pairwise_singleton _ _, ?_⟩
    intro earlier listed last member
    obtain ⟨item, sent, rfl⟩ := List.mem_map.mp listed
    rw [List.map_singleton, List.mem_singleton] at member
    rw [member]
    exact issued item sent
  · intro item member
    change item.1 < state.reverseRequestCounter + 1
    obtain earlier | last := List.mem_append.mp member
    · exact Nat.lt_succ_of_lt (issued item earlier)
    · rw [List.mem_singleton.mp last]
      exact Nat.lt_succ_self state.reverseRequestCounter
  · change (insertWaiter state.reverseRequestCounter call state.pendingReverse).Sublist
      (state.sent ++ [(state.reverseRequestCounter, call)])
    rw [pending]
    exact waits.append (List.Sublist.refl _)
  · intro bare
    obtain ⟨fewer, exactly⟩ := oldest bare
    change state.replies.length ≤ (state.sent ++ [(state.reverseRequestCounter, call)]).length ∧
      insertWaiter state.reverseRequestCounter call state.pendingReverse =
        (state.sent ++ [(state.reverseRequestCounter, call)]).drop state.replies.length
    rw [pending, exactly, List.drop_append_of_le_length fewer, List.length_append]
    exact ⟨Nat.le_add_right_of_le fewer, rfl⟩
  · intro item member
    obtain ⟨sender, frame, read, said, meant⟩ := right item member
    refine ⟨List.mem_append_left _ sender, frame, read, said, ?_⟩
    cases style with
    | tagged => exact meant
    | bare => exact List.getElem?_append_left (List.getElem?_eq_some_iff.mp meant).1 ▸ meant
  · intro item member
    change item.id ∉ (insertWaiter state.reverseRequestCounter call state.pendingReverse).map
      Prod.fst
    rw [pending, List.map_append, List.mem_append, not_or]
    refine ⟨released item member, ?_⟩
    rw [List.map_singleton, List.mem_singleton]
    exact Nat.ne_of_lt (new item member)
  · change ((state.sent ++ [(state.reverseRequestCounter, call)]).map Prod.snd ++
      (Connection.channel { state with phase := phase, reverseRx := reverseRx }).getD []).Nodup
    rw [channel, Option.getD_some, whole]
    exact callsOnce
  · change ∀ made ∈ (state.sent ++ [(state.reverseRequestCounter, call)]).map Prod.snd ++
      (Connection.channel { state with phase := phase, reverseRx := reverseRx }).getD [],
      made < state.nextCall
    rw [channel, Option.getD_some, whole]
    exact callsMade

/-! ### Handing over -/

/-- The reply names the request, or is for the oldest one. -/
def MeantFor (style : Replies) (state : Connection Content Result Body) (frame : Frame Content)
    (id : Nat) : Prop :=
  match style with
  | .tagged => frame.ids.reverseId = some id
  | .bare => ∃ call rest, state.pendingReverse = (id, call) :: rest

variable {frame : Frame Content} {id : Nat}

theorem target_meant (routed : Routed serde style state)
    (conforms : Conforms serde style state (.receive (.frame frame)))
    (reply : isReply serde frame = true) :
    ∃ id, reverseReplyTarget serde state.pendingReverse frame = some id ∧
      MeantFor style state frame id := by
  cases style with
  | tagged =>
    obtain ⟨id, tagged⟩ := Option.isSome_iff_exists.mp (conforms reply)
    refine ⟨id, ?_, tagged⟩
    rw [reverseReplyTarget, if_pos (conforms reply)]
    exact tagged
  | bare =>
    obtain ⟨bare, further⟩ := conforms
    obtain ⟨untagged, fewer⟩ := further reply
    obtain ⟨_, pending⟩ := routed.oldest rfl
    have reads : (parseReply serde frame).isOk = true := by
      rw [isReply, bare] at reply
      exact reply
    rw [List.drop_eq_getElem_cons fewer] at pending
    refine ⟨_, ?_, _, _, pending⟩
    rw [reverseReplyTarget, bare, untagged, if_neg (by decide), if_neg (by decide), pending,
      List.head?_cons, Option.bind_some, if_pos reads]
    rfl

theorem removeWaiter_sublist (id : Nat) (pending : PendingReverse) :
    (removeWaiter id pending).Sublist pending :=
  List.filter_sublist

theorem removeWaiter_gone (id : Nat) (pending : PendingReverse) :
    id ∉ (removeWaiter id pending).map Prod.fst := by
  intro listed
  obtain ⟨item, member, same⟩ := List.mem_map.mp listed
  have kept := List.of_mem_filter member
  exact absurd same (by simpa using kept)

/-- Where the ids rise, the first is taken off. -/
theorem removeWaiter_first {call : Nat} {rest : PendingReverse}
    (rising : (((id, call) :: rest).map Prod.fst).Pairwise (· < ·)) :
    removeWaiter id ((id, call) :: rest) = rest := by
  rw [List.map_cons, List.pairwise_cons] at rising
  rw [removeWaiter, List.filter_cons, if_neg (by simp), List.filter_eq_self]
  intro item member
  have later := rising.1 item.1 (List.mem_map_of_mem member)
  exact decide_eq_true (Nat.ne_of_gt later)

theorem waiterOf_first (id call : Nat) (rest : PendingReverse) :
    waiterOf id ((id, call) :: rest) = some call := by
  rw [waiterOf, List.find?_cons, decide_eq_true rfl]
  rfl

/-- A reply is handed to the call that waits for it, unless it gave up. -/
theorem handed_deliver (state : Connection Content Result Body) (id : Nat) (frame : Frame Content) :
    (state.deliverReverseReply serde id frame).handed = state.handed ∨
      ∃ call, waiterOf id state.pendingReverse = some call ∧
        (state.deliverReverseReply serde id frame).handed =
          state.handed ++ [⟨id, call, state.replies.length, replyOf serde frame⟩] := by
  rw [Connection.deliverReverseReply]
  dsimp only
  cases waits : waiterOf id state.pendingReverse with
  | none => exact Or.inl rfl
  | some call =>
    dsimp only
    by_cases gone : call ∈ state.gaveUp
    · rw [if_pos gone]
      exact Or.inl rfl
    · rw [if_neg gone]
      exact Or.inr ⟨call, rfl, rfl⟩

/-- The answer to a request that was sent is handed to its call. -/
theorem HandedRight.new {call : Nat} (routed : Routed serde style state)
    (waits : waiterOf id state.pendingReverse = some call) (meant : MeantFor style state frame id) :
    HandedRight serde style (state.deliverReverseReply serde id frame)
      ⟨id, call, state.replies.length, replyOf serde frame⟩ := by
  refine ⟨routed.waits.subset (mem_of_waiterOf waits), frame, ?_, rfl, ?_⟩
  · change (state.replies ++ [frame])[state.replies.length]? = some frame
    rw [List.getElem?_append_right (Nat.le_refl _), Nat.sub_self]
    rfl
  · cases style with
    | tagged => exact meant
    | bare =>
      obtain ⟨first, rest, pending⟩ := meant
      obtain ⟨_, exactly⟩ := routed.oldest rfl
      rw [pending, waiterOf_first, Option.some.injEq] at waits
      change state.sent[state.replies.length]? = some (id, call)
      rw [← waits, ← List.head?_drop, ← exactly, pending]
      rfl

theorem HandedRight.kept {item : Handed Result} (right : HandedRight serde style state item) :
    HandedRight serde style (state.deliverReverseReply serde id frame) item := by
  obtain ⟨sender, earlier, read, said, meant⟩ := right
  refine ⟨sender, earlier, ?_, said, meant⟩
  change (state.replies ++ [frame])[item.position]? = some earlier
  rw [List.getElem?_append_left (List.getElem?_eq_some_iff.mp read).1]
  exact read

theorem Routed.deliver (routed : Routed serde style state) (meant : MeantFor style state frame id) :
    Routed serde style (state.deliverReverseReply serde id frame) := by
  have stillWaits := removeWaiter_sublist id state.pendingReverse
  refine ⟨routed.rising, routed.issued, stillWaits.trans routed.waits, ?_, ?_, ?_, ?_,
    routed.callsOnce, routed.callsMade⟩
  · rintro rfl
    obtain ⟨call, rest, pending⟩ := meant
    obtain ⟨_, exactly⟩ := routed.oldest rfl
    have rising : (((id, call) :: rest).map Prod.fst).Pairwise (· < ·) := by
      rw [← pending]
      exact routed.rising.sublist (routed.waits.map Prod.fst)
    change (state.replies ++ [frame]).length ≤ state.sent.length ∧
      removeWaiter id state.pendingReverse = state.sent.drop (state.replies ++ [frame]).length
    rw [List.length_append, List.length_singleton, pending, removeWaiter_first rising]
    rw [pending] at exactly
    refine ⟨?_, ?_⟩
    · have remaining := congrArg List.length exactly
      rw [List.length_cons, List.length_drop] at remaining
      omega
    · rw [← List.tail_drop, ← exactly]
      rfl
  · intro item member
    obtain same | ⟨call, waits, added⟩ := handed_deliver state id frame
    · rw [same] at member
      exact (routed.right item member).kept
    · rw [added] at member
      obtain earlier | last := List.mem_append.mp member
      · exact (routed.right item earlier).kept
      · rw [List.mem_singleton.mp last]
        exact HandedRight.new routed waits meant
  · intro item member waiting
    have before : item.id ∈ state.pendingReverse.map Prod.fst :=
      (stillWaits.map Prod.fst).subset waiting
    obtain same | ⟨call, waits, added⟩ := handed_deliver state id frame
    · rw [same] at member
      exact routed.released item member before
    · rw [added] at member
      obtain earlier | last := List.mem_append.mp member
      · exact routed.released item earlier before
      · rw [List.mem_singleton.mp last] at waiting
        exact removeWaiter_gone id state.pendingReverse waiting
  · obtain same | ⟨call, waits, added⟩ := handed_deliver state id frame
    · rw [same]
      exact routed.once
    · rw [added, List.map_append]
      refine List.Nodup.append routed.once (List.nodup_singleton _) ?_
      intro earlier listed new
      obtain ⟨item, member, rfl⟩ := List.mem_map.mp listed
      rw [List.map_singleton, List.mem_singleton] at new
      apply routed.released item member
      rw [new]
      exact List.mem_map_of_mem (mem_of_waiterOf waits)

/-! ### Requests leave the routes alone -/

theorem Routed.close (routed : Routed serde style state) : Routed serde style state.close :=
  routed.same rfl (List.nil_sublist _)

theorem channel_idle (idle : state.phase = .idle) : state.channel = state.reverseRx := by
  rw [Connection.channel, idle]

theorem Routed.handleFrame {authToken : String} {number : Nat} (routed : Routed serde style state)
    (idle : state.phase = .idle) (request : isReply serde frame = false) :
    Routed serde style (state.handleFrame serde authToken number frame) := by
  have dispatched (ipcId : Option Nat) (kind : RequestKind) :
      Routed serde style (state.dispatch number ipcId kind) := by
    refine routed.same rfl ?_
    rw [channel_idle idle]
    exact List.Sublist.refl _
  have written (ipcId : Option Nat) (response : IpcResponse Body) :
      Routed serde style (state.write number ipcId response) :=
    routed.same rfl (List.Sublist.refl _)
  rw [Connection.handleFrame, reverseReplyTarget_request request]
  dsimp only
  cases parsed : parseRequest serde frame with
  | none => exact (written frame.ids.ipcId _).close
  | some given =>
    dsimp only
    cases refused : (authorize authToken given : Option (IpcResponse Body)) with
    | some refusal => exact written frame.ids.ipcId refusal
    | none =>
      cases tag : frame.ids.ipcId with
      | none => exact dispatched none given.kind
      | some id =>
        dsimp only [Connection.handleRequest]
        by_cases beside : state.session = true ∧ mustRunInline given = false
        · rw [if_pos beside]
          by_cases permit : state.running < maxConcurrentRequestsPerConnection
          · rw [if_pos permit]
            exact routed.same rfl (List.Sublist.refl _)
          · rw [if_neg permit]
            exact written (some id) busy
        · rw [if_neg beside]
          exact dispatched (some id) given.kind

theorem Routed.finish {number : Nat} {ipcId : Option Nat} {kind : RequestKind}
    {reverseRx : Option (List Nat)} {readAhead : Bool} (routed : Routed serde style state)
    (dispatching : state.phase = .dispatching number ipcId kind reverseRx readAhead)
    (response : IpcResponse Body) :
    Routed serde style (state.finish number ipcId kind reverseRx response) := by
  have held : state.channel = reverseRx := by rw [Connection.channel, dispatching]
  have put : ((if registers kind response then some []
      else if deregisters kind response then none else reverseRx).getD []).Sublist
        (state.channel.getD []) := by
    rw [held]
    split
    · exact List.nil_sublist _
    · split
      · exact List.nil_sublist _
      · exact List.Sublist.refl _
  rw [Connection.finish]
  dsimp only
  by_cases shutdown : kind = .shutdown
  · rw [if_pos shutdown]
    exact routed.same rfl (List.nil_sublist _)
  · rw [if_neg shutdown]
    exact routed.same rfl put

theorem Routed.join {task : RequestTask Body} (routed : Routed serde style state)
    (outcome : Option (IpcResponse Body)) :
    Routed serde style (state.writeInFlightReply task outcome) := by
  rw [Connection.writeInFlightReply]
  dsimp only
  cases state.ids task.id with
  | none => exact routed
  | some ipcId => exact routed.same rfl (List.Sublist.refl _)

end Routed

end Plug.Daemon
