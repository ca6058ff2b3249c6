import Mathlib.Data.List.Infix
import Mathlib.Data.List.Nodup
import Plug.DaemonLoop

/-!
# Every request is answered once

A ticket is the number of a frame with its id. What was read as a request is written as answered,
is held by the loop or by a task, or waits in the queue, each ticket in one place.
-/

namespace Plug.Daemon

open Proxy (insertWaiter removeWaiter waiterOf)

variable {Content Result Body : Type}

structure Ticket where
  number : Nat
  ipcId : Option Nat
deriving DecidableEq

def Ticket.untagged (ticket : Ticket) : Bool :=
  ticket.ipcId.isNone

def Received.ticket : Received Content → Option Ticket
  | .frame number given => some ⟨number, given.ids.ipcId⟩
  | _ => none

def Phase.tickets : Phase → List Ticket
  | .dispatching number ipcId _ _ _ => [⟨number, ipcId⟩]
  | _ => []

theorem tickets_idle : Phase.idle.tickets = [] := rfl

/-- The requests among the frames, in the order of their arrival. -/
def requestsAmong (serde : Serde Content Result) (frames : List (Frame Content)) : List Ticket :=
  frames.zipIdx.filterMap fun item =>
    if isReply serde item.1 then none else some ⟨item.2, item.1.ids.ipcId⟩

namespace Connection

def answered (state : Connection Content Result Body) : List Ticket :=
  state.written.map fun reply => ⟨reply.number, reply.ipcId⟩

def onTasks (state : Connection Content Result Body) : List Ticket :=
  state.tasks.map fun task => ⟨task.number, state.ids task.id⟩

def waiting (state : Connection Content Result Body) : List Ticket :=
  state.deferred.filterMap Received.ticket

/-- What says where requests are. -/
def requestParts (state : Connection Content Result Body) :=
  (state.phase.tickets, state.written, state.tasks, state.ids, state.nextTask, state.deferred)

end Connection

open Connection

/-! ### Requests in order -/

section Requests

variable {serde : Serde Content Result} {frames : List (Frame Content)} {frame : Frame Content}

theorem requestsAmong_request (request : isReply serde frame = false) :
    requestsAmong serde (frames ++ [frame]) =
      requestsAmong serde frames ++ [⟨frames.length, frame.ids.ipcId⟩] := by
  rw [requestsAmong, List.zipIdx_append, List.filterMap_append]
  simp [requestsAmong, request]

theorem requestsAmong_reply (reply : isReply serde frame = true) :
    requestsAmong serde (frames ++ [frame]) = requestsAmong serde frames := by
  rw [requestsAmong, List.zipIdx_append, List.filterMap_append]
  simp [requestsAmong, reply]

theorem requestsAmong_number (ticket : Ticket) (listed : ticket ∈ requestsAmong serde frames) :
    ticket.number < frames.length := by
  obtain ⟨item, member, made⟩ := List.mem_filterMap.mp listed
  obtain ⟨_, inside, _⟩ := List.mem_zipIdx member
  split at made
  · cases made
  · cases made
    simpa using inside

theorem requestsAmong_nodup (serde : Serde Content Result) (frames : List (Frame Content)) :
    (requestsAmong serde frames).Nodup := by
  induction frames using List.reverseRecOn with
  | nil => exact List.nodup_nil
  | append_singleton earlier last ih =>
    by_cases reply : isReply serde last = true
    · rw [requestsAmong_reply reply]
      exact ih
    · rw [requestsAmong_request (Bool.eq_false_iff.mpr reply)]
      refine List.Nodup.append ih (List.nodup_singleton _) ?_
      intro ticket listed new
      have earlierNumber := requestsAmong_number ticket listed
      rw [List.mem_singleton.mp new] at earlierNumber
      exact Nat.lt_irrefl _ earlierNumber

end Requests

/-! ### Where tickets are -/

/-- Each ticket is in one place; `hand` is what the loop has just taken. The untagged ones are
answered in the order in which they came, and those that wait are the last that came. -/
structure Accounts (serde : Serde Content Result) (hand : List Ticket)
    (state : Connection Content Result Body) : Prop where
  counted : ∀ ticket, state.answered.count ticket + state.phase.tickets.count ticket +
    state.onTasks.count ticket + hand.count ticket + state.waiting.count ticket =
      (requestsAmong serde state.read).count ticket
  untagged : state.answered.filter Ticket.untagged ++
    (state.phase.tickets.filter Ticket.untagged ++ (hand ++ state.waiting).filter Ticket.untagged) =
      (requestsAmong serde state.read).filter Ticket.untagged
  last : hand ++ state.waiting <:+ requestsAmong serde state.read
  requests : ∀ number frame, Received.frame number frame ∈ state.deferred →
    isReply serde frame = false
  tagged : ∀ task ∈ state.tasks, ∃ ipcId, state.ids task.id = some ipcId
  fresh : ∀ task ∈ state.tasks, task.id < state.nextTask
  distinct : (state.tasks.map RequestTask.id).Nodup

section Accounts

variable {serde : Serde Content Result} {state : Connection Content Result Body}
  {hand : List Ticket} {number : Nat} {ipcId : Option Nat}

/-- An operation that has to do with reverse requests alone. -/
theorem Accounts.same {next : Connection Content Result Body} (accounts : Accounts serde hand state)
    (parts : next.requestParts = state.requestParts) (read : next.read = state.read) :
    Accounts serde hand next := by
  simp only [Connection.requestParts, Prod.mk.injEq] at parts
  obtain ⟨phase, written, tasks, ids, nextTask, deferred⟩ := parts
  obtain ⟨counted, untagged, last, requests, tagged, fresh, distinct⟩ := accounts
  have answered : next.answered = state.answered := by rw [Connection.answered, written]; rfl
  have onTasks : next.onTasks = state.onTasks := by rw [Connection.onTasks, tasks, ids]; rfl
  have waiting : next.waiting = state.waiting := by rw [Connection.waiting, deferred]; rfl
  constructor
  · intro ticket
    rw [answered, phase, onTasks, waiting, read]
    exact counted ticket
  · rw [answered, phase, waiting, read]
    exact untagged
  · rw [waiting, read]
    exact last
  · rw [deferred]
    exact requests
  · rw [tasks, ids]
    exact tagged
  · rw [tasks, nextTask]
    exact fresh
  · rw [tasks]
    exact distinct

theorem answered_write (response : IpcResponse Body) :
    (state.write number ipcId response).answered = state.answered ++ [⟨number, ipcId⟩] := by
  rw [Connection.answered, Connection.write, List.map_append]
  rfl

/-- The loop answers what it has in hand. -/
theorem Accounts.write (accounts : Accounts serde [⟨number, ipcId⟩] state)
    (idle : state.phase = .idle) (response : IpcResponse Body) :
    Accounts serde [] (state.write number ipcId response) := by
  obtain ⟨counted, untagged, last, requests, tagged, fresh, distinct⟩ := accounts
  refine ⟨?_, ?_, ?_, requests, tagged, fresh, distinct⟩
  · intro ticket
    rw [answered_write, List.count_append, List.count_nil]
    have before := counted ticket
    change _ + state.phase.tickets.count ticket + state.onTasks.count ticket + 0 +
      state.waiting.count ticket = (requestsAmong serde state.read).count ticket
    omega
  · rw [answered_write, List.filter_append, List.nil_append]
    change _ ++ (state.phase.tickets.filter _ ++ state.waiting.filter _) =
      (requestsAmong serde state.read).filter _
    rw [← untagged, idle, List.filter_append, tickets_idle, List.filter_nil, List.nil_append,
      List.nil_append, List.append_assoc]
  · exact (List.suffix_append [⟨number, ipcId⟩] state.waiting).trans last

theorem Accounts.dispatch (accounts : Accounts serde [⟨number, ipcId⟩] state)
    (idle : state.phase = .idle) (kind : RequestKind) :
    Accounts serde [] (state.dispatch number ipcId kind) := by
  obtain ⟨counted, untagged, last, requests, tagged, fresh, distinct⟩ := accounts
  rw [idle] at counted untagged
  refine ⟨?_, ?_, ?_, requests, tagged, fresh, distinct⟩
  · intro ticket
    have before := counted ticket
    change state.answered.count ticket + [⟨number, ipcId⟩].count ticket +
      state.onTasks.count ticket + 0 + state.waiting.count ticket =
        (requestsAmong serde state.read).count ticket
    rw [← before]
    change _ = _ + 0 + _ + _ + _
    omega
  · change _ ++ ([⟨number, ipcId⟩].filter _ ++ ([] ++ state.waiting).filter _) =
      (requestsAmong serde state.read).filter _
    rw [← untagged, List.nil_append, ← List.filter_append]
    rfl
  · exact (List.suffix_append [⟨number, ipcId⟩] state.waiting).trans last

theorem onTasks_spawn {id : Nat} (fresh : ∀ task ∈ state.tasks, task.id < state.nextTask) :
    (state.spawn number id).onTasks = state.onTasks ++ [⟨number, some id⟩] := by
  have earlier : state.tasks.map (fun task =>
      (⟨task.number, Function.update state.ids state.nextTask (some id) task.id⟩ : Ticket)) =
        state.onTasks := by
    apply List.map_congr_left
    intro task member
    rw [Function.update_of_ne (Nat.ne_of_lt (fresh task member))]
  rw [Connection.onTasks, Connection.spawn, List.map_append, earlier, List.map_singleton]
  dsimp only
  rw [Function.update_self]

theorem Accounts.spawn {id : Nat} (accounts : Accounts serde [⟨number, some id⟩] state) :
    Accounts serde [] (state.spawn number id) := by
  obtain ⟨counted, untagged, last, requests, tagged, fresh, distinct⟩ := accounts
  refine ⟨?_, ?_, ?_, requests, ?_, ?_, ?_⟩
  · intro ticket
    have before := counted ticket
    rw [onTasks_spawn fresh, List.count_append]
    change state.answered.count ticket + state.phase.tickets.count ticket + _ + 0 +
      state.waiting.count ticket = (requestsAmong serde state.read).count ticket
    omega
  · change state.answered.filter _ ++ (state.phase.tickets.filter _ ++ state.waiting.filter _) =
      (requestsAmong serde state.read).filter _
    rw [← untagged]
    rfl
  · exact (List.suffix_append [⟨number, some id⟩] state.waiting).trans last
  · intro task member
    change ∃ ipcId, Function.update state.ids state.nextTask (some id) task.id = some ipcId
    obtain earlier | new := List.mem_append.mp member
    · rw [Function.update_of_ne (Nat.ne_of_lt (fresh task earlier))]
      exact tagged task earlier
    · rw [List.mem_singleton.mp new, Function.update_self]
      exact ⟨id, rfl⟩
  · intro task member
    change task.id < state.nextTask + 1
    obtain earlier | new := List.mem_append.mp member
    · exact Nat.lt_succ_of_lt (fresh task earlier)
    · rw [List.mem_singleton.mp new]
      exact Nat.lt_succ_self state.nextTask
  · change ((state.tasks ++ [_]).map RequestTask.id).Nodup
    rw [List.map_append]
    refine List.Nodup.append distinct (List.nodup_singleton _) ?_
    intro id' earlier new
    obtain ⟨task, member, rfl⟩ := List.mem_map.mp earlier
    rw [List.map_singleton, List.mem_singleton] at new
    exact absurd (fresh task member) (by rw [new]; exact Nat.lt_irrefl _)

theorem Accounts.finish {kind : RequestKind} {reverseRx : Option (List Nat)} {readAhead : Bool}
    (accounts : Accounts serde [] state)
    (dispatching : state.phase = .dispatching number ipcId kind reverseRx readAhead)
    (response : IpcResponse Body) :
    (state.finish number ipcId kind reverseRx response).phase = .ended ∨
      Accounts serde [] (state.finish number ipcId kind reverseRx response) := by
  obtain ⟨counted, untagged, last, requests, tagged, fresh, distinct⟩ := accounts
  have held : state.phase.tickets = [⟨number, ipcId⟩] := by
    rw [dispatching]
    rfl
  rw [held] at counted untagged
  rw [Connection.finish]
  dsimp only
  by_cases shutdown : kind = .shutdown
  · rw [if_pos shutdown]
    exact Or.inl rfl
  rw [if_neg shutdown]
  refine Or.inr ⟨?_, ?_, last, requests, tagged, fresh, distinct⟩
  · intro ticket
    have before := counted ticket
    rw [List.count_nil] at before
    change (state.write number ipcId response).answered.count ticket + 0 +
      state.onTasks.count ticket + 0 + state.waiting.count ticket =
        (requestsAmong serde state.read).count ticket
    rw [answered_write, List.count_append]
    omega
  · change (state.write number ipcId response).answered.filter _ ++
      ([] ++ state.waiting.filter _) = (requestsAmong serde state.read).filter _
    rw [answered_write, List.filter_append, List.nil_append, List.append_assoc]
    exact untagged

theorem set_same {Item : Type} {items : List Item} {item : Item} {place : Nat}
    (there : items[place]? = some item) : items.set place item = items := by
  obtain ⟨inside, rfl⟩ := List.getElem?_eq_some_iff.mp there
  exact List.set_getElem_self inside

theorem onTasks_settle {place : Nat} {task : RequestTask Body}
    (there : state.tasks[place]? = some task) (outcome : Option (Option (IpcResponse Body))) :
    { state with tasks := state.tasks.set place { task with outcome := outcome } }.onTasks =
      state.onTasks := by
  change (state.tasks.set place { task with outcome := outcome }).map _ = state.tasks.map _
  rw [List.map_set]
  apply set_same
  rw [List.getElem?_map, there]
  rfl

theorem Accounts.settle {place : Nat} {task : RequestTask Body} (accounts : Accounts serde [] state)
    (there : state.tasks[place]? = some task) (outcome : Option (Option (IpcResponse Body))) :
    Accounts serde []
      { state with tasks := state.tasks.set place { task with outcome := outcome } } := by
  obtain ⟨counted, untagged, last, requests, tagged, fresh, distinct⟩ := accounts
  have known : task ∈ state.tasks := List.mem_of_getElem? there
  refine ⟨?_, untagged, last, requests, ?_, ?_, ?_⟩
  · intro ticket
    rw [onTasks_settle there]
    exact counted ticket
  · intro other member
    obtain earlier | same := List.mem_or_eq_of_mem_set member
    · exact tagged other earlier
    · rw [same]
      exact tagged task known
  · intro other member
    obtain earlier | same := List.mem_or_eq_of_mem_set member
    · exact fresh other earlier
    · rw [same]
      exact fresh task known
  · have ids : (state.tasks.set place { task with outcome := outcome }).map RequestTask.id =
        state.tasks.map RequestTask.id := by
      rw [List.map_set]
      apply set_same
      rw [List.getElem?_map, there]
      rfl
    rw [ids]
    exact distinct

/-- A reply of a task carries the id that its request came with. -/
theorem Accounts.join {place : Nat} {task : RequestTask Body} (accounts : Accounts serde [] state)
    (there : state.tasks[place]? = some task) (outcome : Option (IpcResponse Body)) :
    Accounts serde []
      ({ state with tasks := state.tasks.eraseIdx place }.writeInFlightReply task outcome) := by
  obtain ⟨counted, untagged, last, requests, tagged, fresh, distinct⟩ := accounts
  obtain ⟨inside, whole⟩ := List.getElem?_eq_some_iff.mp there
  obtain ⟨ipcId, present⟩ := tagged task (List.mem_of_getElem? there)
  have apart : (task :: state.tasks.eraseIdx place).Perm state.tasks := by
    rw [← whole]
    exact List.getElem_cons_eraseIdx_perm inside
  have others : ∀ other ∈ state.tasks.eraseIdx place, other.id ≠ task.id := by
    have nodup := (apart.map RequestTask.id).nodup_iff.mpr distinct
    rw [List.map_cons, List.nodup_cons] at nodup
    intro other member same
    exact nodup.1 (same ▸ List.mem_map_of_mem member)
  have remaining : ∀ other ∈ state.tasks.eraseIdx place, other ∈ state.tasks :=
    fun other member => apart.subset (List.mem_cons_of_mem task member)
  rw [Connection.writeInFlightReply]
  dsimp only
  rw [present]
  dsimp only
  have onTasks : (state.tasks.eraseIdx place).map (fun other => (⟨other.number,
      Function.update state.ids task.id none other.id⟩ : Ticket)) =
        (state.tasks.eraseIdx place).map fun other => ⟨other.number, state.ids other.id⟩ := by
    apply List.map_congr_left
    intro other member
    rw [Function.update_of_ne (others other member)]
  refine ⟨?_, ?_, last, requests, ?_, ?_, ?_⟩
  · intro ticket
    have before := counted ticket
    have split : state.onTasks.count ticket = ((state.tasks.eraseIdx place).map fun other =>
        (⟨other.number, state.ids other.id⟩ : Ticket)).count ticket +
          [(⟨task.number, some ipcId⟩ : Ticket)].count ticket := by
      rw [Connection.onTasks, ← (apart.map _).count_eq ticket, List.map_cons, present,
        ← List.singleton_append, List.count_append, Nat.add_comm]
    rw [List.count_nil] at before
    change (List.map _ (state.written ++ [_])).count ticket + state.phase.tickets.count ticket +
      ((state.tasks.eraseIdx place).map fun other =>
        (⟨other.number, Function.update state.ids task.id none other.id⟩ : Ticket)).count ticket +
        0 + state.waiting.count ticket = (requestsAmong serde state.read).count ticket
    rw [onTasks, List.map_append, List.count_append]
    change state.answered.count ticket + [(⟨task.number, some ipcId⟩ : Ticket)].count ticket +
      _ + _ + _ + _ = _
    omega
  · refine Eq.trans ?_ untagged
    change (List.map _ (state.written ++ [_])).filter _ ++ _ = _
    rw [List.map_append, List.filter_append]
    exact congrArg (· ++ _) (List.append_nil _)
  · intro other member
    change ∃ id, Function.update state.ids task.id none other.id = some id
    rw [Function.update_of_ne (others other member)]
    exact tagged other (remaining other member)
  · intro other member
    exact fresh other (remaining other member)
  · exact List.Nodup.sublist ((List.eraseIdx_sublist _ _).map _) distinct

/-! ### Reading -/

/-- A request comes into the hand when nothing waits. -/
theorem Accounts.receive {frame : Frame Content} (accounts : Accounts serde [] state)
    (empty : state.deferred = []) (request : isReply serde frame = false) :
    Accounts serde [⟨state.read.length, frame.ids.ipcId⟩] (state.reads frame) := by
  obtain ⟨counted, untagged, last, requests, tagged, fresh, distinct⟩ := accounts
  have none : state.waiting = [] := by rw [Connection.waiting, empty]; rfl
  refine ⟨?_, ?_, ?_, requests, tagged, fresh, distinct⟩
  · intro ticket
    have before := counted ticket
    rw [none, List.count_nil] at before
    change state.answered.count ticket + state.phase.tickets.count ticket +
      state.onTasks.count ticket + _ + state.waiting.count ticket =
        (requestsAmong serde (state.read ++ [frame])).count ticket
    rw [requestsAmong_request request, List.count_append, none, List.count_nil]
    omega
  · rw [none] at untagged
    change state.answered.filter _ ++ (state.phase.tickets.filter _ ++
      ([(⟨state.read.length, frame.ids.ipcId⟩ : Ticket)] ++ state.waiting).filter _) =
        (requestsAmong serde (state.read ++ [frame])).filter _
    rw [requestsAmong_request request, List.filter_append (requestsAmong serde state.read),
      ← untagged]
    simp only [none, List.filter_nil, List.append_nil, List.append_assoc]
  · change [(⟨state.read.length, frame.ids.ipcId⟩ : Ticket)] ++ state.waiting <:+
      requestsAmong serde (state.read ++ [frame])
    rw [requestsAmong_request request, none, List.append_nil]
    exact List.suffix_append _ _

theorem waiting_defer (number : Nat) (frame : Frame Content) :
    { state with deferred := state.deferred ++ [Received.frame number frame] }.waiting =
      state.waiting ++ [⟨number, frame.ids.ipcId⟩] := by
  change (state.deferred ++ [_]).filterMap _ = _
  rw [List.filterMap_append]
  rfl

/-- A request that is read ahead waits behind the others. -/
theorem Accounts.readAhead {frame : Frame Content} (accounts : Accounts serde [] state)
    (request : isReply serde frame = false) :
    Accounts serde [] ((state.reads frame).readAhead serde state.read.length frame) := by
  obtain ⟨counted, untagged, last, requests, tagged, fresh, distinct⟩ := accounts
  rw [Connection.readAhead, reverseReplyTarget_request request]
  refine ⟨?_, ?_, ?_, ?_, tagged, fresh, distinct⟩
  · intro ticket
    have before := counted ticket
    rw [waiting_defer, List.count_append]
    change state.answered.count ticket + state.phase.tickets.count ticket +
      state.onTasks.count ticket + _ + (state.waiting.count ticket + _) =
        (requestsAmong serde (state.read ++ [frame])).count ticket
    rw [requestsAmong_request request, List.count_append]
    omega
  · rw [waiting_defer]
    change state.answered.filter _ ++ (state.phase.tickets.filter _ ++
      ([] ++ (state.waiting ++ _)).filter _) =
        (requestsAmong serde (state.read ++ [frame])).filter _
    rw [requestsAmong_request request, List.filter_append (requestsAmong serde state.read),
      ← untagged]
    simp only [List.nil_append, List.filter_append, List.append_assoc]
  · rw [waiting_defer]
    obtain ⟨front, whole⟩ := last
    refine ⟨front, ?_⟩
    change front ++ ([] ++ (state.waiting ++ _)) = requestsAmong serde (state.read ++ [frame])
    rw [requestsAmong_request request, ← whole, List.nil_append, List.nil_append,
      List.append_assoc]
  · intro number other member
    obtain earlier | new := List.mem_append.mp member
    · exact requests number other earlier
    · cases List.mem_singleton.mp new
      exact request

/-- A reply to a reverse request has no ticket. -/
theorem Accounts.reply {frame : Frame Content} {next : Connection Content Result Body}
    (accounts : Accounts serde hand state) (reply : isReply serde frame = true)
    (parts : next.requestParts = state.requestParts) (read : next.read = state.read ++ [frame]) :
    Accounts serde hand next := by
  have unread : Accounts serde hand { next with read := state.read } :=
    accounts.same parts rfl
  obtain ⟨counted, untagged, last, requests, tagged, fresh, distinct⟩ := unread
  have same : requestsAmong serde next.read = requestsAmong serde state.read := by
    rw [read, requestsAmong_reply reply]
  refine ⟨?_, ?_, ?_, requests, tagged, fresh, distinct⟩
  · rw [same]
    exact counted
  · rw [same]
    exact untagged
  · rw [same]
    exact last

/-- What was read ahead comes into the hand. -/
theorem Accounts.next {rest : List (Received Content)} {frame : Frame Content}
    (accounts : Accounts serde [] state) (queue : state.deferred = .frame number frame :: rest) :
    Accounts serde [⟨number, frame.ids.ipcId⟩] (state.popped rest) := by
  obtain ⟨counted, untagged, last, requests, tagged, fresh, distinct⟩ := accounts
  have waiting : state.waiting =
      [⟨number, frame.ids.ipcId⟩] ++ (state.popped rest).waiting := by
    rw [Connection.waiting, queue]
    rfl
  rw [waiting] at untagged last
  refine ⟨?_, untagged, last, ?_, tagged, fresh, distinct⟩
  · intro ticket
    have before := counted ticket
    rw [waiting, List.count_append, List.count_nil] at before
    change state.answered.count ticket + state.phase.tickets.count ticket +
      state.onTasks.count ticket + _ + _ = (requestsAmong serde state.read).count ticket
    omega
  · intro other given member
    exact requests other given (by rw [queue]; exact List.mem_cons_of_mem _ member)

theorem Accounts.handleRequest {request : IpcRequest}
    (accounts : Accounts serde [⟨number, ipcId⟩] state) (idle : state.phase = .idle) :
    Accounts serde [] (state.handleRequest number ipcId request) := by
  cases ipcId with
  | none => exact accounts.dispatch idle request.kind
  | some id =>
    rw [Connection.handleRequest]
    by_cases beside : state.session = true ∧ mustRunInline request = false
    · rw [if_pos beside]
      by_cases permit : state.running < maxConcurrentRequestsPerConnection
      · rw [if_pos permit]
        exact accounts.spawn
      · rw [if_neg permit]
        exact accounts.write idle busy
    · rw [if_neg beside]
      exact accounts.dispatch idle request.kind

/-- A request in hand is answered, taken up, or the end of the connection. -/
theorem Accounts.handleFrame {frame : Frame Content}
    (accounts : Accounts serde [⟨number, frame.ids.ipcId⟩] state) (authToken : String)
    (idle : state.phase = .idle) (request : isReply serde frame = false) :
    (state.handleFrame serde authToken number frame).phase = .ended ∨
      Accounts serde [] (state.handleFrame serde authToken number frame) := by
  rw [Connection.handleFrame, reverseReplyTarget_request request]
  dsimp only
  cases parsed : parseRequest serde frame with
  | none => exact Or.inl rfl
  | some given =>
    dsimp only
    cases refused : (authorize authToken given : Option (IpcResponse Body)) with
    | some refusal => exact Or.inr (accounts.write idle refusal)
    | none => exact Or.inr (accounts.handleRequest idle)

end Accounts

end Plug.Daemon
