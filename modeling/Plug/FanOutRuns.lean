import Plug.FanOut

/-!
# Clients learn that a list has changed

A loop comes to every notification once: it reads it and sends it to its clients, or it learns
that it has missed it, and then sends a log message. What is missed is not made up for.
-/

namespace Plug.FanOut

open BroadcastChannels (Received receive)
open ListChanged (Kind)

/-- What happened: a notification was published, or the loop has read one, or has learned how many
it missed from which position on, with the clients at the time and what it sent them. -/
inductive Entry (Params Clients : Type) where
  | published (notification : ProtocolNotification Params)
  | read (position : Nat) (notification : ProtocolNotification Params) (clients : Clients)
      (delivered : List (NotificationTarget × Message Params))
  | lagged (first skipped : Nat) (clients : Clients)
      (delivered : List (NotificationTarget × Message Params))

structure State (Params Clients : Type) where
  sent : List (ProtocolNotification Params)
  position : Nat
  clients : Clients
  running : Bool
  log : List (Entry Params Clients)

inductive Act (Params Clients : Type) where
  | publish (notification : ProtocolNotification Params)
  /-- Clients come and go, and rules change. -/
  | change (clients : Clients)
  | receive
  /-- The daemon stops, or the connection to the client ends. -/
  | stop

variable {Params Clients : Type}

def State.new (clients : Clients) : State Params Clients := ⟨[], 0, clients, true, []⟩

def step (loop : Loop Params Clients) (state : State Params Clients) :
    Act Params Clients → Option (State Params Clients)
  | .publish notification =>
    some { state with
      sent := state.sent ++ [notification]
      log := state.log ++ [.published notification] }
  | .change clients => some { state with clients := clients }
  | .receive =>
    if state.running then
      match receive notificationChannelSize state.sent state.position with
      | some (.item notification, next) =>
        some { state with
          position := next
          log := state.log ++ [.read state.position notification state.clients
            (loop.deliver state.clients notification)] }
      | some (.lagged skipped, next) =>
        some { state with
          position := next
          log := state.log ++ [.lagged state.position skipped state.clients
            (loop.deliverLag state.clients skipped)] }
      | none => none
    else none
  | .stop => some { state with running := false }

def Entry.isPublished : Entry Params Clients → Bool
  | .published _ => true
  | _ => false

/-- How many notifications were published. -/
def publishedIn (log : List (Entry Params Clients)) : Nat := log.countP Entry.isPublished

/-- The loop has read the notification at the position, and sent it to its clients. -/
def Read (loop : Loop Params Clients) (later : List (Entry Params Clients)) (position : Nat)
    (notification : ProtocolNotification Params) : Prop :=
  ∃ clients, .read position notification clients (loop.deliver clients notification) ∈ later

/-- The loop has learned that it missed the position, and sent its clients a log message. -/
def Missed (loop : Loop Params Clients) (later : List (Entry Params Clients)) (position : Nat) :
    Prop :=
  ∃ first skipped clients, .lagged first skipped clients (loop.deliverLag clients skipped) ∈ later ∧
    first ≤ position ∧ position < first + skipped

/-- Whatever the loop has come past it has read or missed. -/
structure Accounted (loop : Loop Params Clients) (state : State Params Clients) : Prop where
  published : publishedIn state.log = state.sent.length
  position : state.position ≤ state.sent.length
  entry : ∀ before notification after, state.log = before ++ .published notification :: after →
    state.sent[publishedIn before]? = some notification ∧
      (publishedIn before < state.position →
        Read loop after (publishedIn before) notification ∨ Missed loop after (publishedIn before))

section Steps

variable {loop : Loop Params Clients} {state next : State Params Clients}
  {act : Act Params Clients}

theorem Read.concat {later : List (Entry Params Clients)} {position : Nat}
    {notification : ProtocolNotification Params} (read : Read loop later position notification)
    (entry : Entry Params Clients) : Read loop (later ++ [entry]) position notification := by
  obtain ⟨clients, member⟩ := read
  exact ⟨clients, List.mem_append_left _ member⟩

theorem Missed.concat {later : List (Entry Params Clients)} {position : Nat}
    (missed : Missed loop later position) (entry : Entry Params Clients) :
    Missed loop (later ++ [entry]) position := by
  obtain ⟨first, skipped, clients, member, within⟩ := missed
  exact ⟨first, skipped, clients, List.mem_append_left _ member, within⟩

/-- What was published before a new entry of the log, or is that entry. -/
theorem published_concat {log before after : List (Entry Params Clients)}
    {entry : Entry Params Clients} {notification : ProtocolNotification Params}
    (same : log ++ [entry] = before ++ .published notification :: after) :
    (before = log ∧ entry = .published notification) ∨
      ∃ between, log = before ++ .published notification :: between ∧ after = between ++ [entry] := by
  obtain rfl | ⟨between, last, rfl⟩ := List.eq_nil_or_concat' after
  · obtain ⟨rfl, last⟩ := List.append_inj' same rfl
    exact Or.inl ⟨rfl, (List.cons.inj last).1⟩
  · rw [← List.cons_append, ← List.append_assoc] at same
    obtain ⟨rfl, last⟩ := List.append_inj' same rfl
    exact Or.inr ⟨between, rfl, congrArg (between ++ ·) last.symm⟩

/-- The loop comes to a further position, and its new entry accounts for what it has come past. -/
theorem Accounted.receives (accounted : Accounted loop state) {position : Nat}
    {entry : Entry Params Clients} (silent : entry.isPublished = false)
    (bound : position ≤ state.sent.length)
    (accounts : ∀ index notification, state.position ≤ index → index < position →
      state.sent[index]? = some notification →
      Read loop [entry] index notification ∨ Missed loop [entry] index) :
    Accounted loop { state with position := position, log := state.log ++ [entry] } where
  published := by
    have none : publishedIn [entry] = 0 := by
      rw [publishedIn, List.countP_singleton, silent]
      rfl
    rw [publishedIn, List.countP_append, ← publishedIn, ← publishedIn, none, accounted.published]
    rfl
  position := bound
  entry before notification after same := by
    obtain ⟨-, rfl⟩ | ⟨between, earlier, rfl⟩ := published_concat same
    · cases silent
    obtain ⟨there, past⟩ := accounted.entry before notification between earlier
    refine ⟨there, fun come => ?_⟩
    by_cases already : publishedIn before < state.position
    · exact (past already).imp (·.concat entry) (·.concat entry)
    · obtain ⟨clients, member⟩ | ⟨first, skipped, clients, member, within⟩ :=
        accounts _ notification (Nat.le_of_not_lt already) come there
      · exact Or.inl ⟨clients, List.mem_append_right _ member⟩
      · exact Or.inr ⟨first, skipped, clients, List.mem_append_right _ member, within⟩

theorem accounted_step (accounted : Accounted loop state)
    (stepped : step loop state act = some next) : Accounted loop next := by
  cases act with
  | publish notification =>
    cases stepped
    constructor
    · show publishedIn (state.log ++ [_]) = (state.sent ++ [notification]).length
      rw [publishedIn, List.countP_append, ← publishedIn, accounted.published, List.length_append]
      rfl
    · show state.position ≤ (state.sent ++ [notification]).length
      rw [List.length_append]
      exact Nat.le_trans accounted.position (Nat.le_add_right ..)
    · intro before other after same
      obtain ⟨rfl, new⟩ | ⟨between, earlier, rfl⟩ := published_concat same
      · cases new
        refine ⟨?_, fun come => ?_⟩
        · show (state.sent ++ [notification])[publishedIn state.log]? = some notification
          rw [accounted.published, List.getElem?_concat_length]
        · have come : publishedIn state.log < state.position := come
          have bound := accounted.position
          have size := accounted.published
          omega
      · obtain ⟨there, past⟩ := accounted.entry before other between earlier
        refine ⟨?_, fun come => ?_⟩
        · show (state.sent ++ [notification])[publishedIn before]? = some other
          rw [List.getElem?_append_left (List.getElem?_eq_some_iff.mp there).1, there]
        · exact (past come).imp (·.concat _) (·.concat _)
  | change clients =>
    cases stepped
    exact ⟨accounted.published, accounted.position, accounted.entry⟩
  | stop =>
    cases stepped
    exact ⟨accounted.published, accounted.position, accounted.entry⟩
  | receive =>
    rw [step] at stepped
    split at stepped
    · split at stepped
      · rename_i notification position got
        cases stepped
        obtain ⟨there, rfl⟩ := BroadcastChannels.receive_item got
        refine accounted.receives rfl (List.getElem?_eq_some_iff.mp there).1 ?_
        intro index other reached come found
        obtain rfl : index = state.position := by omega
        obtain rfl := Option.some.inj (there.symm.trans found)
        exact Or.inl ⟨state.clients, List.mem_cons_self⟩
      · rename_i skipped position got
        cases stepped
        obtain ⟨rfl, -, bound⟩ := BroadcastChannels.receive_lagged got
        refine accounted.receives rfl bound ?_
        intro index other reached come found
        exact Or.inr ⟨state.position, skipped, state.clients, List.mem_cons_self, reached, come⟩
      · cases stepped
    · cases stepped

end Steps

/-- When the loop has come past a notification of a changed list, it has sent it since to every
client that may be told; or the notification was among those that it was told to have missed, and
then it has sent since, to every client that may be sent log messages, how many these were. -/
def Tells (loop : Loop Params Clients) : Prop :=
  ∀ clients trace final, Runs.exec (step loop) (.new clients) trace = some final →
    ∀ before notification after kind, final.log = before ++ .published notification :: after →
    notification.listKind = some kind → publishedIn before < final.position →
      (∃ position clients delivered, .read position notification clients delivered ∈ after ∧
        ∀ client, loop.mayBeTold clients client notification →
          (client, .listChanged kind) ∈ delivered) ∨
      ∃ first skipped clients delivered, .lagged first skipped clients delivered ∈ after ∧
        first ≤ publishedIn before ∧ publishedIn before < first + skipped ∧
        ∀ client, loop.mayBeSentLogs clients client →
          (client, .controlLaggedLog skipped loop.transport) ∈ delivered

theorem loop_tells (loop : Loop Params Clients) : Tells loop := by
  intro clients trace final ran before notification after kind split changed come
  have accounted : Accounted loop final := by
    refine Runs.exec_invariant (step loop) (fun _ _ => True) (Accounted loop)
      (fun _ _ _ _ accounted stepped => accounted_step accounted stepped) trace (.new clients) final
      ⟨rfl, Nat.le_refl 0, ?_⟩ (Runs.Admitted.of_forall (fun _ _ => trivial) _) ran
    intro before notification after none
    exact absurd none.symm (List.append_ne_nil_of_right_ne_nil before (List.cons_ne_nil _ _))
  obtain ⟨clients, member⟩ | ⟨first, skipped, clients, member, reached, past⟩ :=
    (accounted.entry before notification after split).2 come
  · exact Or.inl ⟨_, clients, _, member, fun client told =>
      loop.tells clients notification kind client changed told⟩
  · exact Or.inr ⟨first, skipped, clients, _, member, reached, past, fun client told =>
      loop.tellsLag clients skipped client told⟩

/-- The loops of the three transports tell their clients of the changed lists that they do not
miss, and of what they miss. -/
theorem lists_told (Params : Type) :
    (∀ clientId, Tells (stdioLoop clientId : Loop Params Unit)) ∧
      Tells (httpLoop : Loop Params HttpClients) ∧
      ∀ sessionId, Tells (ipcLoop sessionId : Loop Params IpcClient) :=
  ⟨fun clientId => loop_tells (stdioLoop clientId), loop_tells httpLoop,
    fun sessionId => loop_tells (ipcLoop sessionId)⟩

def editor : NotificationTarget := .stdio "editor".toList

/-- The list of tools changes, and 128 times a call makes progress, before the loop reads again. -/
def overrun : List (Act Unit Unit) :=
  .publish .toolListChanged :: List.replicate 128 (.publish (.progress editor ())) ++
    List.replicate 129 .receive

def Entry.tellsTools : Entry Unit Unit → Bool
  | .read _ _ _ delivered => delivered.any fun sent => sent.2 == .listChanged .tool
  | _ => false

/-- The loop has read all there is, and the client was never told that the list had changed. -/
theorem change_overrun : ∃ final,
    Runs.exec (step (stdioLoop "editor".toList)) (.new ()) overrun = some final ∧
      final.running = true ∧ final.position = 129 ∧ final.sent.length = 129 ∧
      final.log.any Entry.tellsTools = false := by
  have shown : ((Runs.exec (step (stdioLoop "editor".toList)) (.new ()) overrun).map fun final =>
      (final.running, final.position, final.sent.length, final.log.any Entry.tellsTools)) =
      some (true, 129, 129, false) := by
    decide +kernel
  obtain ⟨final, ran, seen⟩ := Option.map_eq_some_iff.mp shown
  simp only [Prod.mk.injEq] at seen
  exact ⟨final, ran, seen⟩

end Plug.FanOut
