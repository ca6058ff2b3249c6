import Plug.MuxReplies

/-!
# Replies reach the requests they answer

Without ids a reply takes the oldest waiter, and the waiters have to stay in step with the replies
that are due: while the connection is open they are the same calls in the same order, and once it
is closed the waiters are the first of them.
-/

namespace Plug.Proxy

open Runs Ipc

variable {Caller : Type}

variable {tagged : Bool} {mux : DaemonMux Caller} {caller : Caller}

/-- The call is about to take its place in the table. -/
def Phase.placing : Phase → Bool
  | .numbered => true
  | .encoded => true
  | _ => false

/-- The waiters, the oldest first. -/
def DaemonMux.waiters (mux : DaemonMux Caller) : List Caller :=
  mux.pending.map Prod.snd

/-- The calls that replies are due to, and the one that is about to hand its request over. -/
structure Line (mux : DaemonMux Caller) (last : List Caller) : Prop where
  registered : ∀ caller, caller ∈ last ↔ (mux.roundTrips caller).phase = .registered
  single : last.length ≤ 1
  first : mux.waiters <+: mux.due.map Frame.request ++ last
  all : mux.closed = none → mux.waiters = mux.due.map Frame.request ++ last

/-- One call at a time holds the slot, and its waiter is the latest. -/
structure Slotted (mux : DaemonMux Caller) : Prop where
  slots : mux.slots ≤ 1
  alone : ∀ caller other, (mux.roundTrips caller).phase.holds = true →
    (mux.roundTrips other).phase.holds = true → caller = other
  taken : ∀ caller, (mux.roundTrips caller).phase.holds = true → mux.slots = 0
  plain : ∀ caller, (mux.roundTrips caller).bypass = false
  newest : ∀ caller id, (mux.roundTrips caller).phase.placing = true →
    (mux.roundTrips caller).id = some id → ∀ item ∈ mux.pending, item.1 < id
  latest : ∀ caller, (mux.roundTrips caller).phase.waits = true → caller ∈ mux.waiters →
    mux.waiters.getLast? = some caller

structure InOrder (mux : DaemonMux Caller) : Prop extends Slotted mux where
  line : ∃ last, Line mux last

theorem inOrder_start (ceiling : Nat) :
    InOrder (DaemonMux.start false ceiling : DaemonMux Caller) := by
  have slotted : Slotted (DaemonMux.start false ceiling : DaemonMux Caller) := by
    constructor <;> simp [DaemonMux.start, Phase.holds, Phase.waits, Phase.placing]
  refine ⟨slotted, [], ?_⟩
  constructor <;> simp [DaemonMux.start, DaemonMux.due, DaemonMux.waiters]

theorem holds_of_waits {phase : Phase} (waits : phase.waits = true) : phase.holds = true := by
  cases phase <;> first | rfl | cases waits

theorem holds_of_placing {phase : Phase} (placing : phase.placing = true) :
    phase.holds = true := by
  cases phase <;> first | rfl | cases placing

/-- No call waits twice. -/
theorem waiters_nodup (handing : Handing mux) (matched : Matched tagged mux) {last : List Caller}
    (line : Line mux last) : (mux.due.map Frame.request ++ last).Nodup := by
  refine List.nodup_append.mpr ⟨(List.nodup_append.mp matched.once).2.1, ?_, ?_⟩
  · match last, line.single with
    | [], _ => exact List.nodup_nil
    | [_], _ => simp
  · rintro request member other registered rfl
    obtain ⟨frame, due, rfl⟩ := List.mem_map.mp member
    have sent := handing.sent frame.request (handing.due frame due)
    simp [(line.registered frame.request).mp registered, Phase.sent] at sent

/-- Nothing that the order is about changes, unless the connection is closed. -/
theorem inOrder_same (order : InOrder mux) {next : DaemonMux Caller}
    (trips : next.roundTrips = mux.roundTrips) (slots : next.slots = mux.slots)
    (pending : next.pending = mux.pending) (closed : next.closed = none → mux.closed = none)
    (due : next.due = mux.due) : InOrder next := by
  have waiters : next.waiters = mux.waiters := congrArg (List.map Prod.snd) pending
  have slotted : Slotted next := by
    constructor
    · exact slots ▸ order.slots
    · exact trips ▸ order.alone
    · rw [trips, slots]
      exact order.taken
    · exact trips ▸ order.plain
    · rw [trips, pending]
      exact order.newest
    · rw [trips, waiters]
      exact order.latest
  obtain ⟨last, line⟩ := order.line
  refine ⟨slotted, last, ?_, line.single, ?_, ?_⟩
  · exact trips ▸ line.registered
  · rw [waiters, due]
    exact line.first
  · rw [waiters, due]
    exact fun open' => line.all (closed open')

/-- The table is emptied when the connection is closed. -/
theorem inOrder_emptied (order : InOrder mux) (closed : String) (writer : Writer) :
    InOrder { mux with pending := [], closed := some closed, writer := writer } := by
  refine ⟨⟨order.slots, order.alone, order.taken, order.plain, nofun, nofun⟩, ?_⟩
  obtain ⟨last, line⟩ := order.line
  exact ⟨last, line.registered, line.single, List.nil_prefix, nofun⟩

/-- While a call that has not registered holds the slot, no call is registered. -/
theorem nobody_registered (order : InOrder mux)
    (held : (mux.roundTrips caller).phase.holds = true)
    (unregistered : (mux.roundTrips caller).phase ≠ .registered) {last : List Caller}
    (line : Line mux last) : last = [] := by
  apply List.eq_nil_iff_forall_not_mem.mpr
  intro other member
  have registered := (line.registered other).mp member
  have same := order.alone other caller (by simp [registered, Phase.holds]) held
  exact unregistered (same ▸ registered)

theorem map_removeWaiter_subset (id : Nat) (pending : List (Nat × Caller)) :
    removeWaiter id pending ⊆ pending :=
  List.filter_subset_self _

/-- The waiter that a reply finds is the one of the request it answers. -/
theorem waiter_matches (matched : Matched tagged mux) (order : tagged = false → InOrder mux)
    {frame : Frame Caller} {rest : List (Incoming Caller)}
    (queued : mux.toProxy = .reply frame :: rest) {waiter : Caller}
    (found : mux.waiterFor frame = some waiter) : waiter = frame.request := by
  have read := due_read queued
  obtain ⟨numbered, tag⟩ := matched.tags frame (by rw [read]; simp [Incoming.answers])
  cases tagged with
  | true =>
    rw [if_pos rfl] at tag
    obtain ⟨id, own⟩ := Option.isSome_iff_exists.mp numbered
    rw [own] at tag
    simp only [DaemonMux.waiterFor, tag] at found
    have place := matched.places (id, waiter) (mem_of_waiterOf found)
    exact matched.distinct waiter frame.request id place own
  | false =>
    obtain ⟨last, line⟩ := (order rfl).line
    have first := line.first
    simp only [DaemonMux.waiterFor, tag, Bool.false_eq_true, if_false] at found
    obtain ⟨item, oldest, rfl⟩ := Option.map_eq_some_iff.mp found
    obtain ⟨later, split'⟩ := List.head?_eq_some_iff.mp oldest
    rw [read, DaemonMux.waiters, split'] at first
    exact (List.cons_prefix_cons.mp first).1

variable [DecidableEq Caller]

theorem slotted_update (order : Slotted mux) (caller : Caller) (trip : RoundTrip Caller)
    (slots nextId : Nat) (bounded : slots ≤ 1) (plain : trip.bypass = false)
    (others : ∀ other, other ≠ caller → (mux.roundTrips other).phase.holds = true →
      slots = 0 ∧ trip.phase.holds = false)
    (taken : trip.phase.holds = true → slots = 0)
    (newest : ∀ id, trip.phase.placing = true → trip.id = some id →
      ∀ item ∈ mux.pending, item.1 < id)
    (latest : trip.phase.waits = true → caller ∈ mux.waiters →
      mux.waiters.getLast? = some caller) :
    Slotted { mux with
      roundTrips := Function.update mux.roundTrips caller trip
      slots := slots
      nextId := nextId } := by
  constructor
  · exact bounded
  · intro first second left right
    dsimp only at left right
    rw [Function.update_apply] at left right
    split at left
    · rename_i here
      split at right
      · rename_i there
        rw [here, there]
      · rename_i there
        have idle := (others second there right).2
        simp [left] at idle
    · rename_i here
      split at right
      · have idle := (others first here left).2
        simp [right] at idle
      · exact order.alone first second left right
  · intro other held
    dsimp only at held ⊢
    rw [Function.update_apply] at held
    split at held
    · exact taken held
    · rename_i differs
      exact (others other differs held).1
  · intro other
    dsimp only
    rw [Function.update_apply]
    split
    · exact plain
    · exact order.plain other
  · intro other id placing found
    dsimp only at placing found ⊢
    rw [Function.update_apply] at placing found
    split at placing
    · rename_i same
      rw [if_pos same] at found
      exact newest id placing found
    · rename_i differs
      rw [if_neg differs] at found
      exact order.newest other id placing found
  · intro other waits member
    dsimp only at waits
    rw [Function.update_apply] at waits
    split at waits
    · rename_i same
      exact same ▸ latest waits (same ▸ member)
    · exact order.latest other waits member

/-- Whether the request of a call is about to be handed over does not change. -/
theorem line_update (order : InOrder mux) (caller : Caller) (trip : RoundTrip Caller)
    (slots nextId : Nat)
    (registered : trip.phase = .registered ↔ (mux.roundTrips caller).phase = .registered) :
    ∃ last, Line { mux with
      roundTrips := Function.update mux.roundTrips caller trip
      slots := slots
      nextId := nextId } last := by
  obtain ⟨last, line⟩ := order.line
  refine ⟨last, ?_, line.single, line.first, line.all⟩
  intro other
  dsimp only
  rw [Function.update_apply]
  split
  · rename_i same
    rw [same, registered]
    exact line.registered caller
  · exact line.registered other

theorem inOrder_resolve (order : InOrder mux) (waiters : List Caller)
    (reply : Except TransportFailure Caller) : InOrder (mux.resolve waiters reply) := by
  refine ⟨?_, ?_⟩
  · constructor
    · exact order.slots
    · simpa only [resolve_phase] using order.alone
    · intro caller
      rw [resolve_phase]
      exact order.taken caller
    · simpa only [resolve_bypass] using order.plain
    · intro caller id
      rw [resolve_phase, resolve_id]
      exact order.newest caller id
    · intro caller
      rw [resolve_phase]
      exact order.latest caller
  · obtain ⟨last, line⟩ := order.line
    refine ⟨last, ?_, line.single, line.first, line.all⟩
    simpa only [resolve_phase] using line.registered

theorem inOrder_close (order : InOrder mux) (failure : TransportFailure) :
    InOrder (mux.close failure) :=
  inOrder_emptied (inOrder_resolve order (mux.pending.map Prod.snd) (.error failure)) _ mux.writer

/-- A call that holds the slot is the only one, so the others are as they were. -/
theorem slotted_setPhase (order : Slotted mux) (caller : Caller) (phase : Phase)
    (held : (mux.roundTrips caller).phase.holds = true)
    (placing : phase.placing = true → (mux.roundTrips caller).phase.placing = true)
    (waits : phase.waits = true → (mux.roundTrips caller).phase.waits = true) :
    Slotted (mux.setPhase caller phase) := by
  refine slotted_update order caller { mux.roundTrips caller with phase := phase } mux.slots
    mux.nextId order.slots (order.plain caller) ?_ (fun _ => order.taken caller held)
    (fun id early found => order.newest caller id (placing early) found)
    (fun more member => order.latest caller (waits more) member)
  intro other differs also
  exact absurd (order.alone other caller also held) differs

/-- A call that is over gives its slot back. -/
theorem inOrder_over (order : InOrder mux) (caller : Caller) (trip : RoundTrip Caller)
    (plain : trip.bypass = false) (idle : trip.phase.holds = false)
    (unregistered : (mux.roundTrips caller).phase ≠ .registered) :
    InOrder { mux with
      roundTrips := Function.update mux.roundTrips caller trip
      slots := mux.release (mux.roundTrips caller) } := by
  have freed : (mux.roundTrips caller).phase.holds = true ∧
      mux.release (mux.roundTrips caller) = 1 ∨
      (mux.roundTrips caller).phase.holds = false ∧
      mux.release (mux.roundTrips caller) = mux.slots := by
    cases held : (mux.roundTrips caller).phase.holds with
    | true => simp [DaemonMux.release, held, order.plain caller, order.taken caller held]
    | false => simp [DaemonMux.release, held]
  have registered : trip.phase = .registered ↔ (mux.roundTrips caller).phase = .registered := by
    refine ⟨?_, fun same => absurd same unregistered⟩
    intro same
    simp [same, Phase.holds] at idle
  refine ⟨slotted_update order.toSlotted caller trip _ mux.nextId ?_ plain ?_ (by simp [idle]) ?_ ?_,
    line_update order caller trip _ mux.nextId registered⟩
  · have slots := order.slots
    omega
  · intro other differs also
    refine ⟨?_, idle⟩
    rcases freed with ⟨held, -⟩ | ⟨-, same⟩
    · exact absurd (order.alone other caller also held) differs
    · rw [same]
      exact order.taken other also
  · intro id placing
    simp [holds_of_placing placing] at idle
  · intro waits
    simp [holds_of_waits waits] at idle

theorem inOrder_finish (order : InOrder mux) (caller : Caller) (result : Except TransportFailure Caller)
    (unregistered : (mux.roundTrips caller).phase ≠ .registered) :
    InOrder (mux.finish caller result) :=
  inOrder_over order caller { mux.roundTrips caller with phase := .finished, result := some result }
    (order.plain caller) rfl unregistered

theorem inOrder_insertPending (order : InOrder mux) {id : Nat}
    (encoded : (mux.roundTrips caller).phase = .encoded)
    (numbered : (mux.roundTrips caller).id = some id) (opened : mux.closed = none) :
    InOrder (mux.insertPending caller id) := by
  have held : (mux.roundTrips caller).phase.holds = true := by simp [encoded, Phase.holds]
  have newest := order.newest caller id (by simp [encoded, Phase.placing]) numbered
  have told := inOrder_resolve order (waiterOf id mux.pending).toList (.error connectionClosed)
  have waiters : (mux.insertPending caller id).waiters = mux.waiters ++ [caller] := by
    simp [DaemonMux.insertPending, DaemonMux.waiters, insertWaiter_newest newest]
  have phase (other : Caller) : ((mux.insertPending caller id).roundTrips other).phase =
      if other = caller then .registered else (mux.roundTrips other).phase := by
    simp only [DaemonMux.insertPending, DaemonMux.setPhase, Function.update_apply]
    split
    · rfl
    · exact resolve_phase _ _ other
  have other_idle (other : Caller) (differs : other ≠ caller) :
      (mux.roundTrips other).phase.holds = false := by
    by_contra also
    exact differs (order.alone other caller (by simpa using also) held)
  refine ⟨⟨order.slots, ?_, fun _ _ => order.taken caller held, ?_, ?_, ?_⟩, ?_⟩
  · intro first second left right
    rw [phase] at left right
    split at left
    · rename_i here
      split at right
      · rename_i there
        rw [here, there]
      · rename_i there
        simp [other_idle second there] at right
    · rename_i here
      simp [other_idle first here] at left
  · intro other
    simp only [DaemonMux.insertPending, DaemonMux.setPhase, Function.update_apply]
    split
    · exact (resolve_bypass _ _ caller).trans (order.plain caller)
    · exact (resolve_bypass _ _ other).trans (order.plain other)
  · intro other _ placing
    rw [phase] at placing
    split at placing
    · cases placing
    · rename_i differs
      have idle := other_idle other differs
      simp [holds_of_placing placing] at idle
  · intro other waits member
    rw [phase] at waits
    split at waits
    · rename_i same
      rw [waiters, same]
      simp
    · rename_i differs
      have idle := other_idle other differs
      simp [holds_of_waits waits] at idle
  · obtain ⟨last, line⟩ := order.line
    obtain rfl := nobody_registered order held (by simp [encoded]) line
    have same : mux.waiters = mux.due.map Frame.request := by simpa using line.all opened
    refine ⟨[caller], ?_, by simp, ?_, ?_⟩
    · intro other
      rw [phase, List.mem_singleton]
      split
      · rename_i same
        simp [same]
      · rename_i differs
        have idle := other_idle other differs
        simp only [differs, false_iff]
        intro registered
        simp [registered, Phase.holds] at idle
    · rw [waiters, same]
      exact List.prefix_rfl
    · intro _
      rw [waiters, same]
      rfl

theorem inOrder_handOver (order : InOrder mux) (frame : Frame Caller)
    (own : frame.request = caller)
    (registered : (mux.roundTrips caller).phase = .registered) :
    InOrder (mux.handOver caller frame) := by
  have held : (mux.roundTrips caller).phase.holds = true := by simp [registered, Phase.holds]
  have waiting := slotted_setPhase order.toSlotted caller .waiting held (by simp [Phase.placing])
    (fun _ => by simp [registered, Phase.waits])
  obtain ⟨last, line⟩ := order.line
  obtain rfl : last = [caller] := by
    have member := (line.registered caller).mpr registered
    match last, line.single, member with
    | [only], _, member => rw [List.mem_singleton.mp member]
  have grown : (mux.handOver caller frame).due.map Frame.request =
      mux.due.map Frame.request ++ [caller] := by
    simp [DaemonMux.due, DaemonMux.handOver, DaemonMux.setPhase, own]
  refine ⟨⟨waiting.slots, waiting.alone, waiting.taken, waiting.plain, waiting.newest,
    waiting.latest⟩, [], ?_, by simp, ?_, ?_⟩
  · intro other
    simp only [List.not_mem_nil, false_iff]
    dsimp only [DaemonMux.handOver, DaemonMux.setPhase]
    rw [Function.update_apply]
    split
    · simp
    · rename_i differs
      intro also
      exact differs (List.mem_singleton.mp ((line.registered other).mpr also))
  · rw [grown, List.append_nil]
    exact line.first
  · rw [grown, List.append_nil]
    exact line.all

/-- A writer that has stopped takes no payload, and the connection is closed. -/
theorem inOrder_stopped (order : InOrder mux) (failure : TransportFailure)
    (registered : (mux.roundTrips caller).phase = .registered) :
    InOrder ((mux.close failure).setPhase caller .waiting) := by
  have closed := inOrder_close order failure
  have phase (other : Caller) : ((mux.close failure).roundTrips other).phase =
      (mux.roundTrips other).phase := resolve_phase _ _ other
  have waiting := slotted_setPhase closed.toSlotted caller .waiting
    (by simp [phase, registered, Phase.holds]) nofun (fun _ => by simp [phase, registered, Phase.waits])
  refine ⟨waiting, [], ?_, by simp, List.nil_prefix, nofun⟩
  intro other
  simp only [List.not_mem_nil, false_iff]
  dsimp only [DaemonMux.setPhase]
  rw [Function.update_apply]
  split
  · exact nofun
  · rename_i differs
    rw [phase]
    intro also
    exact differs (order.alone other caller (by simp [also, Phase.holds])
      (by simp [registered, Phase.holds]))

/-- Taking out the waiter of the call that holds the slot leaves the ones before it. -/
theorem removeWaiter_first (handing : Handing mux) (matched : Matched tagged mux)
    (order : InOrder mux) {id : Nat} (numbered : (mux.roundTrips caller).id = some id)
    (waits : (mux.roundTrips caller).phase.waits = true) :
    (removeWaiter id mux.pending).map Prod.snd <+: mux.waiters := by
  have own (item : Nat × Caller) (member : item ∈ mux.pending) (differs : item.2 ≠ caller) :
      item.1 ≠ id := by
    intro same
    have place := matched.places item member
    rw [same] at place
    exact differs (matched.distinct item.2 caller id place numbered)
  by_cases member : caller ∈ mux.waiters
  · obtain ⟨line, first⟩ := order.line
    have nodup : mux.waiters.Nodup :=
      (waiters_nodup handing matched first).sublist first.first.sublist
    obtain ⟨earlier, same⟩ := List.getLast?_eq_some_iff.mp (order.latest caller waits member)
    obtain ⟨items, tail, split', before, after⟩ := List.map_eq_append_iff.mp same
    obtain ⟨item, rest, rfl, last, nothing⟩ := List.map_eq_cons_iff.mp after
    obtain rfl := List.map_eq_nil_iff.mp nothing
    have kept : removeWaiter id items = items := by
      apply List.filter_eq_self.mpr
      intro other present
      have differs : other.2 ≠ caller := by
        rintro rfl
        rw [same, ← before] at nodup
        refine (List.nodup_append.mp nodup).2.2 other.2 (List.mem_map_of_mem present) other.2 ?_ rfl
        exact List.mem_singleton_self _
      have known := own other (split' ▸ List.mem_append_left _ present) differs
      simpa using known
    have place := matched.places item (split' ▸ List.mem_append_right _ (List.mem_singleton_self _))
    rw [last, numbered] at place
    have gone : removeWaiter id [item] = [] := by
      simp [removeWaiter, Option.some.inj place]
    refine ⟨[caller], ?_⟩
    rw [same, split', ← before, removeWaiter, List.filter_append, ← removeWaiter, ← removeWaiter,
      kept, gone, List.append_nil]
  · have kept : removeWaiter id mux.pending = mux.pending := by
      apply List.filter_eq_self.mpr
      intro other present
      have differs : other.2 ≠ caller := by
        rintro rfl
        exact member (List.mem_map_of_mem present)
      simpa using own other present differs
    rw [kept]
    exact List.prefix_rfl

/-- A caller gives up when the connection is closed, or when its waiter has left the table. -/
theorem inOrder_giveUp (handing : Handing mux) (matched : Matched false mux) (order : InOrder mux)
    {id : Nat} (numbered : (mux.roundTrips caller).id = some id)
    (waiting : (mux.roundTrips caller).phase = .waiting)
    (aligned : Aligned mux (.giveUp caller)) (result : Except TransportFailure Caller) :
    InOrder { mux.finish caller result with pending := removeWaiter id mux.pending } := by
  have ended := inOrder_finish order caller result (by simp [waiting])
  have fewer := map_removeWaiter_subset id mux.pending
  have first := removeWaiter_first handing matched order numbered (by simp [waiting, Phase.waits])
  refine ⟨⟨ended.slots, ended.alone, ended.taken, ended.plain, ?_, ?_⟩, ?_⟩
  · intro other above placing found item member
    exact ended.newest other above placing found item (fewer member)
  · intro other waits member
    -- the call that gives up held the slot, so no other call waits
    exfalso
    dsimp only [DaemonMux.finish] at waits
    rw [Function.update_apply] at waits
    split at waits
    · cases waits
    · rename_i differs
      exact differs (order.alone other caller (holds_of_waits waits) (by simp [waiting, Phase.holds]))
  · obtain ⟨last, line⟩ := ended.line
    refine ⟨last, line.registered, line.single, first.trans line.first, ?_⟩
    intro opened
    have kept : removeWaiter id mux.pending = mux.pending := by
      have strict : mux.lenient = false := by
        simp [DaemonMux.lenient, matched.mode, show mux.closed = none from opened]
      have apart := aligned.resolve_left (by simp [strict])
      apply List.filter_eq_self.mpr
      intro item member
      have differs : item.1 ≠ id := by
        rintro rfl
        exact apart item member numbered
      simpa using differs
    have all := line.all opened
    dsimp only [DaemonMux.waiters, DaemonMux.finish] at all ⊢
    rw [kept]
    exact all

/-- The reader takes a frame, which is one that is due or none. -/
theorem inOrder_read (handing : Handing mux) (matched : Matched false mux) (order : InOrder mux)
    {frame : Incoming Caller} {rest : List (Incoming Caller)}
    (queued : mux.toProxy = frame :: rest) (aligned : Aligned mux .read) :
    InOrder ({ mux with toProxy := rest }.handle frame) := by
  have read := due_read queued
  cases frame with
  | other => exact inOrder_same order rfl rfl rfl id (by rw [read]; rfl)
  | garbled answers =>
    have told := inOrder_resolve order (mux.pending.map Prod.snd)
      (.error (.invalid "invalid IPC response"))
    refine ⟨⟨told.slots, told.alone, told.taken, told.plain, nofun, nofun⟩, ?_⟩
    obtain ⟨last, line⟩ := order.line
    refine ⟨last, ?_, line.single, List.nil_prefix, ?_⟩
    · intro other
      exact (line.registered other).trans (by rw [← resolve_phase]; rfl)
    · intro opened
      have strict : mux.lenient = false := by
        simp [DaemonMux.lenient, matched.mode, show mux.closed = none from opened]
      have settles := aligned.resolve_left (by simp [strict]) (.garbled answers) (by simp [queued])
      have all := line.all opened
      have nodup := waiters_nodup handing matched line
      rw [read, List.map_append, List.append_assoc] at all nodup
      -- every waiter is the one the frame stands for, and no call waits twice
      have only (other : Caller) (member : other ∈ mux.waiters) :
          answers.map Frame.request = some other := by
        obtain ⟨item, present, rfl⟩ := List.mem_map.mp member
        exact settles item present
      rw [all] at only
      apply Eq.symm
      apply List.eq_nil_iff_forall_not_mem.mpr
      intro other member
      have same := only other (List.mem_append_right _ member)
      obtain ⟨reply, own, rfl⟩ := Option.map_eq_some_iff.mp same
      obtain rfl := own
      exact (List.nodup_append.mp nodup).2.2 reply.request (by simp [Incoming.answers])
        reply.request member rfl
  | reply reply =>
    have plain : reply.ipcId = none := (matched.tags reply (by rw [read]; simp [Incoming.answers])).2
    obtain ⟨last, line⟩ := order.line
    have ahead : mux.due.map Frame.request ++ last =
        reply.request :: ({ mux with toProxy := rest }.due.map Frame.request ++ last) := by
      rw [read]
      rfl
    have first := line.first
    have all := line.all
    rw [ahead] at first all
    rcases deliver_cases { mux with toProxy := rest } reply with
      ⟨found, same⟩ | ⟨waiter, pending, found, fewer, tail, same⟩
    · dsimp only [DaemonMux.handle]
      rw [same]
      refine ⟨⟨order.slots, order.alone, order.taken, order.plain, order.newest, order.latest⟩,
        last, line.registered, line.single, ?_, ?_⟩
      all_goals
        simp only [DaemonMux.waiterFor, plain, Option.map_eq_none_iff, List.head?_eq_none_iff]
          at found
        simp only [DaemonMux.waiters, found, List.map_nil] at all ⊢
      · exact List.nil_prefix
      · intro opened
        exact absurd (all opened) (List.cons_ne_nil _ _).symm
    · have told := inOrder_resolve order [waiter] (.ok reply.request)
      have later : pending = mux.pending.tail := tail plain
      have waiters : pending.map Prod.snd = mux.waiters.tail := by
        rw [later, DaemonMux.waiters, List.map_tail]
      dsimp only [DaemonMux.handle]
      rw [same]
      refine ⟨⟨told.slots, told.alone, told.taken, told.plain, ?_, ?_⟩, last, ?_, line.single, ?_,
        ?_⟩
      · intro other id placing found item member
        exact told.newest other id placing found item (fewer member)
      · intro other waits member
        dsimp only [DaemonMux.waiters] at member ⊢
        rw [waiters] at member ⊢
        have waited : (mux.roundTrips other).phase.waits = true := by
          rw [← resolve_phase]
          exact waits
        have last := order.latest other waited (List.mem_of_mem_tail member)
        rw [List.getLast?_tail, if_neg]
        · exact last
        · have more := List.length_pos_of_mem member
          rw [List.length_tail] at more
          omega
      · intro other
        exact (line.registered other).trans (by rw [← resolve_phase]; rfl)
      · dsimp only [DaemonMux.waiters]
        rw [waiters]
        revert first
        cases mux.waiters with
        | nil => exact fun _ => List.nil_prefix
        | cons oldest later => exact fun first => (List.cons_prefix_cons.mp first).2
      · intro opened
        dsimp only [DaemonMux.waiters]
        rw [waiters, all opened]
        rfl

/-! ### A call that has not been written -/

theorem inOrder_called (order : InOrder mux) (plain : mux.tagged = false) (control : Bool)
    (absent : (mux.roundTrips caller).phase = .absent) :
    InOrder { mux with
      roundTrips := Function.update mux.roundTrips caller
        { phase := .acquiring, bypass := mux.tagged && control } } := by
  refine ⟨slotted_update order.toSlotted caller _ mux.slots mux.nextId order.slots
    (by simp [plain]) ?_ ?_ ?_ ?_, line_update order caller _ mux.slots mux.nextId ?_⟩
  · exact fun other _ held => ⟨order.taken other held, rfl⟩
  · simp [Phase.holds]
  · simp [Phase.placing]
  · simp [Phase.waits]
  · simp [absent]

/-- While a slot is free no call holds one. -/
theorem inOrder_admitted (order : InOrder mux)
    (acquiring : (mux.roundTrips caller).phase = .acquiring) (room : 0 < mux.slots) :
    InOrder { mux.setPhase caller .admitted with slots := mux.slots - 1 } := by
  have bounded := order.slots
  refine ⟨slotted_update order.toSlotted caller _ (mux.slots - 1) mux.nextId (by omega)
    (order.plain caller) ?_ (fun _ => by omega) ?_ ?_,
    line_update order caller _ (mux.slots - 1) mux.nextId (by simp [acquiring])⟩
  · intro other _ held
    have taken := order.taken other held
    omega
  · simp [Phase.placing]
  · simp [Phase.waits]

theorem inOrder_numbered (matched : Matched tagged mux) (order : InOrder mux)
    (admitted : (mux.roundTrips caller).phase = .admitted)
    (aligned : Aligned mux (.number caller)) : InOrder (mux.fetchId caller) := by
  have held : (mux.roundTrips caller).phase.holds = true := by simp [admitted, Phase.holds]
  refine ⟨slotted_update order.toSlotted caller _ mux.slots _ order.slots (order.plain caller) ?_
    (fun _ => order.taken caller held) ?_ ?_,
    line_update order caller _ mux.slots _ (by simp [admitted])⟩
  · intro other differs also
    exact absurd (order.alone other caller also held) differs
  · intro id _ found item member
    have place := matched.places item member
    exact Option.some.inj found ▸ matched.ids item.2 item.1 place aligned
  · simp [Phase.waits]

theorem inOrder_encoded (order : InOrder mux)
    (numbered : (mux.roundTrips caller).phase = .numbered) :
    InOrder (mux.setPhase caller .encoded) := by
  have held : (mux.roundTrips caller).phase.holds = true := by simp [numbered, Phase.holds]
  exact ⟨slotted_setPhase order.toSlotted caller .encoded held
    (fun _ => by simp [numbered, Phase.placing]) (by simp [Phase.waits]),
    line_update order caller _ mux.slots mux.nextId (by simp [numbered])⟩

/-! ### Every step -/

/-- What holds of a connection whose steps are aligned. -/
structure Paired (tagged : Bool) (mux : DaemonMux Caller) : Prop where
  handing : Handing mux
  matched : Matched tagged mux
  order : tagged = false → InOrder mux

theorem matched_step (handing : Handing mux) (matched : Matched tagged mux)
    (order : tagged = false → InOrder mux) {action : Action Caller} {next : DaemonMux Caller}
    (aligned : Aligned mux action) (stepped : mux.step action = some next) :
    Matched tagged next ∧ (tagged = false → InOrder next) := by
  cases action with
  | start caller control =>
    simp only [DaemonMux.step, Option.ite_none_right_eq_some, Option.some.injEq] at stepped
    obtain ⟨absent, rfl⟩ := stepped
    have none := matched.early caller (by simp [absent, Phase.early])
    refine ⟨matched_update matched caller _ mux.slots none.symm (fun _ => rfl) ?_ (Or.inr rfl)
      ?_, ?_⟩
    · simp [Phase.numbers]
    · simp
    · intro untagged
      exact inOrder_called (order untagged) (matched.mode.trans untagged) control absent
  | acquire caller =>
    simp only [DaemonMux.step, Option.ite_none_right_eq_some] at stepped
    obtain ⟨acquiring, stepped⟩ := stepped
    have none := matched.early caller (by simp [acquiring, Phase.early])
    split at stepped
    · rename_i bypass
      cases stepped
      refine ⟨matched_setPhase matched caller .admitted (fun _ => none) (by simp [Phase.numbers]) mux.slots, ?_⟩
      intro untagged
      simp [(order untagged).plain caller] at bypass
    · simp only [Option.ite_none_right_eq_some, Option.some.injEq] at stepped
      obtain ⟨room, rfl⟩ := stepped
      exact ⟨matched_setPhase matched caller .admitted (fun _ => none) (by simp [Phase.numbers])
        (mux.slots - 1), fun untagged => inOrder_admitted (order untagged) acquiring room⟩
  | number caller =>
    simp only [DaemonMux.step, Option.ite_none_right_eq_some, Option.some.injEq] at stepped
    obtain ⟨admitted, rfl⟩ := stepped
    exact ⟨matched_fetchId matched admitted aligned, fun untagged =>
      inOrder_numbered matched (order untagged) admitted aligned⟩
  | encode caller encoded =>
    simp only [DaemonMux.step, Option.ite_none_right_eq_some] at stepped
    obtain ⟨numbered, stepped⟩ := stepped
    have id := matched.numbers caller (by simp [numbered, Phase.numbers])
    cases encoded with
    | error e =>
      cases stepped
      exact ⟨matched_fail matched caller _, fun untagged =>
        inOrder_finish (order untagged) caller _ (by simp [numbered])⟩
    | ok length =>
      dsimp only at stepped
      split at stepped
      · cases stepped
        exact ⟨matched_fail matched caller _, fun untagged =>
          inOrder_finish (order untagged) caller _ (by simp [numbered])⟩
      · cases stepped
        exact ⟨matched_setPhase matched caller .encoded (by simp [Phase.early]) (fun _ => id)
          mux.slots, fun untagged => inOrder_encoded (order untagged) numbered⟩
  | register caller =>
    simp only [DaemonMux.step, Option.ite_none_right_eq_some] at stepped
    obtain ⟨encoded, stepped⟩ := stepped
    cases closed : mux.closed with
    | some reason =>
      simp only [closed, Option.some.injEq] at stepped
      subst stepped
      exact ⟨matched_fail matched caller _, fun untagged =>
        inOrder_finish (order untagged) caller _ (by simp [encoded])⟩
    | none =>
      simp only [closed, Option.map_eq_some_iff] at stepped
      obtain ⟨id, numbered, rfl⟩ := stepped
      exact ⟨matched_insertPending matched numbered, fun untagged =>
        inOrder_insertPending (order untagged) encoded numbered closed⟩
  | send caller =>
    simp only [DaemonMux.step, Option.ite_none_right_eq_some] at stepped
    obtain ⟨registered, stepped⟩ := stepped
    have id := matched.numbers caller (by simp [registered, Phase.numbers])
    split at stepped
    · cases stepped
      have closed := matched_close matched writerStopped
      have still : ((mux.close writerStopped).roundTrips caller).id.isSome = true :=
        (resolve_id _ _ caller).symm ▸ id
      exact ⟨matched_setPhase closed caller .waiting (by simp [Phase.early]) (fun _ => still) mux.slots, fun untagged =>
        inOrder_stopped (order untagged) writerStopped registered⟩
    · cases stepped
      exact ⟨matched_handOver handing matched registered, fun untagged =>
        inOrder_handOver (order untagged) _ rfl registered⟩
  | receive caller =>
    simp only [DaemonMux.step, Option.ite_none_right_eq_some, Option.map_eq_some_iff] at stepped
    obtain ⟨waiting, result, sent, rfl⟩ := stepped
    refine ⟨matched_finish matched caller _ ?_, fun untagged =>
      inOrder_finish (order untagged) caller _ (by simp [waiting])⟩
    rintro request rfl
    exact matched.replies caller request sent
  | giveUp caller =>
    simp only [DaemonMux.step, Option.ite_none_right_eq_some, Option.map_eq_some_iff] at stepped
    obtain ⟨waiting, id, numbered, rfl⟩ := stepped
    have ended := matched_fail matched caller (ceilingReached mux.ceiling)
    refine ⟨matched_table ended (map_removeWaiter_subset id mux.pending) mux.closed _ mux.writer, ?_⟩
    rintro rfl
    exact inOrder_giveUp handing matched (order rfl) numbered waiting aligned _
  | expire caller =>
    simp only [DaemonMux.step, Option.ite_none_right_eq_some, Option.some.injEq] at stepped
    obtain ⟨waiting, rfl⟩ := stepped
    refine ⟨matched_fail (matched_close matched _) caller _, ?_⟩
    intro untagged
    apply inOrder_finish (inOrder_close (order untagged) _) caller
    simp [DaemonMux.close, DaemonMux.failPending, resolve_phase, waiting]
  | drop caller =>
    simp only [DaemonMux.step, Option.ite_none_right_eq_some, Option.some.injEq] at stepped
    obtain ⟨phase, rfl⟩ := stepped
    refine ⟨matched_setPhase matched caller .dropped (by simp [Phase.early]) (by simp [Phase.numbers]) _, ?_⟩
    intro untagged
    apply inOrder_over (order untagged) caller { mux.roundTrips caller with phase := .dropped }
      ((order untagged).plain caller) rfl
    cases phase with
    | inl acquiring => simp [acquiring]
    | inr waiting => simp [waiting]
  | write =>
    simp only [DaemonMux.step] at stepped
    split at stepped
    · rename_i frame rest _ queued
      cases stepped
      have same := due_write queued mux.written
      exact ⟨matched_moved matched (List.Perm.of_eq same).subperm _, fun untagged =>
        inOrder_same (order untagged) rfl rfl rfl id same⟩
    · cases stepped
  | writeFails error reconnectable =>
    simp only [DaemonMux.step] at stepped
    split at stepped
    · cases stepped
      rename_i frame _ _ _
      have began := matched_moved matched (List.Subperm.refl mux.due)
        (frame.request :: mux.written)
      exact ⟨matched_table began (List.Subset.refl _) mux.closed mux.slots _, fun untagged =>
        inOrder_same (order untagged) rfl rfl rfl id rfl⟩
    · cases stepped
  | noteFailure =>
    simp only [DaemonMux.step] at stepped
    split at stepped
    · cases stepped
      exact ⟨matched_table matched (List.Subset.refl _) _ mux.slots _, fun untagged =>
        inOrder_same (order untagged) rfl rfl rfl (by intro opened; cases opened) rfl⟩
    · cases stepped
  | graceEnds =>
    simp only [DaemonMux.step] at stepped
    split at stepped
    · cases stepped
      have closed := matched_close matched
      exact ⟨matched_table (closed _) (List.Subset.refl _) _ mux.slots _, fun untagged =>
        inOrder_same (inOrder_close (order untagged) _) rfl rfl rfl id rfl⟩
    · cases stepped
  | abort =>
    simp only [DaemonMux.step, Option.ite_none_right_eq_some, Option.some.injEq] at stepped
    obtain ⟨-, rfl⟩ := stepped
    exact ⟨matched_table matched (List.Subset.refl _) mux.closed mux.slots _, fun untagged =>
      inOrder_same (order untagged) rfl rfl rfl id rfl⟩
  | daemonReads =>
    simp only [DaemonMux.step] at stepped
    split at stepped
    · rename_i frame rest queued
      cases stepped
      have same := due_daemonReads queued
      exact ⟨matched_moved matched (List.Perm.of_eq same).subperm _, fun untagged =>
        inOrder_same (order untagged) rfl rfl rfl id same⟩
    · cases stepped
  | daemonAnswers index readable =>
    simp only [DaemonMux.step, Option.ite_none_right_eq_some, Option.map_eq_some_iff] at stepped
    obtain ⟨turn, frame, found, rfl⟩ := stepped
    refine ⟨matched_moved matched (due_answered found readable).subperm _, ?_⟩
    intro untagged
    obtain rfl : index = 0 := turn.resolve_left (by simp [matched.mode, untagged])
    obtain ⟨rest, first⟩ := List.head?_eq_some_iff.mp (List.head?_eq_getElem?.trans found)
    refine inOrder_same (order untagged) rfl rfl rfl id ?_
    rw [first, List.eraseIdx_cons_zero, due_daemonAnswers, ← first]
    rfl
  | daemonPushes readable =>
    cases stepped
    have same := due_daemonPushes mux readable
    exact ⟨matched_moved matched (List.Perm.of_eq same).subperm _, fun untagged =>
      inOrder_same (order untagged) rfl rfl rfl id same⟩
  | read =>
    simp only [DaemonMux.step] at stepped
    split at stepped
    · rename_i frame rest queued
      cases stepped
      refine ⟨?_, ?_⟩
      · have moved : Matched tagged { mux with toProxy := rest } := by
          refine matched_moved matched (List.Sublist.subperm ?_) mux.written
          have read := due_read queued
          exact read ▸ List.sublist_append_right _ _
        cases frame with
        | reply frame =>
          exact matched_deliver handing matched queued fun waiter found =>
            waiter_matches matched order queued found
        | garbled answers => exact matched_failPending moved _
        | other => exact moved
      · rintro rfl
        exact inOrder_read handing matched (order rfl) queued aligned
    · cases stepped
  | close closer =>
    cases stepped
    exact ⟨matched_close matched _, fun untagged => inOrder_close (order untagged) _⟩

theorem paired_step (paired : Paired tagged mux) {action : Action Caller}
    {next : DaemonMux Caller} (aligned : Aligned mux action)
    (stepped : mux.step action = some next) : Paired tagged next := by
  obtain ⟨matched, order⟩ :=
    matched_step paired.handing paired.matched paired.order aligned stepped
  exact ⟨handing_step paired.handing stepped, matched, order⟩

omit [DecidableEq Caller] in
theorem paired_start (tagged : Bool) (ceiling : Nat) :
    Paired tagged (DaemonMux.start tagged ceiling : DaemonMux Caller) := by
  refine ⟨handing_start tagged ceiling, matched_start ceiling, ?_⟩
  rintro rfl
  exact inOrder_start ceiling

/-- In a run whose steps are aligned no call returns, and no waiter is sent, the reply to another
call's request, and no reply is delivered twice. -/
theorem replies_reach_requests (tagged : Bool) (ceiling : Nat) (trace : List (Action Caller))
    (final : DaemonMux Caller)
    (aligned : Admitted DaemonMux.step Aligned (.start tagged ceiling) trace)
    (ran : exec DaemonMux.step (.start tagged ceiling) trace = some final) :
    (∀ caller request, (final.roundTrips caller).result = some (.ok request) →
      request = caller) ∧
      (∀ item ∈ final.delivered, item.1 = item.2) ∧ (final.delivered.map Prod.snd).Nodup := by
  have paired := exec_invariant DaemonMux.step Aligned (Paired tagged)
    (fun _ _ _ aligned paired stepped => paired_step paired aligned stepped) trace _ final
    (paired_start tagged ceiling) aligned ran
  have matched := paired.matched
  exact ⟨matched.results, matched.own, (List.nodup_append.mp matched.once).1⟩

/-- A call up to the point where it waits. -/
def calling (caller : Nat) : List (Action Nat) :=
  [.start caller false, .acquire caller, .number caller, .encode caller (.ok 64),
    .register caller, .send caller, .write, .daemonReads]

/-- On a connection without ids the first caller is dropped, and both replies arrive. -/
def dropping : List (Action Nat) :=
  calling 0 ++ ([.drop 0] : List (Action Nat)) ++ calling 1 ++
    ([.daemonAnswers 0 true, .daemonAnswers 0 true, .read, .read, .receive 1] : List (Action Nat))

theorem replies_reach_requests_dropped :
    ∃ final, exec DaemonMux.step (.start false 660) dropping = some final ∧
      final.delivered = [(1, 1)] ∧ (final.delivered.map Prod.snd).Nodup := by
  obtain ⟨final, ran⟩ : ∃ final, exec DaemonMux.step (.start false 660) dropping = some final :=
    Option.isSome_iff_exists.mp (by decide +kernel)
  have sent : (exec DaemonMux.step (.start false 660) dropping).all
      (fun final => final.delivered = [(1, 1)]) = true := by
    decide +kernel
  rw [ran] at sent
  have once := (replies_reach_requests false 660 dropping final (by decide +kernel) ran).2.2
  exact ⟨final, ran, by simpa using sent, once⟩

/-- On a connection without ids the first caller gives up at the ceiling, and its reply arrives
while the second one waits. -/
def givingUp : List (Action Nat) :=
  calling 0 ++ ([.giveUp 0] : List (Action Nat)) ++ calling 1 ++
    ([.daemonAnswers 0 true, .read, .receive 1] : List (Action Nat))

/-- The second caller returns the reply to the first one's request. -/
theorem late_reply_taken :
    ∃ final, exec DaemonMux.step (.start false 660) givingUp = some final ∧
      (final.roundTrips 1).result = some (.ok 0) := by
  obtain ⟨final, ran⟩ : ∃ final, exec DaemonMux.step (.start false 660) givingUp = some final :=
    Option.isSome_iff_exists.mp (by decide +kernel)
  have taken : (exec DaemonMux.step (.start false 660) givingUp).all
      (fun final => (final.roundTrips 1).result = some (.ok 0)) = true := by
    decide +kernel
  rw [ran] at taken
  exact ⟨final, ran, by simpa using taken⟩

end Plug.Proxy
