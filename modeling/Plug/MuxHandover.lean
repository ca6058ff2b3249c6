import Plug.DaemonMux

/-!
# What a connection hands to its writer

A payload is handed over once, by the call that registered a waiter for it. A failure that says
the request was never sent ends a call that handed over nothing, since the only such failure is
the refusal of a closed connection, which comes before the waiter is registered.
-/

namespace Plug.Proxy

open Runs Ipc

variable {Caller : Type}

/-- What was handed to the writer, and which failures say that nothing was. -/
structure Handing (mux : DaemonMux Caller) : Prop where
  sent : ∀ caller ∈ mux.handed, (mux.roundTrips caller).phase.sent = true
  once : mux.handed.Nodup
  due : ∀ frame ∈ mux.due, frame.request ∈ mux.handed
  written : ∀ caller ∈ mux.written, caller ∈ mux.handed
  replies : ∀ caller failure, (mux.roundTrips caller).reply = some (.error failure) →
    failure.neverSent = false
  results : ∀ caller failure, (mux.roundTrips caller).result = some (.error failure) →
    failure.neverSent = true → caller ∉ mux.handed
  concluded : ∀ caller, (mux.roundTrips caller).result.isSome = true →
    (mux.roundTrips caller).phase = .finished
  failed : ∀ failure, mux.writer = .failed failure ∨ mux.writer = .grace failure →
    failure.neverSent = false

variable {mux : DaemonMux Caller} {caller : Caller}

theorem handing_start (tagged : Bool) (ceiling : Nat) :
    Handing (DaemonMux.start tagged ceiling : DaemonMux Caller) := by
  constructor <;> simp [DaemonMux.start, DaemonMux.due]

/-- The table of waiters and the note of the failure say nothing about what was handed over. -/
theorem handing_table (handing : Handing mux) (pending : List (Nat × Caller))
    (closed : Option String) (delivered : List (Caller × Caller)) :
    Handing { mux with pending := pending, closed := closed, delivered := delivered } :=
  ⟨handing.sent, handing.once, handing.due, handing.written, handing.replies, handing.results,
    handing.concluded, handing.failed⟩

/-- Frames move on without any being added to those that are due. -/
theorem handing_moved (handing : Handing mux) {toProxy : List (Incoming Caller)}
    {unanswered toDaemon outbound : List (Frame Caller)} {written : List Caller}
    (kept : ∀ frame ∈ toProxy.filterMap Incoming.answers ++ unanswered ++ toDaemon ++ outbound,
      frame ∈ mux.due)
    (began : ∀ caller ∈ written, caller ∈ mux.handed) :
    Handing { mux with
      toProxy := toProxy
      unanswered := unanswered
      toDaemon := toDaemon
      outbound := outbound
      written := written } :=
  ⟨handing.sent, handing.once, fun frame member => handing.due frame (kept frame member), began,
    handing.replies, handing.results, handing.concluded, handing.failed⟩

theorem handing_writer (handing : Handing mux) (writer : Writer)
    (spared : ∀ failure, writer = .failed failure ∨ writer = .grace failure →
      failure.neverSent = false) : Handing { mux with writer := writer } :=
  ⟨handing.sent, handing.once, handing.due, handing.written, handing.replies, handing.results,
    handing.concluded, spared⟩

theorem unsent (handing : Handing mux) (caller : Caller)
    (early : (mux.roundTrips caller).phase.sent = false) :
    caller ∉ mux.handed := by
  intro member
  have sent := handing.sent caller member
  simp [early] at sent

/-! ### The replies that are due -/

variable {frame : Frame Caller} {failure : TransportFailure} {next : DaemonMux Caller}

theorem due_write {rest : List (Frame Caller)} (queued : mux.outbound = frame :: rest)
    (written : List Caller) :
    { mux with
      outbound := rest, toDaemon := mux.toDaemon ++ [frame], written := written }.due = mux.due := by
  simp [DaemonMux.due, queued]

theorem due_daemonReads {rest : List (Frame Caller)} (queued : mux.toDaemon = frame :: rest) :
    { mux with toDaemon := rest, unanswered := mux.unanswered ++ [frame] }.due = mux.due := by
  simp [DaemonMux.due, queued]

/-- An answer takes the place of the request behind the answers before it. -/
theorem due_daemonAnswers (frame : Frame Caller) (readable : Bool) (rest : List (Frame Caller)) :
    { mux with
      unanswered := rest
      toProxy := mux.toProxy ++ [if readable then Incoming.reply frame else .garbled (some frame)]
      }.due = mux.toProxy.filterMap Incoming.answers ++ frame :: rest ++ mux.toDaemon ++
        mux.outbound := by
  have answered : (if readable then Incoming.reply frame else .garbled (some frame)).answers =
      some frame := by
    cases readable <;> rfl
  simp [DaemonMux.due, answered]

theorem due_answered {index : Nat} (found : mux.unanswered[index]? = some frame) (readable : Bool) :
    { mux with
      unanswered := mux.unanswered.eraseIdx index
      toProxy := mux.toProxy ++ [if readable then Incoming.reply frame else .garbled (some frame)]
      }.due.Perm mux.due := by
  rw [due_daemonAnswers]
  exact (((eraseIdx_perm found).append_left _).append_right _).append_right _

theorem due_daemonPushes (mux : DaemonMux Caller) (readable : Bool) :
    { mux with
      toProxy := mux.toProxy ++ [if readable then Incoming.other else .garbled none] }.due =
        mux.due := by
  have silent : (if readable then (Incoming.other : Incoming Caller) else .garbled none).answers =
      none := by
    cases readable <;> rfl
  simp [DaemonMux.due, silent]

theorem due_read {frame : Incoming Caller} {rest : List (Incoming Caller)}
    (queued : mux.toProxy = frame :: rest) :
    mux.due = frame.answers.toList ++ { mux with toProxy := rest }.due := by
  cases answers : frame.answers <;> simp [DaemonMux.due, queued, answers]

/-! ### The record of one call changes -/

variable [DecidableEq Caller]

theorem handing_update (handing : Handing mux) (caller : Caller) (trip : RoundTrip Caller)
    (slots nextId : Nat) (sent : caller ∈ mux.handed → trip.phase.sent = true)
    (reply : trip.reply = (mux.roundTrips caller).reply ∨ trip.reply = none)
    (result : ∀ failure, trip.result = some (.error failure) → failure.neverSent = true →
      caller ∉ mux.handed)
    (done : trip.result.isSome = true → trip.phase = .finished) :
    Handing { mux with
      roundTrips := Function.update mux.roundTrips caller trip
      slots := slots
      nextId := nextId } := by
  constructor
  · intro other member
    dsimp only at member ⊢
    rw [Function.update_apply]
    split
    · rename_i same
      exact sent (same ▸ member)
    · exact handing.sent other member
  · exact handing.once
  · exact handing.due
  · exact handing.written
  · intro other failure found
    dsimp only at found
    rw [Function.update_apply] at found
    split at found
    · cases reply with
      | inl kept => exact handing.replies caller failure (kept ▸ found)
      | inr none => simp [none] at found
    · exact handing.replies other failure found
  · intro other failure found unsent
    dsimp only at found ⊢
    rw [Function.update_apply] at found
    split at found
    · rename_i same
      exact same ▸ result failure found unsent
    · exact handing.results other failure found unsent
  · intro other found
    dsimp only at found ⊢
    rw [Function.update_apply] at found ⊢
    split at found
    · rename_i same
      rw [if_pos same]
      exact done found
    · rename_i differs
      rw [if_neg differs]
      exact handing.concluded other found
  · exact handing.failed

theorem handing_setPhase (handing : Handing mux) (caller : Caller) (phase : Phase)
    (sent : caller ∈ mux.handed → phase.sent = true)
    (unfinished : (mux.roundTrips caller).phase ≠ .finished) (slots : Nat) :
    Handing { mux.setPhase caller phase with slots := slots } := by
  have open' : (mux.roundTrips caller).result = none := by
    by_contra some
    exact unfinished (handing.concluded caller (Option.isSome_iff_ne_none.mpr some))
  refine handing_update handing caller { mux.roundTrips caller with phase := phase } slots
    mux.nextId sent (Or.inl rfl) ?_ ?_
  · simp [open']
  · simp [open']

theorem handing_finish (handing : Handing mux) {result : Except TransportFailure Caller}
    (spared : ∀ failure, result = .error failure → failure.neverSent = true →
      caller ∉ mux.handed) : Handing (mux.finish caller result) := by
  refine handing_update handing caller
    { mux.roundTrips caller with phase := .finished, result := some result } _ mux.nextId
    (fun _ => rfl) (Or.inl rfl) ?_ ?_
  · intro failure found
    exact spared failure (Option.some.inj found)
  · exact fun _ => rfl

/-- A failure that is not marked as never sent may end any call. -/
theorem handing_fail (handing : Handing mux) (caller : Caller)
    (spared : failure.neverSent = false) : Handing (mux.finish caller (.error failure)) := by
  apply handing_finish handing
  intro other same marked
  rw [← Except.error.inj same, spared] at marked
  cases marked

/-! ### What is sent to waiters -/

theorem resolve_phase (waiters : List Caller) (reply : Except TransportFailure Caller)
    (other : Caller) : ((mux.resolve waiters reply).roundTrips other).phase =
      (mux.roundTrips other).phase := by
  simp only [DaemonMux.resolve, RoundTrip.resolve]
  repeat split <;> try rfl

theorem resolve_result (waiters : List Caller) (reply : Except TransportFailure Caller)
    (other : Caller) : ((mux.resolve waiters reply).roundTrips other).result =
      (mux.roundTrips other).result := by
  simp only [DaemonMux.resolve, RoundTrip.resolve]
  repeat split <;> try rfl

theorem resolve_id (waiters : List Caller) (reply : Except TransportFailure Caller)
    (other : Caller) : ((mux.resolve waiters reply).roundTrips other).id =
      (mux.roundTrips other).id := by
  simp only [DaemonMux.resolve, RoundTrip.resolve]
  repeat split <;> try rfl

theorem resolve_bypass (waiters : List Caller) (reply : Except TransportFailure Caller)
    (other : Caller) : ((mux.resolve waiters reply).roundTrips other).bypass =
      (mux.roundTrips other).bypass := by
  simp only [DaemonMux.resolve, RoundTrip.resolve]
  repeat split <;> try rfl

/-- A call has the reply it had, or the one that is sent to it. -/
theorem resolve_reply {waiters : List Caller} {reply found : Except TransportFailure Caller}
    {other : Caller} (held : ((mux.resolve waiters reply).roundTrips other).reply = some found) :
    (mux.roundTrips other).reply = some found ∨
      (other ∈ waiters ∧ (mux.roundTrips other).phase.waits = true ∧ reply = found) := by
  simp only [DaemonMux.resolve, RoundTrip.resolve] at held
  split at held
  · rename_i member
    split at held
    · rename_i waits
      exact Or.inr ⟨member, waits, Option.some.inj held⟩
    · exact Or.inl held
  · exact Or.inl held

theorem handing_resolve (handing : Handing mux) (waiters : List Caller)
    {reply : Except TransportFailure Caller}
    (spared : ∀ failure, reply = .error failure → failure.neverSent = false) :
    Handing (mux.resolve waiters reply) := by
  constructor
  · intro other member
    rw [resolve_phase]
    exact handing.sent other member
  · exact handing.once
  · exact handing.due
  · exact handing.written
  · intro other failure found
    rcases resolve_reply found with earlier | ⟨-, -, same⟩
    · exact handing.replies other failure earlier
    · exact spared failure same
  · intro other failure found
    rw [resolve_result] at found
    exact handing.results other failure found
  · intro other found
    rw [resolve_result] at found
    rw [resolve_phase]
    exact handing.concluded other found
  · exact handing.failed

theorem handing_resolveError (handing : Handing mux) (waiters : List Caller)
    (spared : failure.neverSent = false) : Handing (mux.resolve waiters (.error failure)) := by
  apply handing_resolve handing
  intro other same
  rw [← Except.error.inj same]
  exact spared

theorem handing_failPending (handing : Handing mux) (spared : failure.neverSent = false) :
    Handing (mux.failPending failure) := by
  have told := handing_resolveError handing (mux.pending.map Prod.snd) spared
  exact handing_table told [] mux.closed mux.delivered

theorem handing_close (handing : Handing mux) (spared : failure.neverSent = false) :
    Handing (mux.close failure) :=
  handing_table (handing_failPending handing spared) [] _ mux.delivered

theorem handing_deliverTo (handing : Handing mux) (waiter request : Caller) :
    Handing (mux.deliverTo waiter request) :=
  handing_table (handing_resolve handing [waiter] (by simp)) mux.pending mux.closed _

/-- The waiter that a reply is handed to. -/
def DaemonMux.waiterFor (mux : DaemonMux Caller) (frame : Frame Caller) : Option Caller :=
  match frame.ipcId with
  | some id => waiterOf id mux.pending
  | none => mux.pending.head?.map Prod.snd

theorem deliver_cases (mux : DaemonMux Caller) (frame : Frame Caller) :
    (mux.waiterFor frame = none ∧ mux.deliver frame = mux) ∨
      ∃ waiter rest, mux.waiterFor frame = some waiter ∧ rest ⊆ mux.pending ∧
        (frame.ipcId = none → rest = mux.pending.tail) ∧
        mux.deliver frame = { mux.deliverTo waiter frame.request with pending := rest } := by
  unfold DaemonMux.waiterFor DaemonMux.deliver
  cases frame.ipcId with
  | some id =>
    dsimp only
    cases waiterOf id mux.pending with
    | none => exact Or.inl ⟨rfl, rfl⟩
    | some waiter =>
      exact Or.inr ⟨waiter, removeWaiter id mux.pending, rfl, List.filter_subset_self _, nofun, rfl⟩
  | none =>
    dsimp only
    cases mux.pending with
    | nil => exact Or.inl ⟨rfl, rfl⟩
    | cons item rest =>
      exact Or.inr ⟨item.2, rest, rfl, List.subset_cons_self item rest, fun _ => rfl, rfl⟩

theorem handing_handle (handing : Handing mux) (frame : Incoming Caller) :
    Handing (mux.handle frame) := by
  cases frame with
  | reply frame =>
    rcases deliver_cases mux frame with ⟨-, same⟩ | ⟨waiter, rest, -, -, -, same⟩
    · dsimp only [DaemonMux.handle]
      rw [same]
      exact handing
    · dsimp only [DaemonMux.handle]
      rw [same]
      exact handing_table (handing_deliverTo handing waiter frame.request) rest mux.closed _
  | garbled answers => exact handing_failPending handing rfl
  | other => exact handing

theorem handing_handOver (handing : Handing mux) (own : frame.request = caller)
    (fresh : caller ∉ mux.handed) (unfinished : (mux.roundTrips caller).phase ≠ .finished) :
    Handing (mux.handOver caller frame) := by
  have waiting := handing_setPhase handing caller .waiting (fun _ => rfl) unfinished mux.slots
  constructor
  · intro other member
    cases List.mem_cons.mp member with
    | inl same =>
      subst same
      simp [DaemonMux.handOver, DaemonMux.setPhase, Phase.sent]
    | inr earlier => exact waiting.sent other earlier
  · exact List.nodup_cons.mpr ⟨fresh, handing.once⟩
  · intro other member
    have split' : other ∈ mux.due ∨ other = frame := by
      simpa [DaemonMux.due, DaemonMux.handOver, DaemonMux.setPhase, or_assoc] using member
    cases split' with
    | inl earlier => exact List.mem_cons_of_mem caller (handing.due other earlier)
    | inr same => exact List.mem_cons.mpr (Or.inl (same ▸ own))
  · intro other member
    exact List.mem_cons_of_mem caller (handing.written other member)
  · exact waiting.replies
  · intro other failure found unsent member
    cases List.mem_cons.mp member with
    | inl same =>
      subst same
      have ended := waiting.concluded other (by
        rw [show ((mux.setPhase other .waiting).roundTrips other).result =
          some (.error failure) from found]
        rfl)
      simp [DaemonMux.setPhase] at ended
    | inr earlier => exact waiting.results other failure found unsent earlier
  · exact waiting.concluded
  · exact handing.failed

theorem handing_step (handing : Handing mux) {action : Action Caller}
    (stepped : mux.step action = some next) : Handing next := by
  cases action with
  | start caller control =>
    simp only [DaemonMux.step, Option.ite_none_right_eq_some, Option.some.injEq] at stepped
    obtain ⟨absent, rfl⟩ := stepped
    have fresh := unsent handing caller (by simp [absent, Phase.sent])
    exact handing_update handing caller _ mux.slots mux.nextId (fun member => absurd member fresh)
      (Or.inr rfl) nofun nofun
  | acquire caller =>
    simp only [DaemonMux.step, Option.ite_none_right_eq_some] at stepped
    obtain ⟨acquiring, stepped⟩ := stepped
    have fresh := unsent handing caller (by simp [acquiring, Phase.sent])
    split at stepped
    · cases stepped
      exact handing_setPhase handing caller _ (fun member => absurd member fresh) (by simp [acquiring])
        mux.slots
    · simp only [Option.ite_none_right_eq_some, Option.some.injEq] at stepped
      obtain ⟨-, rfl⟩ := stepped
      exact handing_setPhase handing caller _ (fun member => absurd member fresh) (by simp [acquiring]) _
  | number caller =>
    simp only [DaemonMux.step, Option.ite_none_right_eq_some, Option.some.injEq] at stepped
    obtain ⟨admitted, rfl⟩ := stepped
    have fresh := unsent handing caller (by simp [admitted, Phase.sent])
    have unfinished := handing.concluded caller
    refine handing_update handing caller _ mux.slots _ (fun member => absurd member fresh)
      (Or.inl rfl) (fun _ _ _ => fresh) ?_
    intro done
    simp [admitted] at unfinished
    simp [unfinished] at done
  | encode caller encoded =>
    simp only [DaemonMux.step, Option.ite_none_right_eq_some] at stepped
    obtain ⟨numbered, stepped⟩ := stepped
    have fresh := unsent handing caller (by simp [numbered, Phase.sent])
    cases encoded with
    | error e =>
      cases stepped
      exact handing_finish handing fun _ _ _ => fresh
    | ok length =>
      dsimp only at stepped
      split at stepped
      · cases stepped
        exact handing_finish handing fun _ _ _ => fresh
      · cases stepped
        exact handing_setPhase handing caller _ (fun member => absurd member fresh) (by simp [numbered])
          mux.slots
  | register caller =>
    simp only [DaemonMux.step, Option.ite_none_right_eq_some] at stepped
    obtain ⟨encoded, stepped⟩ := stepped
    have fresh := unsent handing caller (by simp [encoded, Phase.sent])
    cases closed : mux.closed with
    | some reason =>
      simp only [closed, Option.some.injEq] at stepped
      subst stepped
      -- nothing was handed over, which is what the failure says
      exact handing_finish handing fun _ _ _ => fresh
    | none =>
      simp only [closed, Option.map_eq_some_iff] at stepped
      obtain ⟨id, -, rfl⟩ := stepped
      have spared : connectionClosed.neverSent = false := rfl
      have told := handing_resolveError handing (waiterOf id mux.pending).toList spared
      have placed := handing_setPhase told caller .registered
        (fun member => absurd member fresh) (by simp [resolve_phase, encoded]) mux.slots
      exact handing_table placed _ mux.closed mux.delivered
  | send caller =>
    simp only [DaemonMux.step, Option.ite_none_right_eq_some] at stepped
    obtain ⟨registered, stepped⟩ := stepped
    have fresh := unsent handing caller (by simp [registered, Phase.sent])
    split at stepped
    · cases stepped
      refine handing_setPhase (handing_close handing rfl) caller .waiting (fun _ => rfl) ?_ mux.slots
      simp [DaemonMux.close, DaemonMux.failPending, resolve_phase, registered]
    · cases stepped
      exact handing_handOver handing rfl fresh (by simp [registered])
  | receive caller =>
    simp only [DaemonMux.step, Option.ite_none_right_eq_some, Option.map_eq_some_iff] at stepped
    obtain ⟨-, result, sent, rfl⟩ := stepped
    apply handing_finish handing
    rintro failure rfl unsent
    simp [handing.replies caller failure sent] at unsent
  | giveUp caller =>
    simp only [DaemonMux.step, Option.ite_none_right_eq_some, Option.map_eq_some_iff] at stepped
    obtain ⟨-, id, -, rfl⟩ := stepped
    have spared : (ceilingReached mux.ceiling).neverSent = false := rfl
    exact handing_table (handing_fail handing caller spared) _ mux.closed mux.delivered
  | expire caller =>
    simp only [DaemonMux.step, Option.ite_none_right_eq_some, Option.some.injEq] at stepped
    obtain ⟨-, rfl⟩ := stepped
    exact handing_fail (handing_close handing rfl) caller rfl
  | drop caller =>
    simp only [DaemonMux.step, Option.ite_none_right_eq_some, Option.some.injEq] at stepped
    obtain ⟨phase, rfl⟩ := stepped
    apply handing_setPhase handing caller .dropped (fun _ => rfl)
    cases phase with
    | inl acquiring => simp [acquiring]
    | inr waiting => simp [waiting]
  | write =>
    simp only [DaemonMux.step] at stepped
    split at stepped
    · rename_i frame rest _ queued
      cases stepped
      have own := handing.due frame (by simp [DaemonMux.due, queued])
      exact handing_moved handing (List.Perm.of_eq (due_write queued mux.written)).subset
        (List.forall_mem_cons.mpr ⟨own, handing.written⟩)
    · cases stepped
  | writeFails error reconnectable =>
    simp only [DaemonMux.step] at stepped
    split at stepped
    · rename_i frame rest _ queued
      cases stepped
      have own := handing.due frame (by simp [DaemonMux.due, queued])
      have began := handing_moved handing (fun _ member => member)
        (List.forall_mem_cons.mpr ⟨own, handing.written⟩)
      apply handing_writer began
      rintro failure (same | same)
      · exact Writer.failed.inj same ▸ rfl
      · cases same
    · cases stepped
  | noteFailure =>
    simp only [DaemonMux.step] at stepped
    split at stepped
    · rename_i failure failed
      cases stepped
      have noted := handing_table handing mux.pending
        (some (mux.closed.getD failure.message)) mux.delivered
      refine handing_writer noted (.grace failure) ?_
      rintro other (same | same)
      · cases same
      · exact Writer.grace.inj same ▸ handing.failed failure (Or.inl failed)
    · cases stepped
  | graceEnds =>
    simp only [DaemonMux.step] at stepped
    split at stepped
    · rename_i failure grace
      cases stepped
      exact handing_writer (handing_close handing (handing.failed failure (Or.inr grace))) .stopped
        (by simp)
    · cases stepped
  | abort =>
    simp only [DaemonMux.step, Option.ite_none_right_eq_some, Option.some.injEq] at stepped
    obtain ⟨-, rfl⟩ := stepped
    exact handing_writer handing .stopped (by simp)
  | daemonReads =>
    simp only [DaemonMux.step] at stepped
    split at stepped
    · rename_i frame rest queued
      cases stepped
      exact handing_moved handing (List.Perm.of_eq (due_daemonReads queued)).subset handing.written
    · cases stepped
  | daemonAnswers index readable =>
    simp only [DaemonMux.step, Option.ite_none_right_eq_some, Option.map_eq_some_iff] at stepped
    obtain ⟨-, frame, found, rfl⟩ := stepped
    exact handing_moved handing (due_answered found readable).subset handing.written
  | daemonPushes readable =>
    cases stepped
    exact handing_moved handing (List.Perm.of_eq (due_daemonPushes mux readable)).subset handing.written
  | read =>
    simp only [DaemonMux.step] at stepped
    split at stepped
    · rename_i frame rest queued
      cases stepped
      apply handing_handle
      refine handing_moved handing ?_ handing.written
      intro other member
      rw [due_read queued]
      exact List.mem_append_right _ member
    · cases stepped
  | close closer =>
    cases stepped
    apply handing_close handing
    cases closer <;> rfl

/-! ### Calls that take no step -/

/-- The call that takes a step of its own. -/
def Action.actor : Action Caller → Option Caller
  | .start caller _ => some caller
  | .acquire caller => some caller
  | .number caller => some caller
  | .encode caller _ => some caller
  | .register caller => some caller
  | .send caller => some caller
  | .receive caller => some caller
  | .giveUp caller => some caller
  | .expire caller => some caller
  | .drop caller => some caller
  | _ => none

/-- The call is where it was, and what it returned stays. -/
def Untouched (mux next : DaemonMux Caller) (caller : Caller) : Prop :=
  (next.roundTrips caller).phase = (mux.roundTrips caller).phase ∧
    (next.roundTrips caller).result = (mux.roundTrips caller).result

theorem untouched_resolve {waiters : List Caller} {reply : Except TransportFailure Caller}
    (same : next.roundTrips = (mux.resolve waiters reply).roundTrips) (caller : Caller) :
    Untouched mux next caller := by
  rw [Untouched, same]
  exact ⟨resolve_phase waiters reply caller, resolve_result waiters reply caller⟩

theorem untouched_update {actor caller : Caller} {trip : RoundTrip Caller}
    (same : next.roundTrips = Function.update mux.roundTrips actor trip) (apart : caller ≠ actor) :
    Untouched mux next caller := by
  rw [Untouched, same, Function.update_of_ne apart]
  exact ⟨rfl, rfl⟩

omit [DecidableEq Caller] in
theorem untouched_trans {middle : DaemonMux Caller} {caller : Caller}
    (first : Untouched mux middle caller) (second : Untouched middle next caller) :
    Untouched mux next caller :=
  ⟨second.1.trans first.1, second.2.trans first.2⟩

theorem untouched_handle (frame : Incoming Caller) (caller : Caller) :
    Untouched mux (mux.handle frame) caller := by
  cases frame with
  | reply frame =>
    rcases deliver_cases mux frame with ⟨-, same⟩ | ⟨waiter, rest, -, -, -, same⟩
    · dsimp only [DaemonMux.handle]
      rw [same]
      exact ⟨rfl, rfl⟩
    · dsimp only [DaemonMux.handle]
      rw [same]
      exact untouched_resolve rfl caller
  | garbled answers => exact untouched_resolve rfl caller
  | other => exact ⟨rfl, rfl⟩

theorem step_apart {action : Action Caller} (stepped : mux.step action = some next)
    {caller : Caller} (apart : action.actor ≠ some caller) : Untouched mux next caller := by
  cases action with
  | start actor control =>
    have differs : caller ≠ actor := fun same => apart (same ▸ rfl)
    simp only [DaemonMux.step, Option.ite_none_right_eq_some, Option.some.injEq] at stepped
    obtain ⟨-, rfl⟩ := stepped
    exact untouched_update rfl differs
  | acquire actor =>
    have differs : caller ≠ actor := fun same => apart (same ▸ rfl)
    simp only [DaemonMux.step, Option.ite_none_right_eq_some] at stepped
    obtain ⟨-, stepped⟩ := stepped
    split at stepped
    · cases stepped
      exact untouched_update rfl differs
    · simp only [Option.ite_none_right_eq_some, Option.some.injEq] at stepped
      obtain ⟨-, rfl⟩ := stepped
      exact untouched_update rfl differs
  | number actor =>
    have differs : caller ≠ actor := fun same => apart (same ▸ rfl)
    simp only [DaemonMux.step, Option.ite_none_right_eq_some, Option.some.injEq] at stepped
    obtain ⟨-, rfl⟩ := stepped
    exact untouched_update rfl differs
  | encode actor encoded =>
    have differs : caller ≠ actor := fun same => apart (same ▸ rfl)
    simp only [DaemonMux.step, Option.ite_none_right_eq_some] at stepped
    obtain ⟨-, stepped⟩ := stepped
    cases encoded with
    | error e =>
      cases stepped
      exact untouched_update rfl differs
    | ok length =>
      dsimp only at stepped
      split at stepped
      · cases stepped
        exact untouched_update rfl differs
      · cases stepped
        exact untouched_update rfl differs
  | register actor =>
    have differs : caller ≠ actor := fun same => apart (same ▸ rfl)
    simp only [DaemonMux.step, Option.ite_none_right_eq_some] at stepped
    obtain ⟨-, stepped⟩ := stepped
    split at stepped
    · cases stepped
      exact untouched_update rfl differs
    · obtain ⟨id, -, rfl⟩ := Option.map_eq_some_iff.mp stepped
      have told : Untouched mux (mux.resolve (waiterOf id mux.pending).toList
          (.error connectionClosed)) caller :=
        untouched_resolve rfl caller
      exact untouched_trans told (untouched_update rfl differs)
  | send actor =>
    have differs : caller ≠ actor := fun same => apart (same ▸ rfl)
    simp only [DaemonMux.step, Option.ite_none_right_eq_some] at stepped
    obtain ⟨-, stepped⟩ := stepped
    split at stepped
    · cases stepped
      exact untouched_trans (untouched_resolve rfl caller) (untouched_update rfl differs)
    · cases stepped
      exact untouched_update rfl differs
  | receive actor =>
    have differs : caller ≠ actor := fun same => apart (same ▸ rfl)
    simp only [DaemonMux.step, Option.ite_none_right_eq_some, Option.map_eq_some_iff] at stepped
    obtain ⟨-, result, -, rfl⟩ := stepped
    exact untouched_update rfl differs
  | giveUp actor =>
    have differs : caller ≠ actor := fun same => apart (same ▸ rfl)
    simp only [DaemonMux.step, Option.ite_none_right_eq_some, Option.map_eq_some_iff] at stepped
    obtain ⟨-, id, -, rfl⟩ := stepped
    exact untouched_update rfl differs
  | expire actor =>
    have differs : caller ≠ actor := fun same => apart (same ▸ rfl)
    simp only [DaemonMux.step, Option.ite_none_right_eq_some, Option.some.injEq] at stepped
    obtain ⟨-, rfl⟩ := stepped
    exact untouched_trans (untouched_resolve rfl caller) (untouched_update rfl differs)
  | drop actor =>
    have differs : caller ≠ actor := fun same => apart (same ▸ rfl)
    simp only [DaemonMux.step, Option.ite_none_right_eq_some, Option.some.injEq] at stepped
    obtain ⟨-, rfl⟩ := stepped
    exact untouched_update rfl differs
  | read =>
    simp only [DaemonMux.step] at stepped
    split at stepped
    · rename_i frame rest queued
      cases stepped
      exact untouched_handle frame caller
    · cases stepped
  | close closer =>
    cases stepped
    exact untouched_resolve rfl caller
  | graceEnds =>
    simp only [DaemonMux.step] at stepped
    split at stepped
    · cases stepped
      exact untouched_resolve rfl caller
    · cases stepped
  | write | writeFails | noteFailure | abort | daemonReads | daemonAnswers | daemonPushes =>
    -- the records of the calls are not touched
    have same : next.roundTrips = mux.roundTrips := by
      simp only [DaemonMux.step, DaemonMux.writesFailed] at stepped
      grind
    rw [Untouched, same]
    exact ⟨rfl, rfl⟩

/-- A call that takes a step is not over, and begins with the first one. -/
theorem step_actor {action : Action Caller} (stepped : mux.step action = some next)
    {caller : Caller} (own : action.actor = some caller) :
    (mux.roundTrips caller).phase ≠ .finished ∧
      ((mux.roundTrips caller).phase = .absent → ∃ control, action = .start caller control) := by
  cases action <;> simp only [Action.actor, Option.some.injEq, reduceCtorEq] at own
  case start actor control =>
    subst own
    simp only [DaemonMux.step, Option.ite_none_right_eq_some] at stepped
    refine ⟨?_, fun _ => ⟨control, rfl⟩⟩
    simp [stepped.1]
  all_goals
    subst own
    simp only [DaemonMux.step, Option.ite_none_right_eq_some] at stepped
    grind

end Plug.Proxy
