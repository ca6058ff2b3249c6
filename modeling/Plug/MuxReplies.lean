import Plug.MuxHandover

/-!
# Every call has its own id

With ids, a reply finds the waiter of its own request because no two calls share an id.
-/

namespace Plug.Proxy

open Runs Ipc

variable {Caller : Type}

/-- The call has no id yet. -/
def Phase.early : Phase → Bool
  | .absent => true
  | .acquiring => true
  | .admitted => true
  | _ => false

/-- The call has an id, which it uses. -/
def Phase.numbers : Phase → Bool
  | .numbered => true
  | .encoded => true
  | .registered => true
  | .waiting => true
  | _ => false

structure Matched (tagged : Bool) (mux : DaemonMux Caller) : Prop where
  mode : mux.tagged = tagged
  wraps : mux.nextId < 18446744073709551616
  ids : ∀ caller id, (mux.roundTrips caller).id = some id → mux.nextId ≠ 0 → id < mux.nextId
  distinct : ∀ caller other id, (mux.roundTrips caller).id = some id →
    (mux.roundTrips other).id = some id → caller = other
  early : ∀ caller, (mux.roundTrips caller).phase.early = true → (mux.roundTrips caller).id = none
  numbers : ∀ caller, (mux.roundTrips caller).phase.numbers = true →
    (mux.roundTrips caller).id.isSome = true
  tags : ∀ frame ∈ mux.due, (mux.roundTrips frame.request).id.isSome = true ∧
    frame.ipcId = if tagged then (mux.roundTrips frame.request).id else none
  places : ∀ item ∈ mux.pending, (mux.roundTrips item.2).id = some item.1
  once : (mux.delivered.map Prod.snd ++ mux.due.map Frame.request).Nodup
  answered : ∀ item ∈ mux.delivered, item.2 ∈ mux.handed
  own : ∀ item ∈ mux.delivered, item.1 = item.2
  replies : ∀ caller request, (mux.roundTrips caller).reply = some (.ok request) →
    request = caller
  results : ∀ caller request, (mux.roundTrips caller).result = some (.ok request) →
    request = caller

variable {tagged : Bool} {mux : DaemonMux Caller} {caller : Caller}

theorem matched_start (ceiling : Nat) :
    Matched tagged (DaemonMux.start tagged ceiling : DaemonMux Caller) := by
  constructor
  case wraps => exact (by decide : 1 < 18446744073709551616)
  all_goals simp [DaemonMux.start, DaemonMux.due, Phase.numbers]

/-- Waiters may be taken out of the table. -/
theorem matched_table (matched : Matched tagged mux) {pending : List (Nat × Caller)}
    (fewer : pending ⊆ mux.pending) (closed : Option String) (slots : Nat) (writer : Writer) :
    Matched tagged
      { mux with pending := pending, closed := closed, slots := slots, writer := writer } :=
  ⟨matched.mode, matched.wraps, matched.ids, matched.distinct, matched.early, matched.numbers, matched.tags,
    fun item member => matched.places item (fewer member), matched.once, matched.answered,
    matched.own, matched.replies, matched.results⟩

/-- Frames move on, each one standing for the reply to another request. -/
theorem matched_moved (matched : Matched tagged mux) {toProxy : List (Incoming Caller)}
    {unanswered toDaemon outbound : List (Frame Caller)}
    (kept : List.Subperm (toProxy.filterMap Incoming.answers ++ unanswered ++ toDaemon ++ outbound)
      mux.due) (written : List Caller) :
    Matched tagged { mux with
      toProxy := toProxy
      unanswered := unanswered
      toDaemon := toDaemon
      outbound := outbound
      written := written } := by
  have once : (mux.delivered.map Prod.snd ++ (toProxy.filterMap Incoming.answers ++ unanswered ++
      toDaemon ++ outbound).map Frame.request).Nodup := by
    obtain ⟨frames, same, sublist⟩ := kept
    have kept := (sublist.map Frame.request).append_left (mux.delivered.map Prod.snd)
    exact ((same.map Frame.request).append_left _).nodup_iff.mp (matched.once.sublist kept)
  exact ⟨matched.mode, matched.wraps, matched.ids, matched.distinct, matched.early, matched.numbers,
    fun frame member => matched.tags frame (kept.subset member), matched.places, once,
    matched.answered, matched.own, matched.replies, matched.results⟩

variable [DecidableEq Caller]

theorem matched_update (matched : Matched tagged mux) (caller : Caller) (trip : RoundTrip Caller)
    (slots : Nat) (id : trip.id = (mux.roundTrips caller).id)
    (early : trip.phase.early = true → trip.id = none)
    (numbers : trip.phase.numbers = true → trip.id.isSome = true)
    (reply : trip.reply = (mux.roundTrips caller).reply ∨ trip.reply = none)
    (result : ∀ request, trip.result = some (.ok request) → request = caller) :
    Matched tagged { mux with
      roundTrips := Function.update mux.roundTrips caller trip
      slots := slots } := by
  have ids (other : Caller) : (Function.update mux.roundTrips caller trip other).id =
      (mux.roundTrips other).id := by
    rw [Function.update_apply]
    split
    · rename_i same
      exact same ▸ id
    · rfl
  constructor
  · exact matched.mode
  · exact matched.wraps
  · simpa only [ids] using matched.ids
  · simpa only [ids] using matched.distinct
  · intro other found
    dsimp only at found ⊢
    rw [Function.update_apply] at found ⊢
    split at found
    · rename_i same
      rw [if_pos same]
      exact early found
    · rename_i differs
      rw [if_neg differs]
      exact matched.early other found
  · intro other found
    dsimp only at found ⊢
    rw [Function.update_apply] at found ⊢
    split at found
    · rename_i same
      rw [if_pos same]
      exact numbers found
    · rename_i differs
      rw [if_neg differs]
      exact matched.numbers other found
  · intro frame member
    dsimp only
    rw [ids]
    exact matched.tags frame member
  · intro item member
    dsimp only
    rw [ids]
    exact matched.places item member
  · exact matched.once
  · exact matched.answered
  · exact matched.own
  · intro other request found
    dsimp only at found
    rw [Function.update_apply] at found
    split at found
    · rename_i same
      cases reply with
      | inl kept => exact same ▸ matched.replies caller request (kept ▸ found)
      | inr none => simp [none] at found
    · exact matched.replies other request found
  · intro other request found
    dsimp only at found
    rw [Function.update_apply] at found
    split at found
    · rename_i same
      exact same ▸ result request found
    · exact matched.results other request found

/-- The id that is handed out is above all others. -/
theorem matched_fetchId (matched : Matched tagged mux)
    (admitted : (mux.roundTrips caller).phase = .admitted) (room : mux.nextId ≠ 0) :
    Matched tagged (mux.fetchId caller) := by
  have fresh (other : Caller) : (mux.roundTrips other).id ≠ some mux.nextId := by
    intro same
    exact absurd (matched.ids other mux.nextId same room) (Nat.lt_irrefl _)
  have none : (mux.roundTrips caller).id = none := by
    apply matched.early
    simp [admitted, Phase.early]
  have others (other : Caller) (some : (mux.roundTrips other).id.isSome = true) :
      other ≠ caller := by
    rintro rfl
    simp [none] at some
  constructor
  · exact matched.mode
  · exact Nat.mod_lt _ (by decide)
  · intro other id found more
    dsimp only [DaemonMux.fetchId] at found more ⊢
    rw [Function.update_apply] at found
    split at found
    · have same : mux.nextId = id := Option.some.inj found
      have wraps := matched.wraps
      omega
    · have below := matched.ids other id found room
      have wraps := matched.wraps
      omega
  · intro first second id left right
    dsimp only [DaemonMux.fetchId] at left right
    rw [Function.update_apply] at left right
    split at left
    · rename_i here
      split at right
      · rename_i there
        rw [here, there]
      · rw [← Option.some.inj left] at right
        exact absurd right (fresh second)
    · split at right
      · rw [← Option.some.inj right] at left
        exact absurd left (fresh first)
      · exact matched.distinct first second id left right
  · intro other found
    dsimp only [DaemonMux.fetchId] at found ⊢
    rw [Function.update_apply] at found ⊢
    split at found
    · simp [Phase.early] at found
    · rename_i differs
      rw [if_neg differs]
      exact matched.early other found
  · intro other found
    dsimp only [DaemonMux.fetchId] at found ⊢
    rw [Function.update_apply] at found ⊢
    split at found
    · rename_i same
      rw [if_pos same]
      rfl
    · rename_i differs
      rw [if_neg differs]
      exact matched.numbers other found
  · intro frame member
    have known := matched.tags frame member
    simpa [DaemonMux.fetchId, others frame.request known.1] using known
  · intro item member
    have known := matched.places item member
    have differs := others item.2 (by simp [known])
    simpa [DaemonMux.fetchId, differs] using known
  · exact matched.once
  · exact matched.answered
  · exact matched.own
  · intro other request found
    apply matched.replies other request
    dsimp only [DaemonMux.fetchId] at found
    rw [Function.update_apply] at found
    split at found
    · rename_i same
      rwa [same]
    · exact found
  · intro other request found
    apply matched.results other request
    dsimp only [DaemonMux.fetchId] at found
    rw [Function.update_apply] at found
    split at found
    · rename_i same
      rwa [same]
    · exact found

theorem matched_resolve (matched : Matched tagged mux) (waiters : List Caller)
    (reply : Except TransportFailure Caller)
    (own : ∀ waiter ∈ waiters, ∀ request, reply = .ok request → request = waiter) :
    Matched tagged (mux.resolve waiters reply) := by
  constructor
  · exact matched.mode
  · exact matched.wraps
  · intro other id
    rw [resolve_id]
    exact matched.ids other id
  · simpa only [resolve_id] using matched.distinct
  · simpa only [resolve_id, resolve_phase] using matched.early
  · simpa only [resolve_id, resolve_phase] using matched.numbers
  · intro frame member
    rw [resolve_id]
    exact matched.tags frame member
  · intro item member
    rw [resolve_id]
    exact matched.places item member
  · exact matched.once
  · exact matched.answered
  · exact matched.own
  · intro other request found
    rcases resolve_reply found with earlier | ⟨member, -, same⟩
    · exact matched.replies other request earlier
    · exact own other member request same
  · intro other request found
    rw [resolve_result] at found
    exact matched.results other request found

theorem matched_failPending (matched : Matched tagged mux) (failure : TransportFailure) :
    Matched tagged (mux.failPending failure) := by
  have told := matched_resolve matched (mux.pending.map Prod.snd) (.error failure) nofun
  exact matched_table told (List.nil_subset _) mux.closed mux.slots mux.writer

theorem matched_close (matched : Matched tagged mux) (failure : TransportFailure) :
    Matched tagged (mux.close failure) :=
  matched_table (matched_failPending matched failure) (List.Subset.refl _) _ mux.slots mux.writer

theorem matched_setPhase (matched : Matched tagged mux) (caller : Caller) (phase : Phase)
    (early : phase.early = true → (mux.roundTrips caller).id = none)
    (numbers : phase.numbers = true → (mux.roundTrips caller).id.isSome = true) (slots : Nat) :
    Matched tagged { mux.setPhase caller phase with slots := slots } :=
  matched_update matched caller { mux.roundTrips caller with phase := phase } slots rfl early
    numbers (Or.inl rfl) (matched.results caller)

theorem matched_finish (matched : Matched tagged mux) (caller : Caller)
    (result : Except TransportFailure Caller)
    (own : ∀ request, result = .ok request → request = caller) :
    Matched tagged (mux.finish caller result) := by
  refine matched_update matched caller _ _ rfl nofun nofun (Or.inl rfl) ?_
  intro request same
  exact own request (Option.some.inj same)

theorem matched_fail (matched : Matched tagged mux) (caller : Caller)
    (failure : TransportFailure) : Matched tagged (mux.finish caller (.error failure)) := by
  apply matched_finish matched caller
  intro request same
  cases same

/-- A waiter is put in the table under the id of its call. -/
theorem matched_insertPending (matched : Matched tagged mux) {id : Nat}
    (numbered : (mux.roundTrips caller).id = some id) :
    Matched tagged (mux.insertPending caller id) := by
  have told := matched_resolve matched (waiterOf id mux.pending).toList
    (.error connectionClosed) nofun
  have placed := matched_setPhase told caller .registered nofun
    (fun _ => by simp [resolve_id, numbered]) mux.slots
  refine ⟨placed.mode, placed.wraps, placed.ids, placed.distinct, placed.early, placed.numbers,
    placed.tags, ?_, placed.once, placed.answered, placed.own, placed.replies, placed.results⟩
  intro item member
  cases mem_insertWaiter member with
  | inl same =>
    subst same
    simp [DaemonMux.insertPending, DaemonMux.setPhase, resolve_id, numbered]
  | inr earlier => exact placed.places item earlier

/-- What is handed over is due from then on. -/
theorem matched_handOver (handing : Handing mux) (matched : Matched tagged mux)
    (registered : (mux.roundTrips caller).phase = .registered) :
    Matched tagged (mux.handOver caller ⟨mux.ipcId caller, caller⟩) := by
  have numbered : (mux.roundTrips caller).id.isSome = true := by
    apply matched.numbers
    simp [registered, Phase.numbers]
  have fresh : caller ∉ mux.handed := unsent handing caller (by simp [registered, Phase.sent])
  have waiting := matched_setPhase matched caller .waiting (by simp [Phase.early])
    (fun _ => numbered) mux.slots
  have grown : (mux.handOver caller ⟨mux.ipcId caller, caller⟩).due =
      mux.due ++ [⟨mux.ipcId caller, caller⟩] := by
    simp [DaemonMux.due, DaemonMux.handOver, DaemonMux.setPhase]
  refine ⟨waiting.mode, waiting.wraps, waiting.ids, waiting.distinct, waiting.early,
    waiting.numbers, ?_, waiting.places, ?_, ?_, waiting.own, waiting.replies, waiting.results⟩
  · intro frame member
    rw [grown, List.mem_append, List.mem_singleton] at member
    cases member with
    | inl earlier => exact waiting.tags frame earlier
    | inr same =>
      subst same
      simp [DaemonMux.handOver, DaemonMux.setPhase, DaemonMux.ipcId, matched.mode, numbered]
  · rw [grown, List.map_append, ← List.append_assoc]
    refine List.nodup_append.mpr ⟨matched.once, by simp, ?_⟩
    rintro earlier member other last rfl
    obtain rfl := List.mem_singleton.mp last
    apply fresh
    cases List.mem_append.mp member with
    | inl answered =>
      obtain ⟨item, present, same⟩ := List.mem_map.mp answered
      exact same ▸ matched.answered item present
    | inr due =>
      obtain ⟨frame, present, same⟩ := List.mem_map.mp due
      exact same ▸ handing.due frame present
  · intro item member
    exact List.mem_cons_of_mem caller (matched.answered item member)

/-- A reply that is taken from those that are due, and goes to the call it is for. -/
theorem matched_deliver (handing : Handing mux) (matched : Matched tagged mux)
    {frame : Frame Caller} {rest : List (Incoming Caller)}
    (queued : mux.toProxy = .reply frame :: rest)
    (own : ∀ waiter, mux.waiterFor frame = some waiter → waiter = frame.request) :
    Matched tagged ({ mux with toProxy := rest }.deliver frame) := by
  have read := due_read queued
  have sublist : List.Sublist { mux with toProxy := rest }.due mux.due := by
    rw [read]
    exact List.sublist_append_right _ _
  have moved := matched_moved matched sublist.subperm mux.written
  rcases deliver_cases { mux with toProxy := rest } frame with
    ⟨-, same⟩ | ⟨waiter, pending, found, fewer, -, same⟩
  · rw [same]
    exact moved
  · rw [same]
    obtain rfl := own waiter found
    have told := matched_resolve moved [frame.request] (.ok frame.request)
      (fun waiter member request same => by
        rw [List.mem_singleton.mp member, Except.ok.inj same])
    have taken := matched_table told fewer mux.closed mux.slots mux.writer
    have member : frame ∈ mux.due := by
      rw [read]
      exact List.mem_cons_self
    refine ⟨taken.mode, taken.wraps, taken.ids, taken.distinct, taken.early, taken.numbers,
      taken.tags, taken.places, ?_, ?_, ?_, taken.replies, taken.results⟩
    · have once := matched.once
      rw [read] at once
      dsimp only [DaemonMux.deliverTo]
      split
      · exact List.perm_middle.nodup_iff.mp once
      · exact moved.once
    · dsimp only [DaemonMux.deliverTo]
      split
      · exact List.forall_mem_cons.mpr ⟨handing.due frame member, matched.answered⟩
      · exact matched.answered
    · dsimp only [DaemonMux.deliverTo]
      split
      · exact List.forall_mem_cons.mpr ⟨rfl, matched.own⟩
      · exact matched.own

end Plug.Proxy
