import Plug.ActiveCalls

/-!
# The keys of calls in flight

Whatever calls are made, with a downstream context or without, the table of the clients' requests
leads from a key to a call in flight whose context has that key. So a call is refused, or cancelled,
only for a request of the same client and the same id.
-/

namespace Plug.ActiveCalls

/-- Every record is that of a call in flight, and the clients' table leads to records. -/
structure Keyed (router : Router) : Prop where
  lookup : Refers router.index.activeCalls (fun record => some record.downstream.key)
    router.index.activeCallLookup
  owned : ∀ (callId : Nat) (record : ActiveCallRecord),
    router.index.activeCalls callId = some record →
    ∃ (position : Nat) (call : Call) (serverId : String) (sent : Bool),
      router.calls[position]? = some call ∧ call.held = some (callId, serverId, sent) ∧
      call.downstream = some record.downstream
  numbered : Numbered router.calls router.nextCallId

theorem initial_keyed : Keyed initial := by
  refine ⟨?_, ?_, ?_, ?_⟩
  · intro key callId entry
    cases entry
  · intro callId record present
    cases present
  · intro position other callId call otherCall found
    cases found
  · intro position callId call found
    cases found

section Keyed

variable {router : Router} {position callId : Nat} {call after : Call} {record : ActiveCallRecord}

/-- The record with a call's id is that call's, which has a context. -/
theorem Keyed.held (keyed : Keyed router) (found : router.calls[position]? = some call)
    (own : call.phase.callId = some callId)
    (present : router.index.activeCalls callId = some record) :
    (∃ serverId sent, call.held = some (callId, serverId, sent)) ∧
      call.downstream = some record.downstream := by
  obtain ⟨owner, ownerCall, serverId, sent, there, held, downstream⟩ :=
    keyed.owned callId record present
  obtain rfl := keyed.numbered.distinct owner position callId ownerCall call there found
    (callId_of_held held) own
  rw [found] at there
  cases there
  exact ⟨⟨serverId, sent, held⟩, downstream⟩

theorem Keyed.unregistered (keyed : Keyed router) (found : router.calls[position]? = some call)
    (free : call.held = none) (own : call.phase.callId = some callId) :
    router.index.activeCalls callId = none := by
  cases present : router.index.activeCalls callId with
  | none => rfl
  | some record =>
    obtain ⟨⟨serverId, sent, held⟩, -⟩ := keyed.held found own present
    rw [free] at held
    cases held

/-- A step of one call, which changes at most the record with its id. -/
theorem Keyed.moved (keyed : Keyed router) {nextCallId : Nat} {index : Index}
    (found : router.calls[position]? = some call)
    (lookup : Refers index.activeCalls (fun record => some record.downstream.key)
      index.activeCallLookup)
    (numbered : Numbered (router.calls.set position after) nextCallId)
    (kept : ∀ callId, call.phase.callId ≠ some callId →
      index.activeCalls callId = router.index.activeCalls callId)
    (owned : ∀ callId record, call.phase.callId = some callId →
      index.activeCalls callId = some record →
        (∃ serverId sent, after.held = some (callId, serverId, sent)) ∧
          after.downstream = some record.downstream) :
    Keyed { index := index, nextCallId := nextCallId,
            calls := router.calls.set position after } := by
  refine ⟨lookup, ?_, numbered⟩
  intro callId record present
  by_cases own : call.phase.callId = some callId
  · obtain ⟨⟨serverId, sent, held⟩, downstream⟩ := owned callId record own present
    exact ⟨position, after, serverId, sent,
      (Runs.getElem?_set_found found _ _).trans (if_pos rfl), held, downstream⟩
  · rw [kept callId own] at present
    obtain ⟨owner, ownerCall, serverId, sent, there, held, downstream⟩ :=
      keyed.owned callId record present
    refine ⟨owner, ownerCall, serverId, sent, ?_, held, downstream⟩
    rw [Runs.getElem?_set_found found, if_neg]
    · exact there
    · rintro rfl
      rw [found] at there
      cases there
      exact own (callId_of_held held)

/-- A step of a call that has no record, and gets none. -/
theorem Keyed.passed (keyed : Keyed router) (found : router.calls[position]? = some call)
    (free : call.held = none)
    (callIds : ∀ callId, after.phase.callId = some callId → call.phase.callId = some callId) :
    Keyed { router with calls := router.calls.set position after } := by
  refine keyed.moved found keyed.lookup (keyed.numbered.set found callIds) (fun _ _ => rfl) ?_
  intro callId record own present
  rw [keyed.unregistered found free own] at present
  cases present

theorem removeActiveCall_refers (lookup : Refers router.index.activeCalls
      (fun record => some record.downstream.key) router.index.activeCallLookup) (callId : Nat) :
    Refers (router.index.removeActiveCall callId).activeCalls
      (fun record => some record.downstream.key)
      (router.index.removeActiveCall callId).activeCallLookup := by
  unfold Index.removeActiveCall
  split
  · exact lookup
  · rename_i record present
    exact lookup.removed present

/-- A call is removed and ends. -/
theorem Keyed.removed (keyed : Keyed router) (found : router.calls[position]? = some call)
    (own : call.phase.callId = some callId) (idle : after.phase.callId = none) :
    Keyed { router with
      index := router.index.removeActiveCall callId
      calls := router.calls.set position after } := by
  refine keyed.moved found (removeActiveCall_refers keyed.lookup callId)
    (keyed.numbered.set found ?_) ?_ ?_
  · intro id idAfter
    rw [idle] at idAfter
    cases idAfter
  · intro id other
    rw [removeActiveCall_activeCalls]
    refine Function.update_of_ne ?_ _ _
    rintro rfl
    exact other own
  · intro id record ownId present
    rw [own] at ownId
    cases ownId
    rw [removeActiveCall_activeCalls, Function.update_self] at present
    cases present

end Keyed

/-! ### Steps -/

section Steps

variable {router next : Router} {position : Nat}

/-- The registration of a numbered call with a context is refused exactly when its key is taken,
and leaves the index as it is then. -/
theorem Keyed.register_refused (keyed : Keyed router) {call : Call} {callId : Nat}
    {serverId : String} (found : router.calls[position]? = some call)
    (phase : call.phase = .numbered callId serverId) {context : DownstreamCallContext}
    {progressToken : Option NumberOrString} {winner : Nat}
    (taken : router.index.activeCallLookup context.key = some winner) :
    router.index.registerActiveCall callId
        ⟨context, serverId, none, progressToken, none, none⟩ =
      (.error ⟨.retryableTransition, context.protocolEra⟩, router.index) :=
  @register_rejected router.index callId winner
    ⟨context, serverId, none, progressToken, none, none⟩
    (keyed.unregistered found (held_none (Or.inr ⟨callId, serverId, phase⟩))
      (by rw [phase]; rfl)) taken

theorem register_keyed (keyed : Keyed router)
    (stepped : step router (.register position) = some next) : Keyed next := by
  dsimp only [step] at stepped
  split at stepped
  · rename_i call found
    split at stepped
    · rename_i callId serverId phase
      have free : call.held = none := held_none (Or.inr ⟨callId, serverId, phase⟩)
      have own : call.phase.callId = some callId := by
        rw [phase]
        rfl
      split at stepped
      · rename_i noContext
        cases stepped
        exact keyed.passed found free fun id idAfter => own.trans idAfter
      · rename_i context present
        cases stepped
        have absent := keyed.unregistered found free own
        cases taken : router.index.activeCallLookup context.key with
        | some winner =>
          rw [keyed.register_refused found phase taken]
          exact keyed.passed found free nofun
        | none =>
          unfold Index.registerActiveCall
          dsimp only
          rw [taken]
          refine keyed.moved found ?_ (keyed.numbered.set found fun id idAfter => own.trans idAfter)
            ?_ ?_
          · exact keyed.lookup.inserted (some context.key)
              (fun old there => by rw [absent] at there; cases there) (Or.inr rfl)
          · intro id other
            refine Function.update_of_ne ?_ _ _
            rintro rfl
            exact other own
          · intro id record ownId there
            rw [own] at ownId
            cases ownId
            change Function.update router.index.activeCalls callId _ callId = some record at there
            rw [Function.update_self] at there
            cases there
            refine ⟨⟨serverId, false, ?_⟩, present⟩
            unfold Call.held
            dsimp only
            rw [present]
    · cases stepped
  · cases stepped

theorem send_keyed (keyed : Keyed router) {requestId progressToken : NumberOrString}
    (stepped : step router (.send position requestId progressToken) = some next) : Keyed next := by
  dsimp only [step] at stepped
  split at stepped
  · rename_i call found
    split at stepped
    · rename_i callId serverId phase
      cases stepped
      have own : call.phase.callId = some callId := by
        rw [phase]
        rfl
      refine keyed.moved found ?_ (keyed.numbered.set found fun id idAfter => own.trans idAfter)
        ?_ ?_
      · -- a call without a context has no record that the request could be attached to
        cases present : router.index.activeCalls callId with
        | none =>
          unfold Index.attachUpstreamRequestId
          rw [present]
          dsimp only [Option.map_none]
          rw [Function.update_eq_self_iff.mpr present.symm]
          exact keyed.lookup
        | some record =>
          unfold Index.attachUpstreamRequestId
          rw [present]
          refine keyed.lookup.inserted none ?_ (Or.inl rfl)
          intro old there
          rw [present] at there
          cases there
          exact Or.inr rfl
      · intro id other
        refine Function.update_of_ne ?_ _ _
        rintro rfl
        exact other own
      · intro id record ownId there
        rw [own] at ownId
        cases ownId
        change Function.update router.index.activeCalls callId _ callId = some record at there
        rw [Function.update_self] at there
        obtain ⟨old, present, rfl⟩ := Option.map_eq_some_iff.mp there
        obtain ⟨-, downstream⟩ := keyed.held found own present
        refine ⟨⟨serverId, true, ?_⟩, downstream⟩
        unfold Call.held
        dsimp only
        rw [downstream]
    · cases stepped
  · cases stepped

theorem leave_keyed (keyed : Keyed router) (stepped : step router (.leave position) = some next) :
    Keyed next := by
  dsimp only [step] at stepped
  split at stepped
  · rename_i call found
    split at stepped
    · rename_i callId serverId context phase present
      cases stepped
      exact keyed.removed found (by rw [phase]; rfl) rfl
    · rename_i callId serverId context phase present
      cases stepped
      exact keyed.removed found (by rw [phase]; rfl) rfl
    · cases stepped
    · rename_i _ unheldWaiting unheldAttached
      cases stepped
      refine keyed.passed found ?_ nofun
      unfold Call.held
      split
      · rename_i present phase
        exact (unheldWaiting _ _ _ phase present).elim
      · rename_i present phase
        exact (unheldAttached _ _ _ phase present).elim
      · rfl
  · cases stepped

theorem cancel_keyed (keyed : Keyed router) (context : DownstreamCallContext)
    (reason : Option String) (connected : Bool) :
    Keyed { router with
      index := (router.index.forwardCancelFromDownstream context reason connected).1 } := by
  unfold Index.forwardCancelFromDownstream
  split
  · exact keyed
  · split
    · exact keyed
    · rename_i callId looked _ record present
      split
      · exact keyed
      · split
        · refine ⟨?_, ?_, keyed.numbered⟩
          · refine keyed.lookup.inserted none ?_ (Or.inl rfl)
            intro old there
            rw [present] at there
            cases there
            exact Or.inr rfl
          · intro id other there
            by_cases same : id = callId
            · subst same
              change Function.update router.index.activeCalls id _ id = some other at there
              rw [Function.update_self] at there
              cases there
              exact keyed.owned id record present
            · change Function.update router.index.activeCalls callId _ id = some other at there
              rw [Function.update_of_ne same] at there
              exact keyed.owned id other there
        · exact keyed

theorem keyed_step {action : Action} (keyed : Keyed router)
    (stepped : step router action = some next) : Keyed next := by
  cases action with
  | enter downstream progressToken =>
    cases stepped
    refine ⟨keyed.lookup, ?_, keyed.numbered.append rfl⟩
    intro callId record present
    obtain ⟨owner, call, serverId, sent, there, held⟩ := keyed.owned callId record present
    have bound := (List.getElem?_eq_some_iff.mp there).1
    exact ⟨owner, call, serverId, sent, (List.getElem?_append_left bound).trans there, held⟩
  | number position serverId =>
    dsimp only [step] at stepped
    split at stepped
    · rename_i call found
      split at stepped
      · rename_i entering
        cases stepped
        refine keyed.moved found keyed.lookup (keyed.numbered.next found rfl) (fun _ _ => rfl) ?_
        intro callId record own
        rw [entering] at own
        cases own
      · cases stepped
    · cases stepped
  | register position => exact register_keyed keyed stepped
  | send position requestId progressToken => exact send_keyed keyed stepped
  | sendFailed position =>
    dsimp only [step] at stepped
    split at stepped
    · rename_i call found
      split at stepped
      · rename_i callId serverId phase
        cases stepped
        exact keyed.removed found (by rw [phase]; rfl) rfl
      · cases stepped
    · cases stepped
  | finish position =>
    dsimp only [step] at stepped
    split at stepped
    · rename_i call found
      split at stepped
      · rename_i callId serverId phase
        cases stepped
        exact keyed.removed found (by rw [phase]; rfl) rfl
      · cases stepped
    · cases stepped
  | retry position =>
    dsimp only [step] at stepped
    split at stepped
    · rename_i call found
      split at stepped
      · rename_i settled
        cases stepped
        refine keyed.passed found (held_none (Or.inl ?_)) nofun
        rw [settled.1]
        rfl
      · cases stepped
    · cases stepped
  | leave position => exact leave_keyed keyed stepped
  | cancelDownstream context reason connected =>
    cases stepped
    exact cancel_keyed keyed context reason connected

/-- A call stays where it is, with its context. -/
def Stays (calls next : List Call) : Prop :=
  ∀ (position : Nat) (call : Call), calls[position]? = some call →
    ∃ after, next[position]? = some after ∧ after.downstream = call.downstream

theorem Stays.refl (calls : List Call) : Stays calls calls :=
  fun _ call found => ⟨call, found, rfl⟩

theorem Stays.set {calls : List Call} {call after : Call} (found : calls[position]? = some call)
    (same : after.downstream = call.downstream) : Stays calls (calls.set position after) := by
  intro place other there
  rw [Runs.getElem?_set_found found]
  split
  · rename_i here
    subst here
    rw [found] at there
    cases there
    exact ⟨after, rfl, same⟩
  · exact ⟨other, there, rfl⟩

theorem step_stays {action : Action} (stepped : step router action = some next) :
    Stays router.calls next.calls := by
  cases action with
  | enter downstream progressToken =>
    cases stepped
    intro position call found
    have bound := (List.getElem?_eq_some_iff.mp found).1
    exact ⟨call, (List.getElem?_append_left bound).trans found, rfl⟩
  | cancelDownstream context reason connected =>
    cases stepped
    exact Stays.refl _
  | register position =>
    dsimp only [step] at stepped
    split at stepped
    · rename_i call found
      split at stepped
      · split at stepped
        · cases stepped
          exact Stays.set found rfl
        · cases stepped
          exact Stays.set found rfl
      · cases stepped
    · cases stepped
  | leave position =>
    dsimp only [step] at stepped
    split at stepped
    · rename_i call found
      split at stepped
      · cases stepped
        exact Stays.set found rfl
      · cases stepped
        exact Stays.set found rfl
      · cases stepped
      · cases stepped
        exact Stays.set found rfl
    · cases stepped
  | number position _ | send position _ _ | sendFailed position | finish position
  | retry position =>
    dsimp only [step] at stepped
    split at stepped
    · rename_i call found
      split at stepped
      · cases stepped
        exact Stays.set found rfl
      · cases stepped
    · cases stepped

end Steps

/-- The place of the call in flight that a key leads to. -/
def Router.holder (router : Router) (context : DownstreamCallContext) : Option Nat :=
  (router.index.activeCallLookup context.key).bind fun callId =>
    router.calls.findIdx? fun call => call.phase.callId = some callId

/-- A key leads to a call whose context has it. -/
theorem Keyed.holder {router : Router} (keyed : Keyed router) {context : DownstreamCallContext}
    {callId : Nat} (taken : router.index.activeCallLookup context.key = some callId) :
    ∃ (position : Nat) (call : Call) (other : DownstreamCallContext),
      router.holder context = some position ∧ router.calls[position]? = some call ∧
      call.held.isSome = true ∧ call.downstream = some other ∧ other.key = context.key := by
  obtain ⟨record, present, carries⟩ := keyed.lookup context.key callId taken
  obtain ⟨position, call, serverId, sent, found, held, downstream⟩ :=
    keyed.owned callId record present
  have first : router.calls.findIdx? (fun call => call.phase.callId = some callId) =
      some position := by
    have own := callId_of_held held
    have bound := (List.getElem?_eq_some_iff.mp found).1
    rw [List.findIdx?_eq_some_iff_getElem]
    refine ⟨bound, ?_, ?_⟩
    · rw [(List.getElem?_eq_some_iff.mp found).2]
      exact decide_eq_true own
    · intro other less
      have there := List.getElem?_eq_getElem (Nat.lt_trans less bound)
      rw [decide_eq_true_eq]
      intro same
      exact absurd (keyed.numbered.distinct other position callId _ call there found same own)
        (Nat.ne_of_lt less)
  refine ⟨position, call, record.downstream, ?_, found, by rw [held]; rfl, downstream,
    Option.some.inj carries⟩
  rw [Router.holder, taken, Option.bind_some, first]

end Plug.ActiveCalls
