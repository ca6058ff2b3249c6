import Plug.Histories
import Plug.WatchEvents

/-!
# What a step of the watch events can do

One inversion of the step function, from which every invariant follows by cases, and what the
sections that write the state can write.
-/

namespace Plug.Watch

open JsonValues Events Durable

variable {env : Environment} {codec : Codec WatchState} {state next : System} {act : Act}

/-- The live or stale subscription that a delivery has found. -/
def Delivery.subscription? : Delivery → Option Subscription
  | .taken subscription _ _ => subscription
  | .permitted subscription _ _ => some subscription
  | .posting subscription _ => some subscription

/-- The states that a section other than those of `subscribe` and of the delivery writes. -/
inductive Write (env : Environment) (state : System) (act : Act) : WatchState → Prop where
  | forgotten (id : String) : Write env state act (state.cell.value.forget id)
  | observed (event eventId hash : String) (body : List UInt8) (timestamp : Nat)
      (asked : ∃ watch readOnly result saving,
        act = .check watch readOnly result timestamp eventId saving)
      (fresh : eventId ∉ state.issued) (small : body.length ≤ maxBody) :
      Write env state act (state.cell.value.observed event eventId hash body timestamp)
  | pruned (watches : List WatchConfig) (timestamp : Nat) :
      Write env state act (state.cell.value.pruned watches timestamp)

/-- The cell after a section: as it was, or after one write. -/
def Writes (env : Environment) (codec : Codec WatchState) (state : System) (act : Act)
    (saving : Saving) (cell : Cell WatchState) : Prop :=
  cell = state.cell ∨ ∃ value, Write env state act value ∧
    cell = (state.cell.commit (file codec) value saving).1

/-- A write beside the gate: that of a check or of pruning. -/
def Act.Beside (act : Act) (saving : Saving) : Prop :=
  (∃ watch readOnly result timestamp eventId,
    act = .check watch readOnly result timestamp eventId saving) ∨
  ∃ watches timestamp, act = .prune watches timestamp saving

/-- What `step` does, one constructor for each outcome. -/
inductive Effect (env : Environment) (codec : Codec WatchState) (state next : System)
    (act : Act) : Prop where
  | waits (waiting : List SubscribeCall)
      (known : ∀ call ∈ waiting, call ∈ state.waiting ∨ ∃ watches clientId params,
        act = .subscribe watches clientId params ∧
        subscribe env state.cell.degraded watches clientId params = .ok call)
      (same : next = { state with waiting := waiting })
  | entered (index now : Nat) (permitted : Bool) (call : SubscribeCall)
      (refreshing : Option Refreshing) (asked : act = .enter index now permitted)
      (found : state.waiting[index]? = some call) (free : state.gateFree = true)
      (fresh : ∀ held, refreshing = some held → held.call = call ∧
        held.current = state.cell.value.subscription? call.target.id ∧
        held.stage = if held.current.any (fun subscription =>
          subscription.verified call.secret now) then .verified else .unverified)
      (same : next = { state with
        waiting := state.waiting.eraseIdx index
        refreshing := refreshing }.note (.entered call.target.id call.clientId call.secret))
  | challenged (call : SubscribeCall) (current : Option Subscription) (challenge : String)
      (held : state.refreshing = some ⟨call, current, .unverified⟩)
      (same : next = { state with
        refreshing := some ⟨call, current, .challenged challenge⟩ }.note
        (.verifying call.target.id state.cell.degraded))
  | echoed (call : SubscribeCall) (current : Option Subscription) (challenge : String)
      (held : state.refreshing = some ⟨call, current, .challenged challenge⟩)
      (same : next = { state with refreshing := some ⟨call, current, .verified⟩ })
  | stored (call : SubscribeCall) (current : Option Subscription) (now : Nat) (saving : Saving)
      (asked : act = .store now saving)
      (held : state.refreshing = some ⟨call, current, .verified⟩)
      (done : (state.cell.commit (file codec)
        (call.stored current now state.cell.value) saving).2 = true)
      (same : next = { state with
        cell := (state.cell.commit (file codec)
          (call.stored current now state.cell.value) saving).1
        refreshing := none }.note (.stored call.target.id call.secret
          ((state.cell.value.subscription? call.target.id).map Subscription.secret) now))
  | unstored (call : SubscribeCall) (current : Option Subscription) (now : Nat)
      (saving : Saving) (asked : act = .store now saving)
      (held : state.refreshing = some ⟨call, current, .verified⟩)
      (failed : (state.cell.commit (file codec)
        (call.stored current now state.cell.value) saving).2 = false)
      (same : next = { state with
        cell := (state.cell.commit (file codec)
          (call.stored current now state.cell.value) saving).1
        refreshing := none })
  | abandoned (same : next = { state with refreshing := none })
  | unsubscribed (id clientId : String) (cell : Cell WatchState) (saving : Saving)
      (free : state.gateFree = true) (writes : Writes env codec state act saving cell)
      (gone : ∀ subscription ∈ cell.value.subscriptions, subscription.id ≠ id)
      (same : next = { state with cell := cell }.note (.unsubscribed id clientId))
  | wrote (cell : Cell WatchState) (saving : Saving) (issued : List String)
      (asked : act.Beside saving ∨ state.gateFree = true)
      (writes : Writes env codec state act saving cell)
      (kept : state.refreshing.isSome = true →
        cell.value.subscriptions = state.cell.value.subscriptions)
      (more : issued = state.issued ∨ ∃ watch readOnly result timestamp eventId saving,
        act = .check watch readOnly result timestamp eventId saving ∧
        eventId ∉ state.issued ∧ issued = eventId :: state.issued)
      (same : next = { state with
        cell := cell
        issued := issued })
  | took (subscription : Option Subscription) (pending : Pending) (now : Nat)
      (asked : act = .takeDue now) (free : state.gateFree = true)
      (working : state.stopped = false)
      (due : state.cell.value.due now = some (subscription, pending))
      (same : next = { state with delivering := some (.taken subscription pending now) })
  | permitted (subscription : Subscription) (pending : Pending) (timestamp : Nat)
      (held : state.delivering = some (.taken (some subscription) pending timestamp))
      (same : next = { state with
        delivering := some (.permitted subscription pending timestamp) })
  | discarded (cell : Cell WatchState) (saving : Saving) (delivery : Delivery)
      (held : state.delivering = some delivery)
      (unsent : ∀ subscription pending, delivery ≠ .posting subscription pending)
      (writes : Writes env codec state act saving cell)
      (sublist : List.Sublist cell.value.queue state.cell.value.queue)
      (same : next = state.idle cell)
  | posted (subscription : Subscription) (pending : Pending) (timestamp : Nat)
      (held : state.delivering = some (.permitted subscription pending timestamp))
      (same : next = { state with
        delivering := some (.posting subscription pending) }.note
        (.posted subscription.id pending.eventId
          (signers subscription.secret subscription.oldSecret subscription.oldSecretUntil
            timestamp) timestamp state.cell.degraded))
  | finished (subscription : Subscription) (pending : Pending) (status : Option Nat)
      (now : Nat) (saving : Saving) (asked : act = .finish status now saving)
      (held : state.delivering = some (.posting subscription pending))
      (same : next = state.idle (state.cell.commit (file codec)
        (state.cell.value.answered subscription pending status now) saving).1)
  | cancelled (same : next = { state with
      delivering := none
      stopped := true })
  | opened (cell : Cell WatchState)
      (reopened : state.cell.reopen (file codec) .default = some cell)
      (same : next = { state with
        cell := cell
        waiting := []
        refreshing := none
        delivering := none
        stopped := false }.note .opened)

/-! ### What is written -/

@[simp] theorem enqueue_subscriptions (pending : String → Pending) (ids : List String)
    (value : WatchState) : (value.enqueue pending ids).subscriptions = value.subscriptions := by
  induction ids generalizing value with
  | nil => rfl
  | cons id rest ih =>
    rw [WatchState.enqueue]
    split
    · rfl
    · rw [ih]

@[simp] theorem observed_subscriptions (value : WatchState) (event eventId hash : String)
    (body : List UInt8) (timestamp : Nat) :
    (value.observed event eventId hash body timestamp).subscriptions = value.subscriptions := by
  unfold WatchState.observed
  dsimp only
  split <;> simp

/-- Only `subscribe` adds a subscription. -/
theorem Write.subscriptions {value : WatchState} (write : Write env state act value) :
    List.Sublist value.subscriptions state.cell.value.subscriptions := by
  cases write with
  | forgotten id => exact List.filter_sublist
  | observed event eventId hash body timestamp asked fresh small =>
    rw [observed_subscriptions]
  | pruned watches timestamp => exact List.filter_sublist

theorem answered_subscriptions (value : WatchState) (subscription : Subscription)
    (pending : Pending) (status : Option Nat) (now : Nat) :
    List.Sublist (value.answered subscription pending status now).subscriptions
      value.subscriptions := by
  unfold WatchState.answered
  split
  · dsimp only
    split
    · exact List.filter_sublist
    · exact List.Sublist.refl _
  · exact List.Sublist.refl _

theorem Writes.subscriptions {cell : Cell WatchState} {saving : Saving}
    (writes : Writes env codec state act saving cell) :
    List.Sublist cell.value.subscriptions state.cell.value.subscriptions := by
  rcases writes with rfl | ⟨value, write, rfl⟩
  · exact List.Sublist.refl _
  · exact commit_holds (file codec) (fun value =>
      List.Sublist value.subscriptions state.cell.value.subscriptions) (List.Sublist.refl _)
      write.subscriptions saving

theorem gateFree_refreshing (free : state.gateFree = true) : state.refreshing = none := by
  rw [System.gateFree, Bool.and_eq_true] at free
  exact Option.isNone_iff_eq_none.mp free.1

theorem gateFree_delivering (free : state.gateFree = true) : state.delivering = none := by
  rw [System.gateFree, Bool.and_eq_true] at free
  exact Option.isNone_iff_eq_none.mp free.2

/-! ### The sections -/

/-- The first item that is due is looked up among the subscriptions. -/
theorem due_subscription {value : WatchState} {now : Nat} {subscription : Subscription}
    {pending : Pending} (due : value.due now = some (some subscription, pending)) :
    subscription ∈ value.subscriptions ∧ subscription.id = pending.subscriptionId := by
  obtain ⟨item, _, same⟩ := Option.map_eq_some_iff.mp due
  obtain ⟨found, rfl⟩ := Prod.mk.inj same
  have meets := List.find?_some found
  exact ⟨List.mem_of_find?_eq_some found, (of_decide_eq_true meets).1⟩

theorem unsubscribe_writes (id : String) (saving : Saving) :
    Writes env codec state act saving (unsubscribe codec state.cell id saving).2 := by
  unfold unsubscribe
  split
  · exact Or.inr ⟨_, .forgotten id, rfl⟩
  · exact Or.inl rfl

/-- After an `unsubscribe` that returned no error the subscription is gone. -/
theorem unsubscribe_gone {cell : Cell WatchState} {id : String} {saving : Saving}
    {value : Value} (done : (unsubscribe codec cell id saving).1 = .ok value) :
    ∀ subscription ∈ (unsubscribe codec cell id saving).2.value.subscriptions,
      subscription.id ≠ id := by
  unfold unsubscribe at done ⊢
  split
  · rename_i present
    rw [if_pos present] at done
    rcases commit_cases (file codec) cell (cell.value.forget id) saving with
      ⟨same, _⟩ | ⟨same, _⟩ | ⟨_, same, _⟩
    · simp only [same, answer] at done
      cases done
    · simp only [same]
      intro subscription member
      exact of_decide_eq_true (List.mem_filter.mp member).2
    · simp only [same, answer] at done
      cases done
  · rename_i absent
    intro subscription member found
    exact absent (List.any_eq_true.mpr ⟨subscription, member, decide_eq_true found⟩)

theorem check_writes {watch : WatchConfig} {readOnly : Option Bool} {result : Option Value}
    {timestamp : Nat} {eventId : String} {saving : Saving} (fresh : eventId ∉ state.issued)
    (asked : act = .check watch readOnly result timestamp eventId saving) : Writes env codec state act saving
      (check env codec state.cell watch readOnly result timestamp eventId saving).2 := by
  unfold check
  split
  · split
    · split
      · exact Or.inl rfl
      · rename_i time shown
        dsimp only
        split
        · exact Or.inl rfl
        · rename_i small
          split
          · exact Or.inl rfl
          · exact Or.inr ⟨_, .observed _ _ _ _ _ ⟨_, _, _, saving, asked⟩ fresh
              (Nat.le_of_not_lt small), rfl⟩
    · exact Or.inl rfl
  · exact Or.inl rfl

/-- A check leaves the subscriptions as they are. -/
theorem check_subscriptions (cell : Cell WatchState) (watch : WatchConfig)
    (readOnly : Option Bool) (result : Option Value) (timestamp : Nat) (eventId : String)
    (saving : Saving) :
    (check env codec cell watch readOnly result timestamp eventId saving).2.value.subscriptions =
      cell.value.subscriptions := by
  unfold check
  split
  · split
    · split
      · rfl
      · rename_i time shown
        dsimp only
        split
        · rfl
        · split
          · rfl
          · exact commit_holds (file codec) (fun value =>
              value.subscriptions = cell.value.subscriptions) rfl
              (observed_subscriptions cell.value watch.eventName eventId
                (env.digest (env.toVec _)) _ timestamp) saving
    · rfl
  · rfl

theorem prune_writes (watches : List WatchConfig) (timestamp : Nat) (saving : Saving) :
    Writes env codec state act saving (prune codec state.cell watches timestamp saving).2 := by
  unfold prune
  dsimp only
  split
  · exact Or.inl rfl
  · exact Or.inr ⟨_, .pruned watches timestamp, rfl⟩

theorem step_effect (stepped : step env codec state act = some next) :
    Effect env codec state next act := by
  have unmoved : next = state → Effect env codec state next act := fun same =>
    .waits state.waiting (fun call member => Or.inl member) same
  cases act with
  | subscribe watches clientId params =>
    simp only [step] at stepped
    split at stepped
    · rename_i call accepted
      cases stepped
      refine .waits _ ?_ rfl
      intro other member
      cases List.mem_append.mp member with
      | inl former => exact Or.inl former
      | inr last =>
        obtain rfl := List.mem_singleton.mp last
        exact Or.inr ⟨watches, clientId, params, rfl, accepted⟩
    · cases stepped
      exact unmoved rfl
  | enter index now permitted =>
    simp only [step] at stepped
    split at stepped
    · rename_i call found
      split at stepped
      · rename_i free
        split at stepped
        · rename_i current admitted
          cases stepped
          refine .entered index now permitted call _ rfl found free ?_ rfl
          rintro held ⟨⟩
          refine ⟨rfl, ?_, rfl⟩
          unfold WatchState.currentSubscription at admitted
          split at admitted
          · dsimp only at admitted
            split at admitted
            · cases admitted
            · exact (Except.ok.inj admitted).symm
          · cases admitted
        · cases stepped
          refine .entered index now permitted call state.refreshing rfl found free ?_ rfl
          intro held present
          simp [System.gateFree, present] at free
      · cases stepped
    · cases stepped
  | challenge challenge verification now =>
    simp only [step] at stepped
    split at stepped
    · rename_i call current held
      split at stepped
      · cases stepped
        exact .challenged call current challenge held rfl
      · cases stepped
        exact .abandoned rfl
    · cases stepped
  | echo response =>
    simp only [step] at stepped
    split at stepped
    · rename_i call current challenge held
      split at stepped
      · cases stepped
        exact .echoed call current challenge held rfl
      · cases stepped
        exact .abandoned rfl
    · cases stepped
  | store now saving =>
    simp only [step] at stepped
    split at stepped
    · rename_i call current held
      cases stepped
      split
      · rename_i done
        exact .stored call current now saving rfl held done rfl
      · rename_i failed
        exact .unstored call current now saving rfl held (by simpa using failed) rfl
    · cases stepped
  | abandon =>
    simp only [step] at stepped
    split at stepped
    · cases stepped
      exact .abandoned rfl
    · cases stepped
  | leave index =>
    cases stepped
    exact .waits _ (fun call member => Or.inl (List.mem_of_mem_eraseIdx member)) rfl
  | unsubscribe watches clientId params saving =>
    simp only [step] at stepped
    split at stepped
    · rename_i target known
      split at stepped
      · rename_i free
        cases stepped
        have writes := @unsubscribe_writes env codec state
          (.unsubscribe watches clientId params saving) target.id saving
        split
        · rename_i value done
          exact .unsubscribed target.id clientId _ saving free writes (unsubscribe_gone done)
            rfl
        · refine .wrote _ saving state.issued (Or.inr free) writes ?_ (Or.inl rfl) rfl
          intro refreshing
          rw [gateFree_refreshing free] at refreshing
          cases refreshing
      · cases stepped
    · cases stepped
      exact unmoved rfl
  | check watch readOnly result timestamp eventId saving =>
    simp only [step] at stepped
    split at stepped
    · cases stepped
    · rename_i fresh
      cases stepped
      exact .wrote _ saving _
        (Or.inl (Or.inl ⟨watch, readOnly, result, timestamp, eventId, rfl⟩)) (check_writes fresh rfl)
        (fun _ => check_subscriptions ..)
        (Or.inr ⟨watch, readOnly, result, timestamp, eventId, saving, rfl, fresh, rfl⟩) rfl
  | prune watches timestamp saving =>
    simp only [step] at stepped
    split at stepped
    · rename_i free
      cases stepped
      refine .wrote _ saving state.issued (Or.inl (Or.inr ⟨watches, timestamp, rfl⟩))
        (prune_writes watches timestamp saving) ?_ (Or.inl rfl) rfl
      intro refreshing
      rw [Option.isNone_iff_eq_none.mp free] at refreshing
      cases refreshing
    · cases stepped
  | takeDue now =>
    simp only [step] at stepped
    split at stepped
    · rename_i ready
      rw [Bool.and_eq_true] at ready
      split at stepped
      · rename_i subscription pending due
        cases stepped
        exact .took subscription pending now rfl ready.1 (by simpa using ready.2) due rfl
      · cases stepped
        exact unmoved rfl
    · cases stepped
  | decide watches permitted saving =>
    simp only [step] at stepped
    split at stepped
    · rename_i subscription pending timestamp held
      split at stepped
      · rename_i found allowed
        cases stepped
        obtain rfl := (Option.filter_eq_some_iff.mp allowed).1
        exact .permitted found pending timestamp held rfl
      · cases stepped
        refine .discarded _ saving _ held nofun
          (Or.inr ⟨_, .forgotten pending.subscriptionId, rfl⟩) ?_ rfl
        exact commit_holds (file codec) (fun value =>
          List.Sublist value.queue state.cell.value.queue) (List.Sublist.refl _)
          List.filter_sublist saving
    · cases stepped
  | post =>
    simp only [step] at stepped
    split at stepped
    · rename_i subscription pending timestamp held
      split at stepped
      · cases stepped
        exact .posted subscription pending timestamp held rfl
      · cases stepped
        exact .discarded _ .saved _ held nofun (Or.inl rfl) (List.Sublist.refl _) rfl
    · cases stepped
  | finish status now saving =>
    simp only [step] at stepped
    split at stepped
    · rename_i subscription pending held
      cases stepped
      exact .finished subscription pending status now saving rfl held rfl
    · cases stepped
  | cancel =>
    cases stepped
    exact .cancelled rfl
  | reopen =>
    obtain ⟨cell, reopened, rfl⟩ := Option.map_eq_some_iff.mp stepped
    exact .opened cell reopened rfl

theorem step_appends (env : Environment) (codec : Codec WatchState) :
    Histories.Appends (step env codec) System.log := by
  intro state act next stepped
  cases step_effect stepped with
  | waits waiting known same => exact same ▸ Or.inl rfl
  | entered index now permitted call refreshing asked found free fresh same => exact same ▸ Or.inr ⟨_, rfl⟩
  | challenged call current challenge held same => exact same ▸ Or.inr ⟨_, rfl⟩
  | echoed call current challenge held same => exact same ▸ Or.inl rfl
  | stored call current now saving asked held done same => exact same ▸ Or.inr ⟨_, rfl⟩
  | unstored call current now saving asked held failed same => exact same ▸ Or.inl rfl
  | abandoned same => exact same ▸ Or.inl rfl
  | unsubscribed id clientId cell saving free writes gone same => exact same ▸ Or.inr ⟨_, rfl⟩
  | wrote cell saving issued asked writes kept more same => exact same ▸ Or.inl rfl
  | took subscription pending now asked free working due same => exact same ▸ Or.inl rfl
  | permitted subscription pending timestamp held same => exact same ▸ Or.inl rfl
  | discarded cell saving delivery held unsent writes sublist same => exact same ▸ Or.inl rfl
  | posted subscription pending timestamp held same => exact same ▸ Or.inr ⟨_, rfl⟩
  | finished subscription pending status now saving asked held same => exact same ▸ Or.inl rfl
  | cancelled same => exact same ▸ Or.inl rfl
  | opened cell reopened same => exact same ▸ Or.inr ⟨_, rfl⟩

/-- What a step did that noted an event. -/
inductive Noted (env : Environment) (codec : Codec WatchState) (state next : System)
    (act : Act) : Event → Prop where
  | entered (call : SubscribeCall) (member : call ∈ state.waiting) :
      Noted env codec state next act (.entered call.target.id call.clientId call.secret)
  | challenged (call : SubscribeCall) (current : Option Subscription)
      (held : state.refreshing = some ⟨call, current, .unverified⟩) :
      Noted env codec state next act (.verifying call.target.id state.cell.degraded)
  | stored (call : SubscribeCall) (current : Option Subscription) (now : Nat) (saving : Saving)
      (held : state.refreshing = some ⟨call, current, .verified⟩)
      (done : (state.cell.commit (file codec)
        (call.stored current now state.cell.value) saving).2 = true)
      (same : next = { state with
        cell := (state.cell.commit (file codec)
          (call.stored current now state.cell.value) saving).1
        refreshing := none }.note (.stored call.target.id call.secret
          ((state.cell.value.subscription? call.target.id).map Subscription.secret) now)) :
      Noted env codec state next act (.stored call.target.id call.secret
        ((state.cell.value.subscription? call.target.id).map Subscription.secret) now)
  | unsubscribed (id clientId : String) (cell : Cell WatchState)
      (free : state.gateFree = true)
      (gone : ∀ subscription ∈ cell.value.subscriptions, subscription.id ≠ id)
      (same : next = { state with cell := cell }.note (.unsubscribed id clientId)) :
      Noted env codec state next act (.unsubscribed id clientId)
  | posted (subscription : Subscription) (pending : Pending) (timestamp : Nat)
      (held : state.delivering = some (.permitted subscription pending timestamp)) :
      Noted env codec state next act (.posted subscription.id pending.eventId
        (signers subscription.secret subscription.oldSecret subscription.oldSecretUntil
          timestamp) timestamp state.cell.degraded)
  | opened : Noted env codec state next act .opened

theorem step_noted {event : Event} (stepped : step env codec state act = some next)
    (noted : next.log = state.log ++ [event]) : Noted env codec state next act event := by
  have own {other : System} {appended : Event} (same : next = other)
      (log : other.log = state.log ++ [appended]) : appended = event := by
    rw [same, log] at noted
    exact (List.cons.inj (List.append_cancel_left noted)).1
  have silent (same : next.log = state.log) : Noted env codec state next act event :=
    absurd (List.self_eq_append_right.mp (same.symm.trans noted)) (List.cons_ne_nil _ _)
  cases step_effect stepped with
  | waits waiting known same => exact silent (same ▸ rfl)
  | entered index now permitted call refreshing asked found free fresh same =>
    obtain rfl := own same rfl
    exact .entered call (List.mem_of_getElem? found)
  | challenged call current challenge held same =>
    obtain rfl := own same rfl
    exact .challenged call current held
  | echoed call current challenge held same => exact silent (same ▸ rfl)
  | stored call current now saving asked held done same =>
    obtain rfl := own same rfl
    exact .stored call current now saving held done same
  | unstored call current now saving asked held failed same => exact silent (same ▸ rfl)
  | abandoned same => exact silent (same ▸ rfl)
  | unsubscribed id clientId cell saving free writes gone same =>
    obtain rfl := own same rfl
    exact .unsubscribed id clientId cell free gone same
  | wrote cell saving issued asked writes kept more same => exact silent (same ▸ rfl)
  | took subscription pending now asked free working due same => exact silent (same ▸ rfl)
  | permitted subscription pending timestamp held same => exact silent (same ▸ rfl)
  | discarded cell saving delivery held unsent writes sublist same => exact silent (same ▸ rfl)
  | posted subscription pending timestamp held same =>
    obtain rfl := own same rfl
    exact .posted subscription pending timestamp held
  | finished subscription pending status now saving asked held same =>
    exact silent (same ▸ rfl)
  | cancelled same => exact silent (same ▸ rfl)
  | opened cell reopened same =>
    obtain rfl := own same rfl
    exact .opened

end Plug.Watch
