import Plug.Attempts
import Plug.WatchSteps

/-!
# What every state of the watch events keeps

The values that a step may write, and the jobs in the queue. A property of all values written
holds of the value in memory and of the file, also after the component was opened again.
-/

namespace Plug.Watch

open JsonValues Events Durable

variable {env : Environment} {codec : Codec WatchState} {state next : System} {act : Act}

/-! ### What is written -/

/-- The values that a step may write. -/
inductive Written (env : Environment) (state : System) (act : Act) : WatchState → Prop where
  | written (value : WatchState) (write : Write env state act value) :
      Written env state act value
  | stored (call : SubscribeCall) (current : Option Subscription) (now : Nat)
      (asked : ∃ saving, act = .store now saving)
      (held : state.refreshing = some ⟨call, current, .verified⟩) :
      Written env state act (call.stored current now state.cell.value)
  | answered (subscription : Subscription) (pending : Pending) (status : Option Nat) (now : Nat)
      (held : state.delivering = some (.posting subscription pending)) :
      Written env state act (state.cell.value.answered subscription pending status now)

/-- How a step changes the cell: not, by a write, or by opening again. -/
theorem step_cell (stepped : step env codec state act = some next) :
    next.cell = state.cell ∨
    (∃ value saving, Written env state act value ∧
      next.cell = (state.cell.commit (file codec) value saving).1) ∨
    state.cell.reopen (file codec) .default = some next.cell := by
  have wrote {cell : Cell WatchState} {saving : Saving}
      (writes : Writes env codec state act saving cell) :
      cell = state.cell ∨ ∃ value saving, Written env state act value ∧
        cell = (state.cell.commit (file codec) value saving).1 :=
    writes.imp_right fun ⟨value, write, same⟩ => ⟨value, saving, .written value write, same⟩
  cases step_effect stepped with
  | waits waiting known same => exact same ▸ Or.inl rfl
  | entered index now permitted call refreshing asked found free fresh same => exact same ▸ Or.inl rfl
  | challenged call current challenge held same => exact same ▸ Or.inl rfl
  | echoed call current challenge held same => exact same ▸ Or.inl rfl
  | stored call current now saving asked held done same =>
    subst same
    exact Or.inr (Or.inl ⟨_, saving, .stored call current now ⟨saving, asked⟩ held, rfl⟩)
  | unstored call current now saving asked held failed same =>
    subst same
    exact Or.inr (Or.inl ⟨_, saving, .stored call current now ⟨saving, asked⟩ held, rfl⟩)
  | abandoned same => exact same ▸ Or.inl rfl
  | unsubscribed id clientId cell saving free writes gone same =>
    subst same
    exact (wrote writes).imp_right Or.inl
  | wrote cell saving issued asked writes kept more same =>
    subst same
    exact (wrote writes).imp_right Or.inl
  | took subscription pending now asked free working due same => exact same ▸ Or.inl rfl
  | permitted subscription pending timestamp held same => exact same ▸ Or.inl rfl
  | discarded cell saving delivery held unsent writes sublist same =>
    subst same
    exact (wrote writes).imp_right Or.inl
  | posted subscription pending timestamp held same => exact same ▸ Or.inl rfl
  | finished subscription pending status now saving asked held same =>
    subst same
    exact Or.inr (Or.inl ⟨_, saving, .answered subscription pending status now held, rfl⟩)
  | cancelled same => exact same ▸ Or.inl rfl
  | opened cell reopened same => exact same ▸ Or.inr (Or.inr reopened)

/-- What all values written have in common is kept. -/
theorem step_kept {good better : WatchState → Prop} (faithful : codec.Faithful)
    (initially : better .default) (kept : Kept (file codec) good state.cell)
    (implies : ∀ value, good value → better value)
    (writes : ∀ value, Written env state act value → better value)
    (stepped : step env codec state act = some next) : Kept (file codec) better next.cell := by
  have still : Kept (file codec) better state.cell := kept.mono implies
  rcases step_cell stepped with same | ⟨value, saving, written, same⟩ | reopened
  · rw [same]
    exact still
  · rw [same]
    exact still.commit (writes value written) saving
  · exact still.reopen initially faithful.reads reopened

/-! ### Limits -/

structure Limits (value : WatchState) : Prop where
  version : value.version = 1
  queue : value.queue.length ≤ maxQueue
  subscriptions : value.subscriptions.length ≤ maxSubscriptions

/-- What is queued for the subscribers of an event: as long as there is room. -/
theorem enqueue_queue (pending : String → Pending) (ids : List String) (value : WatchState) :
    ∃ taken, List.Sublist taken ids ∧
      value.enqueue pending ids = { value with queue := value.queue ++ taken.map pending } ∧
      (value.queue.length ≤ maxQueue → (value.queue ++ taken.map pending).length ≤ maxQueue) := by
  induction ids generalizing value with
  | nil => exact ⟨[], List.Sublist.refl _, by simp [WatchState.enqueue], by simp⟩
  | cons id rest ih =>
    rw [WatchState.enqueue]
    split
    · exact ⟨[], List.nil_sublist _, by simp, by simp⟩
    · rename_i room
      obtain ⟨taken, sublist, same, bounded⟩ :=
        ih { value with queue := value.queue ++ [pending id] }
      refine ⟨id :: taken, sublist.cons_cons id, ?_, ?_⟩
      · rw [same]
        simp
      · intro _
        have more : (value.queue ++ [pending id]).length ≤ maxQueue := by
          rw [List.length_append]
          exact Nat.lt_of_not_le room
        simpa using bounded more

/-- There are fewer than the limit of other subscriptions in the state, expired ones included,
when one is stored. -/
def hasRoom (state : System) : Act → Bool
  | .store _ _ =>
    match state.refreshing with
    | some held => decide ((state.cell.value.subscriptions.filter fun subscription =>
        decide (subscription.id ≠ held.call.target.id)).length < maxSubscriptions)
    | none => true
  | _ => true

abbrev Room (state : System) (act : Act) : Prop := hasRoom state act = true

theorem Limits.initial : Limits .default :=
  ⟨rfl, Nat.zero_le _, Nat.zero_le _⟩

theorem Limits.fewer {value other : WatchState} (limits : Limits value)
    (version : other.version = value.version)
    (queue : other.queue.length ≤ value.queue.length)
    (subscriptions : List.Sublist other.subscriptions value.subscriptions) : Limits other :=
  ⟨version.trans limits.version, Nat.le_trans queue limits.queue,
    Nat.le_trans subscriptions.length_le limits.subscriptions⟩

theorem Limits.observed {value : WatchState} (limits : Limits value)
    (event eventId hash : String) (body : List UInt8) (timestamp : Nat) :
    Limits (value.observed event eventId hash body timestamp) := by
  unfold WatchState.observed
  dsimp only
  split
  · obtain ⟨taken, _, same, bounded⟩ := enqueue_queue
      (fun id => ⟨id, eventId, body, 0, timestamp⟩)
      ((value.subscriptions.filter fun subscription =>
        decide (subscription.event = event ∧ timestamp < subscription.expires)).map
        Subscription.id)
      { value with baselines := Tables.insert value.baselines event hash }
    rw [same]
    exact ⟨limits.version, bounded limits.queue, limits.subscriptions⟩
  · exact ⟨limits.version, limits.queue, limits.subscriptions⟩

theorem answered_version (value : WatchState) (subscription : Subscription)
    (pending : Pending) (status : Option Nat) (now : Nat) :
    (value.answered subscription pending status now).version = value.version := by
  unfold WatchState.answered
  split
  · dsimp only
    split <;> rfl
  · rfl

theorem answered_queue_length (value : WatchState) (subscription : Subscription)
    (pending : Pending) (status : Option Nat) (now : Nat) :
    (value.answered subscription pending status now).queue.length ≤ value.queue.length := by
  unfold WatchState.answered
  split
  · dsimp only
    split
    · exact (List.filter_sublist.trans List.filter_sublist).length_le
    · exact List.length_filter_le _ _
  · rw [Queues.length_modifyFirst]

theorem Limits.written (limits : Limits state.cell.value) (room : Room state act)
    {value : WatchState} (written : Written env state act value) : Limits value := by
  cases written with
  | written value write =>
    cases write with
    | forgotten id => exact limits.fewer rfl (List.length_filter_le _ _) List.filter_sublist
    | observed event eventId hash body timestamp asked fresh small =>
      exact limits.observed event eventId hash body timestamp
    | pruned watches timestamp =>
      exact limits.fewer rfl (List.length_filter_le _ _) List.filter_sublist
  | stored call current now asked held =>
    obtain ⟨saving, asked⟩ := asked
    refine ⟨limits.version, ?_, ?_⟩
    · unfold SubscribeCall.stored
      dsimp only
      split
      · exact limits.queue
      · exact Nat.le_trans (List.length_filter_le _ _) limits.queue
    · rw [SubscribeCall.stored, List.length_append]
      subst asked
      rw [Room, hasRoom, held] at room
      exact of_decide_eq_true room
  | answered subscription pending status now held =>
    exact limits.fewer (answered_version _ _ _ _ _) (answered_queue_length _ _ _ _ _)
      (answered_subscriptions _ _ _ _ _)

end Plug.Watch
