import Plug.HttpSessions

/-!
# Steps of the HTTP sessions

What a step does to the store, the entries and the teardowns, and separately what the handlers go
on with. The proofs about runs only look at these two.
-/

namespace Plug.HttpSessions

open Sessions (Store)

variable {Id : Type} [DecidableEq Id] {settings : Sessions.Settings Id} {state next : State Id} {act : Act Id}
  {before after : Store Id}

/-- The same sessions are in the store. -/
structure Touched (before after : Store Id) : Prop where
  keys : ∀ id, id ∈ after.sessions ↔ id ∈ before.sessions
  marking : markingId after = markingId before
  issued : after.issued = before.issued

/-- One session is taken out of the store. -/
structure Removed (before after : Store Id) (id : Id) : Prop where
  keys : ∀ other, other ∈ after.sessions ↔ other ∈ before.sessions ∧ other ≠ id
  marking : markingId after = markingId before
  issued : after.issued = before.issued

variable {id : Id}

theorem touch_touched {now : Nat}
    (stepped : Sessions.step settings before (.touch id now) = some after) :
    Touched before after := by
  cases stepped
  unfold Store.update
  split
  · exact ⟨fun _ => AList.mem_replace, rfl, rfl⟩
  · exact ⟨fun _ => Iff.rfl, rfl, rfl⟩

theorem recordClosed_touched
    (stepped : Sessions.step settings before (.recordClosed id) = some after) :
    Touched before after := by
  simp only [Sessions.step] at stepped
  split at stepped
  · cases stepped
    exact ⟨fun _ => Iff.rfl, rfl, rfl⟩
  · cases stepped

theorem remove_removed (stepped : Sessions.step settings before (.remove id) = some after) :
    Removed before after id := by
  simp only [Sessions.step] at stepped
  split at stepped
  · cases stepped
    refine ⟨fun other => ?_, rfl, rfl⟩
    exact AList.mem_erase.trans and_comm
  · rename_i absent
    cases stepped
    refine ⟨fun other => ⟨fun present => ⟨present, ?_⟩, And.left⟩, rfl, rfl⟩
    rintro rfl
    exact absent present

/-- `reopen_session` puts the session into the store. -/
def Opens (before after : Store Id) (id : Id) : Prop :=
  markingId after = some id ∧ markingId before ≠ some id

theorem opened_iff (before after : Store Id) (id : Id) :
    (if markingId after = markingId before then none else markingId after) = some id ↔
      Opens before after id := by
  rw [Opens]
  split
  · rename_i same
    rw [same]
    simp
  · rename_i other
    constructor
    · intro opened
      exact ⟨opened, fun earlier => other (opened.trans earlier.symm)⟩
    · exact And.left

theorem mem_reopened {store : Store Id} :
    id ∈ (state.follow store).reopened ↔ id ∈ state.reopened ∨ Opens state.store store id := by
  rw [← opened_iff]
  simp only [State.follow, List.mem_append, Option.mem_toList]

/-- The handler that is asked to go on is about to carry out the operation. -/
def Performs (state : State Id) (act : Act Id) (id : Id) (op : Op) : Prop :=
  ∃ index rest, act = .perform index ∧ state.handlers[index]? = some ⟨id, op :: rest⟩

/-- What a step does apart from what its handlers go on with. -/
inductive Effect (settings : Sessions.Settings Id) (state next : State Id) (act : Act Id) : Prop
  | followed (store : Store Id) (former : Sessions.Act Id)
      (stepped : Sessions.step settings state.store former = some store)
      (same : next = state.follow store)
  | sent (id : Id) (unsent : id ∈ state.unsent)
      (same : next = { state with unsent := state.unsent.erase id, queue := state.queue ++ [id] })
  | received (id : Id) (rest : List Id) (first : state.queue = id :: rest)
      (same : next = { state with
        queue := rest
        teardowns := state.teardowns ++ [.start state.held id true] })
  | cleared (index : Nat) (teardown : Teardown Id) (key : Key)
      (found : state.teardowns[index]? = some teardown)
      (here : teardown.parts.head? = some key.part) (ahead : key ∉ teardown.visited)
      (same : next = { state with
        held := forget state.held teardown.id key
        teardowns := state.teardowns.set index { teardown with
          due := teardown.due.filter fun other => decide (other ≠ key)
          visited := key :: teardown.visited } })
  | finished (index : Nat) (teardown : Teardown Id)
      (found : state.teardowns[index]? = some teardown) (done : teardown.due = [])
      (last : teardown.parts.tail = [])
      (same : next = { state with teardowns := state.teardowns.eraseIdx index })
  | passed (index : Nat) (teardown : Teardown Id) (part : Part) (rest : List Part)
      (found : state.teardowns[index]? = some teardown) (done : teardown.due = [])
      (left : teardown.parts.tail = part :: rest)
      (same : next = { state with
        teardowns := state.teardowns.set index { teardown with
          parts := part :: rest
          due := dueKeys state.held teardown.id part
          visited := [] } })
  | deleted (id : Id) (store : Store Id) (removed : Removed state.store store id)
      (same : next = { state.withStore store with deleting := state.deleting ++ [id] })
  | recorded (id : Id) (store : Store Id) (pending : id ∈ state.deleting)
      (touched : Touched state.store store)
      (same : next = { state.withStore store with
        deleting := state.deleting.erase id
        teardowns := state.teardowns ++ [.start state.held id false] })
  /-- The store is touched and handlers go on. -/
  | touched (store : Store Id) (touched : Touched state.store store)
      (same : next = { state.withStore store with
        created := next.created
        handlers := next.handlers })
  /-- Only handlers go on. -/
  | quiet (same : next = { state with created := next.created, handlers := next.handlers })
  | established (id : Id) (item : Item) (puts : state.establishes act = some (id, item))
      (same : next = { state.establish id item with handlers := next.handlers })
  | released (id : Id) (key : Key) (op : Op) (performs : Performs state act id op)
      (releases : op = .release key ∨ op = .undo key)
      (same : next = { state.release id key with handlers := next.handlers })
  | dismissed (id : Id) (store : Store Id) (performs : Performs state act id .dismiss)
      (removed : Removed state.store store id)
      (same : next = { state.withStore store with handlers := next.handlers })

/-- A step that puts an entry does nothing else but let its handler go on. -/
theorem establish_step {item : Item} (puts : state.establishes act = some (id, item))
    (stepped : step settings state act = some next) :
    next = { state.establish id item with handlers := next.handlers } := by
  unfold State.establishes at puts
  split at puts
  · split at puts
    · rename_i index _ own op rest found
      obtain ⟨entry, stores, same⟩ := Option.map_eq_some_iff.mp puts
      cases same
      rw [step, perform, found] at stepped
      dsimp only at stepped
      rw [stores] at stepped
      cases stepped
      rfl
    · cases puts
  · cases puts

/-- A handler that is to put an entry puts it. -/
theorem establish_taken {item : Item} (settings : Sessions.Settings Id)
    (puts : state.establishes act = some (id, item)) :
    ∃ next, step settings state act = some next := by
  unfold State.establishes at puts
  split at puts
  · split at puts
    · rename_i index _ own op rest found
      obtain ⟨entry, stores, _⟩ := Option.map_eq_some_iff.mp puts
      refine ⟨(state.goOn index own rest).establish own entry, ?_⟩
      rw [step, perform, found]
      dsimp only
      rw [stores]
    · cases puts
  · cases puts

/-- The handler that puts an entry goes on with what is left. -/
theorem establish_goes_on {item : Item} (puts : state.establishes act = some (id, item))
    (stepped : step settings state act = some next) :
    ∃ index op rest, state.handlers[index]? = some ⟨id, op :: rest⟩ ∧ act = .perform index ∧
      op.item? state.held id = some item ∧ next.handlers = state.handlers.set index ⟨id, rest⟩ := by
  unfold State.establishes at puts
  split at puts
  · split at puts
    · rename_i index _ own op rest found
      obtain ⟨entry, stores, same⟩ := Option.map_eq_some_iff.mp puts
      cases same
      rw [step, perform, found] at stepped
      dsimp only at stepped
      rw [stores] at stepped
      cases stepped
      exact ⟨index, op, rest, found, rfl, stores, rfl⟩
    · cases puts
  · cases puts

theorem perform_effect {index : Nat} (stepped : perform settings state index = some next) :
    Effect settings state next (.perform index) := by
  unfold perform at stepped
  split at stepped
  · rename_i id op rest found
    have performs : Performs state (.perform index) id op := ⟨index, rest, rfl, found⟩
    split at stepped
    · rename_i item puts
      cases stepped
      refine .established id item ?_ rfl
      simp [State.establishes, found, puts]
    · split at stepped
      · rename_i key _
        cases stepped
        exact .released id key _ performs (Or.inl rfl) rfl
      · rename_i key _
        cases stepped
        exact .released id key _ performs (Or.inr rfl) rfl
      · split at stepped
        · cases stepped
          exact .quiet rfl
        · cases stepped
          exact .quiet rfl
      · cases stepped
        exact .quiet rfl
      · cases stepped
        exact .quiet rfl
      · obtain ⟨store, removed, rfl⟩ := Option.map_eq_some_iff.mp stepped
        exact .dismissed id store performs (remove_removed removed) rfl
      · obtain ⟨store, closed, rfl⟩ := Option.map_eq_some_iff.mp stepped
        exact .touched store (recordClosed_touched closed) rfl
      · cases stepped
  · cases stepped

theorem step_effect (stepped : step settings state act = some next) :
    Effect settings state next act := by
  unfold step at stepped
  split at stepped
  · cases stepped
  · cases stepped
  · obtain ⟨store, moved, rfl⟩ := Option.map_eq_some_iff.mp stepped
    exact .followed store _ moved rfl
  · split at stepped
    · rename_i unsent
      cases stepped
      exact .sent _ unsent rfl
    · cases stepped
  · split at stepped
    · rename_i id rest first
      split at stepped
      · cases stepped
      · cases stepped
        exact .received id rest first rfl
    · cases stepped
  · split at stepped
    · rename_i teardown found
      split at stepped
      · rename_i ready
        cases stepped
        exact .cleared _ teardown _ found ready.1 ready.2 rfl
      · cases stepped
    · cases stepped
  · split at stepped
    · rename_i teardown found
      split at stepped
      · rename_i done
        split at stepped
        · rename_i last
          cases stepped
          exact .finished _ teardown found done last rfl
        · rename_i part rest left
          cases stepped
          exact .passed _ teardown part rest found done left rfl
      · cases stepped
    · cases stepped
  · split at stepped
    · obtain ⟨store, removed, rfl⟩ := Option.map_eq_some_iff.mp stepped
      exact .deleted _ store (remove_removed removed) rfl
    · cases stepped
  · split at stepped
    · rename_i pending
      obtain ⟨store, closed, rfl⟩ := Option.map_eq_some_iff.mp stepped
      exact .recorded _ store pending (recordClosed_touched closed) rfl
    · cases stepped
  · split at stepped
    · obtain ⟨store, touched, rfl⟩ := Option.map_eq_some_iff.mp stepped
      exact .touched store (touch_touched touched) rfl
    · cases stepped
  · split at stepped
    · cases stepped
      exact .quiet rfl
    · cases stepped
  · split at stepped
    · split at stepped
      · cases stepped
        exact .quiet rfl
      · cases stepped
    · cases stepped
  · exact perform_effect stepped
  · split at stepped
    · cases stepped
      exact .quiet rfl
    · cases stepped

/-- It is no part of `reopen_lost_session`, and takes no bridge back. -/
def Op.ofRequest : Op → Bool
  | .bind | .wire | .dismiss | .recordDismissed => false
  | .release key | .undo key => key.part != .bridges
  | _ => true

/-- What the handlers go on with. -/
inductive Continues (state next : State Id) (act : Act Id) : Prop
  | same (handlers : next.handlers = state.handlers)
  | spawned (handler : Handler Id) (request : ∀ op ∈ handler.ops, op.ofRequest = true)
      (handlers : next.handlers = state.handlers ++ [handler])
  | answered (id : Id) (marking : markingId state.store = some id)
      (handlers : next.handlers = state.handlers ++ [⟨id, reopenLostSession⟩])
  | advanced (index : Nat) (id : Id) (op : Op) (rest ops : List Op) (extra : List (Handler Id))
      (asked : act = .perform index) (found : state.handlers[index]? = some ⟨id, op :: rest⟩)
      (request : ∀ handler ∈ extra, ∀ op ∈ handler.ops, op.ofRequest = true)
      (origin : ∀ later ∈ ops, later ∈ rest ∨ (later = .dismiss ∧ op = .bind) ∨
        later = .recordDismissed)
      (kept : ∀ later ∈ rest, later.lasting = true →
        later ∈ ops ∨ (op = .bind ∧ .dismiss ∈ ops))
      (handlers : next.handlers = state.handlers.set index ⟨id, ops⟩ ++ extra)
  | failed (index : Nat) (id : Id) (ops : List Op)
      (found : state.handlers[index]? = some ⟨id, ops⟩)
      (handlers : next.handlers = state.handlers.set index ⟨id, ops.filter Op.lasting⟩)

theorem request_ops (request : Request) : ∀ op ∈ request.ops, op.ofRequest = true := by
  cases request with
  | subscribe uri confirmed clientKey =>
    cases confirmed <;> cases clientKey <;> simp [Request.ops, Op.ofRequest, Key.part]
  | _ => simp [Request.ops, Op.ofRequest, Key.part]

theorem initialize_ops (capabilities : ClientCapabilities) :
    ∀ op ∈ initializeOps capabilities, op.ofRequest = true := by
  rw [initializeOps]
  split <;> simp [Op.ofRequest]

theorem sendHttpClientRequest_ops (number : Nat) :
    ∀ op ∈ sendHttpClientRequest number, op.ofRequest = true := by
  simp [sendHttpClientRequest, Op.ofRequest, Key.part]

omit [DecidableEq Id] in
/-- A handler that goes on with what is left. -/
theorem Continues.along {index : Nat} {op : Op} {rest : List Op}
    (found : state.handlers[index]? = some ⟨id, op :: rest⟩)
    (handlers : next.handlers = state.handlers.set index ⟨id, rest⟩) :
    Continues state next (.perform index) :=
  .advanced index id op rest rest [] rfl found nofun (fun _ member => Or.inl member)
    (fun _ member _ => Or.inl member) (handlers.trans (List.append_nil _).symm)

theorem perform_continues {index : Nat} (stepped : perform settings state index = some next) :
    Continues state next (.perform index) := by
  unfold perform at stepped
  split at stepped
  · rename_i id op rest found
    split at stepped
    · cases stepped
      exact .along found rfl
    · split at stepped
      · cases stepped
        exact .along found rfl
      · cases stepped
        exact .along found rfl
      · rename_i number answer _
        split at stepped
        · cases stepped
          refine .advanced index id _ rest rest _ rfl found ?_ (fun _ member => Or.inl member)
            (fun _ member _ => Or.inl member) rfl
          intro handler member op inOps
          obtain rfl := List.mem_singleton.mp member
          rcases List.mem_append.mp inOps with sent | stored
          · exact sendHttpClientRequest_ops number op sent
          · obtain ⟨roots, _, rfl⟩ := Option.map_eq_some_iff.mp (Option.mem_toList.mp stored)
            rfl
        · cases stepped
          exact .along found rfl
      · cases stepped
        refine .advanced index id _ rest _ [] rfl found nofun ?_ ?_ (List.append_nil _).symm
        · intro later member
          split at member
          · exact Or.inl member
          · exact Or.inl (List.mem_filter.mp member).1
        · intro later member lasting
          left
          split
          · exact member
          · exact List.mem_filter.mpr ⟨member, lasting⟩
      · cases stepped
        refine .advanced index id _ rest _ [] rfl found nofun ?_ ?_ (List.append_nil _).symm
        · intro later member
          split at member
          · exact Or.inl member
          · exact Or.inr (Or.inl ⟨List.mem_singleton.mp member, rfl⟩)
        · intro later member _
          split
          · exact Or.inl member
          · exact Or.inr ⟨rfl, List.mem_singleton_self _⟩
      · obtain ⟨store, removed, rfl⟩ := Option.map_eq_some_iff.mp stepped
        refine .advanced index id _ rest _ [] rfl found nofun ?_ ?_ (List.append_nil _).symm
        · intro later member
          split at member
          · rcases List.mem_cons.mp member with rfl | left
            · exact Or.inr (Or.inr rfl)
            · exact Or.inl left
          · exact Or.inl member
        · intro later member _
          left
          split
          · exact List.mem_cons_of_mem _ member
          · exact member
      · obtain ⟨store, closed, rfl⟩ := Option.map_eq_some_iff.mp stepped
        exact .along found rfl
      · cases stepped
  · cases stepped

theorem follow_continues (store : Store Id) : Continues state (state.follow store) act := by
  by_cases still : markingId store = markingId state.store
  · exact .same (by simp [State.follow, still])
  · cases marking : markingId state.store with
    | none => exact .same (by simp [State.follow, marking])
    | some id =>
      rw [marking] at still
      exact .answered id marking (by simp [State.follow, still, marking])

theorem step_continues (stepped : step settings state act = some next) :
    Continues state next act := by
  unfold step at stepped
  split at stepped
  · cases stepped
  · cases stepped
  · obtain ⟨store, moved, rfl⟩ := Option.map_eq_some_iff.mp stepped
    exact follow_continues store
  · split at stepped
    · cases stepped
      exact .same rfl
    · cases stepped
  · split at stepped
    · split at stepped
      · cases stepped
      · cases stepped
        exact .same rfl
    · cases stepped
  · split at stepped
    · split at stepped
      · cases stepped
        exact .same rfl
      · cases stepped
    · cases stepped
  · split at stepped
    · split at stepped
      · split at stepped
        · cases stepped
          exact .same rfl
        · cases stepped
          exact .same rfl
      · cases stepped
    · cases stepped
  · split at stepped
    · obtain ⟨store, removed, rfl⟩ := Option.map_eq_some_iff.mp stepped
      exact .same rfl
    · cases stepped
  · split at stepped
    · obtain ⟨store, closed, rfl⟩ := Option.map_eq_some_iff.mp stepped
      exact .same rfl
    · cases stepped
  · split at stepped
    · obtain ⟨store, touched, rfl⟩ := Option.map_eq_some_iff.mp stepped
      exact .spawned _ (request_ops _) rfl
    · cases stepped
  · split at stepped
    · cases stepped
      exact .spawned _ (initialize_ops _) rfl
    · cases stepped
  · split at stepped
    · split at stepped
      · cases stepped
        exact .spawned _ (sendHttpClientRequest_ops _) rfl
      · cases stepped
    · cases stepped
  · exact perform_continues stepped
  · split at stepped
    · rename_i id ops found
      cases stepped
      exact .failed _ id ops found rfl
    · cases stepped

omit [DecidableEq Id] in
/-- Where an operation of a handler comes from. -/
theorem op_origin (continues : Continues state next act) {handler : Handler Id}
    (member : handler ∈ next.handlers) {op : Op} (inOps : op ∈ handler.ops) :
    (∃ former ∈ state.handlers, former.id = handler.id ∧ op ∈ former.ops) ∨
      (op ∈ reopenLostSession ∧ markingId state.store = some handler.id) ∨
      (op = .dismiss ∧ ∃ former ∈ state.handlers, former.id = handler.id ∧ .bind ∈ former.ops) ∨
      op = .recordDismissed ∨ op.ofRequest = true := by
  cases continues with
  | same handlers => exact Or.inl ⟨handler, handlers ▸ member, rfl, inOps⟩
  | spawned fresh request handlers =>
    rw [handlers, List.mem_append, List.mem_singleton] at member
    rcases member with former | rfl
    · exact Or.inl ⟨handler, former, rfl, inOps⟩
    · exact Or.inr (Or.inr (Or.inr (Or.inr (request op inOps))))
  | answered id marking handlers =>
    rw [handlers, List.mem_append, List.mem_singleton] at member
    rcases member with former | rfl
    · exact Or.inl ⟨handler, former, rfl, inOps⟩
    · exact Or.inr (Or.inl ⟨inOps, marking⟩)
  | advanced index id head rest ops extra asked found request origin kept handlers =>
    rw [handlers, List.mem_append] at member
    have before := List.mem_of_getElem? found
    rcases member with changed | fresh
    · rcases List.mem_or_eq_of_mem_set changed with former | rfl
      · exact Or.inl ⟨handler, former, rfl, inOps⟩
      · rcases origin op inOps with left | ⟨rfl, rfl⟩ | rfl
        · exact Or.inl ⟨_, before, rfl, List.mem_cons_of_mem _ left⟩
        · exact Or.inr (Or.inr (Or.inl ⟨rfl, _, before, rfl, List.mem_cons_self⟩))
        · exact Or.inr (Or.inr (Or.inr (Or.inl rfl)))
    · exact Or.inr (Or.inr (Or.inr (Or.inr (request handler fresh op inOps))))
  | failed index id ops found handlers =>
    rw [handlers] at member
    rcases List.mem_or_eq_of_mem_set member with former | rfl
    · exact Or.inl ⟨handler, former, rfl, inOps⟩
    · exact Or.inl ⟨_, List.mem_of_getElem? found, rfl, (List.mem_filter.mp inOps).1⟩

omit [DecidableEq Id] in
/-- A lasting operation stays until it is carried out, unless the session could not be bound. -/
theorem lasting_kept (continues : Continues state next act) {handler : Handler Id}
    (member : handler ∈ state.handlers) {op : Op} (inOps : op ∈ handler.ops)
    (lasting : op.lasting = true) :
    (∃ later ∈ next.handlers, later.id = handler.id ∧ op ∈ later.ops) ∨
      Performs state act handler.id op ∨
      (.bind ∈ handler.ops ∧
        ∃ later ∈ next.handlers, later.id = handler.id ∧ .dismiss ∈ later.ops) := by
  obtain ⟨place, present⟩ := List.getElem?_of_mem member
  cases continues with
  | same handlers => exact Or.inl ⟨handler, handlers ▸ member, rfl, inOps⟩
  | spawned fresh request handlers =>
    exact Or.inl ⟨handler, handlers ▸ List.mem_append_left _ member, rfl, inOps⟩
  | answered id marking handlers =>
    exact Or.inl ⟨handler, handlers ▸ List.mem_append_left _ member, rfl, inOps⟩
  | advanced index id head rest ops extra asked found request origin kept handlers =>
    have changed := Runs.getElem?_set_found found (Handler.mk id ops)
    by_cases here : place = index
    · subst here
      rw [found] at present
      cases present
      have there : Handler.mk id ops ∈ next.handlers := by
        rw [handlers]
        exact List.mem_append_left _ (List.mem_of_getElem? ((changed place).trans (if_pos rfl)))
      rcases List.mem_cons.mp inOps with rfl | left
      · exact Or.inr (Or.inl ⟨place, rest, asked, found⟩)
      · rcases kept op left lasting with stays | ⟨rfl, unbound⟩
        · exact Or.inl ⟨_, there, rfl, stays⟩
        · exact Or.inr (Or.inr ⟨List.mem_cons_self, _, there, rfl, unbound⟩)
    · have stays := (changed place).trans (if_neg here)
      rw [present] at stays
      refine Or.inl ⟨handler, ?_, rfl, inOps⟩
      rw [handlers]
      exact List.mem_append_left _ (List.mem_of_getElem? stays)
  | failed index id ops found handlers =>
    have changed := Runs.getElem?_set_found found (Handler.mk id (ops.filter Op.lasting))
    by_cases here : place = index
    · subst here
      rw [found] at present
      cases present
      have there : Handler.mk id (ops.filter Op.lasting) ∈ next.handlers := by
        rw [handlers]
        exact List.mem_of_getElem? ((changed place).trans (if_pos rfl))
      exact Or.inl ⟨_, there, rfl, List.mem_filter.mpr ⟨inOps, lasting⟩⟩
    · have stays := (changed place).trans (if_neg here)
      rw [present] at stays
      exact Or.inl ⟨handler, handlers ▸ List.mem_of_getElem? stays, rfl, inOps⟩

end Plug.HttpSessions
