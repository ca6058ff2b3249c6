import Plug.HttpSessionSteps

/-!
# What is left of a session

Handlers look the session up first and put entries for it later. What they put is accounted for if
the session is still in the store, if a teardown of it has still to reach the entry, or if the
handler takes it back itself. If every entry is put so, nothing is left under a session's id once
it is gone and all handlers and teardowns are through.
-/

namespace Plug.HttpSessions

open Sessions (Store)

variable {Id : Type}

/-- The teardown reaches the key in any case. -/
def Teardown.MustReach (teardown : Teardown Id) (key : Key) : Prop :=
  key.part ∈ teardown.parts.tail ∨ key ∈ teardown.due

/-- A teardown of the id, under way or to come, clears the entry with the key if it is there. -/
def State.MustClear (state : State Id) (id : Id) (key : Key) : Prop :=
  state.Reported id ∨ ∃ teardown ∈ state.teardowns, teardown.id = id ∧ teardown.MustReach key

/-- A handler of the session is to take the entry with the key back. -/
def State.Undoes (state : State Id) (id : Id) (key : Key) : Prop :=
  ∃ handler ∈ state.handlers, handler.id = id ∧ .undo key ∈ handler.ops

/-- The session is there, or the entry with the key goes in any case. -/
def State.Accounts (state : State Id) (id : Id) (key : Key) : Prop :=
  id ∈ state.store.sessions ∨ state.MustClear id key ∨ state.Undoes id key

/-- What is put for a session that was never opened again is accounted for. -/
def Timely [DecidableEq Id] (state : State Id) (act : Act Id) : Prop :=
  ∀ id item, state.establishes act = some (id, item) → id ∉ state.reopened →
    state.Accounts id item.key

/-- What is held for a session that was never opened again is accounted for. -/
def Accounted (state : State Id) : Prop :=
  ∀ id item, (id, item) ∈ state.held → id ∉ state.reopened → state.Accounts id item.key

/-- Only sessions that are opened again are bound after their opening, or taken out by the handler
that has opened them. -/
structure Ordered (state : State Id) : Prop where
  marking : ∀ id, markingId state.store = some id → id ∈ state.reopened
  binding : ∀ handler ∈ state.handlers, .bind ∈ handler.ops ∨ .dismiss ∈ handler.ops →
    handler.id ∈ state.reopened

variable {state next : State Id}

theorem ordered_new : Ordered (State.new : State Id) where
  marking _ held := by cases held
  binding _ member := absurd member List.not_mem_nil

variable [DecidableEq Id] {settings : Sessions.Settings Id} {act : Act Id}

variable {id : Id} {item : Item}

theorem reopened_mono (effect : Effect settings state next act) (again : id ∈ state.reopened) :
    id ∈ next.reopened := by
  cases effect with
  | followed store former stepped same =>
    rw [same]
    exact mem_reopened.mpr (Or.inl again)
  | sent _ _ same | received _ _ _ same | cleared _ _ _ _ _ _ same | finished _ _ _ _ _ same
  | passed _ _ _ _ _ _ _ same | deleted _ _ _ same | recorded _ _ _ _ same | touched _ _ same
  | quiet same | established _ _ _ same | released _ _ _ _ _ same | dismissed _ _ _ _ same =>
    rw [same]
    exact again

theorem step_ordered (ordered : Ordered state) (stepped : step settings state act = some next) :
    Ordered next := by
  have effect := step_effect stepped
  constructor
  · intro id held
    cases effect with
    | followed store former moved same =>
      rw [same] at held ⊢
      rw [mem_reopened]
      by_cases earlier : markingId state.store = some id
      · exact Or.inl (ordered.marking id earlier)
      · exact Or.inr ⟨held, earlier⟩
    | deleted _ store removed same | dismissed _ store _ removed same =>
      rw [same] at held ⊢
      exact ordered.marking id (removed.marking ▸ held)
    | recorded _ store _ touched same | touched store touched same =>
      rw [same] at held ⊢
      exact ordered.marking id (touched.marking ▸ held)
    | sent _ _ same | received _ _ _ same | cleared _ _ _ _ _ _ same | finished _ _ _ _ _ same
    | passed _ _ _ _ _ _ _ same | quiet same | established _ _ _ same
    | released _ _ _ _ _ same =>
      rw [same] at held ⊢
      exact ordered.marking id held
  · intro handler member binds
    have known (former : Handler Id) (before : former ∈ state.handlers)
        (own : former.id = handler.id) (binds : .bind ∈ former.ops ∨ .dismiss ∈ former.ops) :
        handler.id ∈ next.reopened :=
      reopened_mono effect (own ▸ ordered.binding former before binds)
    have continues := step_continues stepped
    rcases binds with inOps | inOps
    · rcases op_origin continues member inOps with ⟨former, before, own, earlier⟩ |
        ⟨_, marking⟩ | ⟨other, _⟩ | other | request
      · exact known former before own (Or.inl earlier)
      · exact reopened_mono effect (ordered.marking _ marking)
      · cases other
      · cases other
      · cases request
    · rcases op_origin continues member inOps with ⟨former, before, own, earlier⟩ |
        ⟨_, marking⟩ | ⟨_, former, before, own, bound⟩ | other | request
      · exact known former before own (Or.inr earlier)
      · exact reopened_mono effect (ordered.marking _ marking)
      · exact known former before own (Or.inl bound)
      · cases other
      · cases request

/-! ### What a step accounts for -/

theorem teardown_start (held : List (Id × Item)) (listener : Bool) (there : (id, item) ∈ held) :
    (Teardown.start held id listener).MustReach item.key := by
  have due := key_due there
  cases item with
  | subscription uri => exact Or.inr due
  | _ => exact Or.inl (by simp [Teardown.start, teardownParts, Item.key, Key.part])

/-- What is held was held before, or is put in this step. -/
theorem held_before (effect : Effect settings state next act) (there : (id, item) ∈ next.held) :
    (id, item) ∈ state.held ∨ state.establishes act = some (id, item) := by
  cases effect with
  | cleared _ _ _ _ _ _ same | released _ _ _ _ _ same =>
    rw [same] at there
    exact Or.inl (mem_forget.mp there).1
  | established own entry puts same =>
    rw [same] at there
    rcases mem_insert.mp there with ⟨rfl, rfl⟩ | ⟨before, _⟩
    · exact Or.inr puts
    · exact Or.inl before
  | followed _ _ _ same | sent _ _ same | received _ _ _ same | finished _ _ _ _ _ same
  | passed _ _ _ _ _ _ _ same | deleted _ _ _ same | recorded _ _ _ _ same | touched _ _ same
  | quiet same | dismissed _ _ _ _ same =>
    rw [same] at there
    exact Or.inl there

/-- A session that leaves the store is to be torn down, unless it was opened again. -/
theorem live_accounted (ordered : Ordered state) (effect : Effect settings state next act)
    (present : id ∈ state.store.sessions) (never : id ∉ state.reopened) :
    id ∈ next.store.sessions ∨ next.Reported id := by
  cases effect with
  | followed store former stepped same =>
    rw [same]
    by_cases stays : id ∈ store.sessions
    · exact Or.inl stays
    · refine Or.inr (Or.inl (List.mem_append_right _ (List.mem_filter.mpr ⟨?_, ?_⟩)))
      · exact AList.mem_keys.mp present
      · exact decide_eq_true stays
  | deleted gone store removed same =>
    rw [same]
    by_cases own : id = gone
    · exact Or.inr (Or.inr (Or.inr (List.mem_append_right _ (List.mem_singleton.mpr own))))
    · exact Or.inl ((removed.keys id).mpr ⟨present, own⟩)
  | dismissed gone store performs removed same =>
    rw [same]
    refine Or.inl ((removed.keys id).mpr ⟨present, ?_⟩)
    rintro rfl
    obtain ⟨index, rest, _, found⟩ := performs
    exact never (ordered.binding _ (List.mem_of_getElem? found) (Or.inr List.mem_cons_self))
  | recorded _ store _ touched same | touched store touched same =>
    rw [same]
    exact Or.inl ((touched.keys id).mpr present)
  | sent _ _ same | received _ _ _ same | cleared _ _ _ _ _ _ same | finished _ _ _ _ _ same
  | passed _ _ _ _ _ _ _ same | quiet same | established _ _ _ same | released _ _ _ _ _ same =>
    rw [same]
    exact Or.inl present

/-- A teardown that is to come comes, and begins with all that is held. -/
theorem reported_cleared (effect : Effect settings state next act) (there : (id, item) ∈ state.held)
    (reported : state.Reported id) : next.MustClear id item.key := by
  cases effect with
  | followed store former stepped same =>
    rw [same]
    rcases reported with unsent | others
    · exact Or.inl (Or.inl (List.mem_append_left _ unsent))
    · exact Or.inl (Or.inr others)
  | sent first unsent same =>
    rw [same]
    rcases reported with waiting | queued | deleting
    · by_cases own : id = first
      · exact Or.inl (Or.inr (Or.inl (List.mem_append_right _ (List.mem_singleton.mpr own))))
      · exact Or.inl (Or.inl ((List.mem_erase_of_ne own).mpr waiting))
    · exact Or.inl (Or.inr (Or.inl (List.mem_append_left _ queued)))
    · exact Or.inl (Or.inr (Or.inr deleting))
  | received own rest first same =>
    rw [same]
    rcases reported with unsent | queued | deleting
    · exact Or.inl (Or.inl unsent)
    · rw [first] at queued
      rcases List.mem_cons.mp queued with rfl | later
      · exact Or.inr ⟨_, List.mem_append_right _ List.mem_cons_self, rfl,
          teardown_start state.held true there⟩
      · exact Or.inl (Or.inr (Or.inl later))
    · exact Or.inl (Or.inr (Or.inr deleting))
  | deleted _ _ _ same =>
    rw [same]
    rcases reported with unsent | queued | deleting
    · exact Or.inl (Or.inl unsent)
    · exact Or.inl (Or.inr (Or.inl queued))
    · exact Or.inl (Or.inr (Or.inr (List.mem_append_left _ deleting)))
  | recorded own store pending _ same =>
    rw [same]
    rcases reported with unsent | queued | deleting
    · exact Or.inl (Or.inl unsent)
    · exact Or.inl (Or.inr (Or.inl queued))
    · by_cases other : id = own
      · subst other
        exact Or.inr ⟨_, List.mem_append_right _ List.mem_cons_self, rfl,
          teardown_start state.held false there⟩
      · exact Or.inl (Or.inr (Or.inr ((List.mem_erase_of_ne other).mpr deleting)))
  | cleared _ _ _ _ _ _ same | finished _ _ _ _ _ same | passed _ _ _ _ _ _ _ same
  | touched _ _ same | quiet same | established _ _ _ same | released _ _ _ _ _ same
  | dismissed _ _ _ _ same =>
    rw [same]
    exact Or.inl reported

/-- A teardown under way comes to what it must reach before it is done with it. -/
theorem teardown_cleared (effect : Effect settings state next act) (there : (id, item) ∈ state.held)
    (stays : (id, item) ∈ next.held) {teardown : Teardown Id} (member : teardown ∈ state.teardowns)
    (own : teardown.id = id) (must : teardown.MustReach item.key) : next.MustClear id item.key := by
  obtain ⟨place, present⟩ := List.getElem?_of_mem member
  have still (other : Teardown Id) (later : other ∈ next.teardowns) (same : other.id = id)
      (reach : other.MustReach item.key) : next.MustClear id item.key :=
    Or.inr ⟨other, later, same, reach⟩
  cases effect with
  | cleared index changed key found here ahead same =>
    rw [same] at stays ⊢
    have set := Runs.getElem?_set_found found { changed with
      due := changed.due.filter fun other => decide (other ≠ key)
      visited := key :: changed.visited }
    by_cases at_index : place = index
    · subst at_index
      rw [found] at present
      cases present
      refine Or.inr ⟨_, List.mem_of_getElem? ((set place).trans (if_pos rfl)), own, ?_⟩
      rcases must with later | due
      · exact Or.inl later
      · refine Or.inr (List.mem_filter.mpr ⟨due, decide_eq_true ?_⟩)
        intro cleared
        exact (mem_forget.mp stays).2 ⟨own.symm, cleared⟩
    · refine Or.inr ⟨teardown, ?_, own, must⟩
      exact List.mem_of_getElem? (((set place).trans (if_neg at_index)).trans present)
  | finished index ended found done last same =>
    rw [same]
    refine Or.inr ⟨teardown, ?_, own, must⟩
    rcases (Runs.mem_iff_eraseIdx found teardown).mp member with rfl | other
    · rw [Teardown.MustReach, done, last] at must
      rcases must with later | due
      · exact absurd later List.not_mem_nil
      · exact absurd due List.not_mem_nil
    · exact other
  | passed index changed part rest found done left same =>
    rw [same]
    have set := Runs.getElem?_set_found found { changed with
      parts := part :: rest
      due := dueKeys state.held changed.id part
      visited := [] }
    by_cases at_index : place = index
    · subst at_index
      rw [found] at present
      cases present
      refine Or.inr ⟨_, List.mem_of_getElem? ((set place).trans (if_pos rfl)), own, ?_⟩
      rw [Teardown.MustReach, done, left] at must
      rcases must with later | due
      · rcases List.mem_cons.mp later with rfl | beyond
        · right
          rw [← own] at there
          exact key_due there
        · exact Or.inl beyond
      · exact absurd due List.not_mem_nil
    · refine Or.inr ⟨teardown, ?_, own, must⟩
      exact List.mem_of_getElem? (((set place).trans (if_neg at_index)).trans present)
  | received _ _ _ same | recorded _ _ _ _ same =>
    exact still teardown (by rw [same]; exact List.mem_append_left _ member) own must
  | followed _ _ _ same | sent _ _ same | deleted _ _ _ same | touched _ _ same | quiet same
  | established _ _ _ same | released _ _ _ _ _ same | dismissed _ _ _ _ same =>
    exact still teardown (by rw [same]; exact member) own must

/-- A handler that takes an entry back has it released. -/
theorem undo_step (stepped : step settings state act = some next) {key : Key}
    (performs : Performs state act id (.undo key)) (same : item.key = key) :
    (id, item) ∉ next.held := by
  obtain ⟨index, rest, rfl, found⟩ := performs
  simp only [step, perform, found, Op.item?] at stepped
  cases stepped
  intro there
  exact (mem_forget.mp there).2 ⟨rfl, same⟩

/-- What is held and accounted for stays so. -/
theorem accounts_kept (ordered : Ordered state) (stepped : step settings state act = some next)
    (there : (id, item) ∈ state.held) (stays : (id, item) ∈ next.held) (never : id ∉ state.reopened)
    (accounts : state.Accounts id item.key) : next.Accounts id item.key := by
  have effect := step_effect stepped
  rcases accounts with present | (reported | ⟨teardown, member, own, must⟩) |
    ⟨handler, member, rfl, undoes⟩
  · rcases live_accounted ordered effect present never with live | reported
    · exact Or.inl live
    · exact Or.inr (Or.inl (Or.inl reported))
  · exact Or.inr (Or.inl (reported_cleared effect there reported))
  · exact Or.inr (Or.inl (teardown_cleared effect there stays member own must))
  · rcases lasting_kept (step_continues stepped) member undoes rfl with later | performs | ⟨bound, _⟩
    · exact Or.inr (Or.inr later)
    · exact absurd stays (undo_step stepped performs rfl)
    · exact absurd (ordered.binding handler member (Or.inl bound)) never

/-- What is put is accounted for after the step exactly if it was before. -/
theorem accounts_put (ordered : Ordered state) (stepped : step settings state act = some next)
    (puts : state.establishes act = some (id, item)) (never : id ∉ state.reopened) :
    state.Accounts id item.key ↔ next.Accounts id item.key := by
  obtain ⟨index, op, rest, found, rfl, stores, handlers⟩ := establish_goes_on puts stepped
  have same := establish_step puts stepped
  have clears : state.MustClear id item.key ↔ next.MustClear id item.key := by
    rw [same]
    rfl
  have lives : id ∈ state.store.sessions ↔ id ∈ next.store.sessions := by
    rw [same]
    rfl
  refine or_congr lives (or_congr clears ⟨?_, ?_⟩)
  · rintro ⟨handler, member, rfl, undoes⟩
    rcases lasting_kept (step_continues stepped) member undoes rfl with later |
      ⟨_, _, asked, head⟩ | ⟨bound, _⟩
    · exact later
    · cases asked
      rw [found] at head
      obtain ⟨rfl, _⟩ := List.cons.inj (Handler.mk.inj (Option.some.inj head)).2
      cases stores
    · exact absurd (ordered.binding handler member (Or.inl bound)) never
  · rintro ⟨handler, member, own, undoes⟩
    rw [handlers] at member
    rcases List.mem_or_eq_of_mem_set member with former | rfl
    · exact ⟨handler, former, own, undoes⟩
    · exact ⟨_, List.mem_of_getElem? found, rfl, List.mem_cons_of_mem _ undoes⟩

theorem accounted_step (ordered : Ordered state) (accounted : Accounted state)
    (stepped : step settings state act = some next) : Timely state act ↔ Accounted next := by
  have effect := step_effect stepped
  constructor
  · intro timely id item there never
    have before : id ∉ state.reopened := fun again => never (reopened_mono effect again)
    rcases held_before effect there with earlier | puts
    · exact accounts_kept ordered stepped earlier there before (accounted id item earlier before)
    · exact (accounts_put ordered stepped puts before).mp (timely id item puts before)
  · intro after id item puts never
    have same := establish_step puts stepped
    refine (accounts_put ordered stepped puts never).mpr (after id item ?_ ?_)
    · rw [same]
      exact mem_insert.mpr (Or.inl ⟨rfl, rfl⟩)
    · rw [same]
      exact never

/-! ### Runs -/

theorem timely_of_refused (refused : step settings state act = none) : Timely state act := by
  intro id item puts
  obtain ⟨next, stepped⟩ := establish_taken settings puts
  rw [refused] at stepped
  cases stepped

omit [DecidableEq Id] in
/-- Nothing is under way for sessions that are gone. -/
theorem finished_empty (accounted : Accounted state) (finished : state.finished = true)
    (never : id ∉ state.reopened) (gone : id ∉ state.store.sessions) (item : Item) :
    (id, item) ∉ state.held := by
  intro there
  simp only [State.finished, Bool.and_eq_true, List.isEmpty_iff, List.all_eq_true] at finished
  obtain ⟨⟨⟨⟨⟨⟨unsent, queue⟩, teardowns⟩, deleting⟩, _⟩, _⟩, handlers⟩ := finished
  rcases accounted id item there never with present |
    ((waiting | queued | deleted) | ⟨teardown, member, _⟩) | ⟨handler, member, _, undoes⟩
  · exact gone present
  · rw [unsent] at waiting
    cases waiting
  · rw [queue] at queued
    cases queued
  · rw [deleting] at deleted
    cases deleted
  · rw [teardowns] at member
    cases member
  · rw [handlers handler member] at undoes
    cases undoes

/-- In every run, whatever is held under the id of a session that was never opened again is
accounted for exactly if it was whenever an entry was put; and then nothing is left under the id
once the session is gone and all handlers and teardowns are through. -/
theorem nothing_left_iff (settings : Sessions.Settings Id) (trace : List (Act Id)) :
    (Runs.Admitted (step settings) Timely .new trace ↔
      ∀ front final, front <+: trace → Runs.exec (step settings) .new front = some final →
        Accounted final) ∧
    (Runs.Admitted (step settings) Timely .new trace →
      ∀ front final, front <+: trace → Runs.exec (step settings) .new front = some final →
        final.finished = true → ∀ id, id ∉ final.reopened → id ∉ final.store.sessions →
          ∀ item, (id, item) ∉ final.held) := by
  have start : Ordered (.new : State Id) ∧ Accounted (.new : State Id) :=
    ⟨ordered_new, fun _ _ there => absurd there List.not_mem_nil⟩
  have each : ∀ state act next, Ordered state ∧ Accounted state →
      step settings state act = some next →
      (Timely state act ↔ Ordered next ∧ Accounted next) := by
    intro state act next ⟨ordered, accounted⟩ stepped
    rw [accounted_step ordered accounted stepped]
    exact (and_iff_right (step_ordered ordered stepped)).symm
  have ordered (front : List (Act Id)) (final : State Id)
      (ran : Runs.exec (step settings) .new front = some final) : Ordered final :=
    Runs.exec_invariant (step settings) (fun _ _ => True) Ordered
      (fun _ _ _ _ ordered stepped => step_ordered ordered stepped) front .new final ordered_new
      (Runs.Admitted.of_forall (fun _ _ => trivial) _) ran
  have shown := Runs.admitted_iff each (fun _ _ refused => timely_of_refused refused) trace .new start
  refine ⟨shown.trans ⟨?_, ?_⟩, ?_⟩
  · intro all front final starts ran
    exact (all front final starts ran).2
  · intro all front final starts ran
    exact ⟨ordered front final ran, all front final starts ran⟩
  · intro timely front final starts ran finished id never gone item
    exact finished_empty (shown.mp timely front final starts ran).2 finished never gone item

/-- A client sets its log level and closes the session; the handler of the first comes last. -/
def closedMeanwhile : List (Act Nat) :=
  [.store .createSession, .store .proceed, .store .proceed, .store (.count 0),
    .store (.insert 0 7), .initializeRequest 7 .none, .perform 0, .accept 7 1 (.setLevel .debug),
    .delete 7, .record 7, .pass 0, .clear 0 (.whole .subscriberKeys), .pass 0,
    .clear 0 (.whole .rootsCapable), .pass 0, .clear 0 (.whole .clientCapabilities), .pass 0,
    .pass 0, .clear 0 (.whole .bridges), .pass 0, .clear 0 (.whole .roots), .pass 0,
    .clear 0 (.whole .logLevels), .pass 0, .clear 0 (.whole .lazySets), .pass 0, .perform 1]

/-- The log level of the session is left. -/
theorem level_left : ∃ final,
    Runs.exec (step ⟨1800, 1, fun _ => true⟩) .new closedMeanwhile = some final ∧
    final.finished = true ∧ 7 ∉ final.reopened ∧ 7 ∉ final.store.sessions ∧
    final.held = [(7, .logLevel .debug)] := by
  have shown : ((Runs.exec (step ⟨1800, 1, fun _ => true⟩) .new closedMeanwhile).map fun final =>
      (final.finished, decide (7 ∉ final.reopened), decide (7 ∉ final.store.sessions),
        final.held)) = some (true, true, true, [(7, .logLevel .debug)]) := by
    decide +kernel
  obtain ⟨final, ran, seen⟩ := Option.map_eq_some_iff.mp shown
  simp only [Prod.mk.injEq, decide_eq_true_eq] at seen
  exact ⟨final, ran, seen⟩

end Plug.HttpSessions
