import Plug.HttpSessionSteps
import Plug.SessionClosing

/-!
# The wiring of reopened sessions

A teardown clears by the session's id, after the session has left the store. A session that is
opened again under the id keeps its bridge and whatever else it puts exactly if nothing is put
for it while a teardown under that id may still come to the entry.
-/

namespace Plug.HttpSessions

open Sessions (Store)

variable {Id : Type}

/-- The teardown may still come to the key. -/
def Teardown.MayReach (teardown : Teardown Id) (key : Key) : Prop :=
  key.part ∈ teardown.parts.tail ∨
    (teardown.parts.head? = some key.part ∧ key ∉ teardown.visited)

/-- A teardown of the id, under way or to come, may still clear the entry with the key. -/
def State.MayClear (state : State Id) (id : Id) (key : Key) : Prop :=
  state.Reported id ∨ ∃ teardown ∈ state.teardowns, teardown.id = id ∧ teardown.MayReach key

/-- The session is in the store, and was opened again. -/
def State.Reopened (state : State Id) (id : Id) : Prop :=
  id ∈ state.reopened ∧ id ∈ state.store.sessions

/-- Nothing is put for a reopened session while a teardown of its id may still come to it. -/
def Unthreatened [DecidableEq Id] (state : State Id) (act : Act Id) : Prop :=
  ∀ id item, state.establishes act = some (id, item) → state.Reopened id →
    ¬ state.MayClear id item.key

/-- What a reopened session has put is held, and no teardown of its id may still come to it. -/
def Kept (state : State Id) : Prop :=
  ∀ id, state.Reopened id → ∀ item, (id, item) ∈ state.own →
    (id, item) ∈ state.held ∧ ¬ state.MayClear id item.key

variable {state next : State Id}

/-- What the sessions have put stays kept when it stays held unless it may be cleared, and what
may be cleared could be before. -/
theorem Kept.carry (kept : Kept state)
    (own : ∀ id, next.Reopened id → ∀ item, (id, item) ∈ next.own →
      state.Reopened id ∧ (id, item) ∈ state.own)
    (held : ∀ id item, (id, item) ∈ state.held → ¬ state.MayClear id item.key →
      (id, item) ∈ next.own → (id, item) ∈ next.held)
    (clears : ∀ id, next.Reopened id → ∀ key, next.MayClear id key → state.MayClear id key) :
    Kept next := by
  intro id reopened item put
  obtain ⟨before, owned⟩ := own id reopened item put
  obtain ⟨there, spared⟩ := kept id before item owned
  exact ⟨held id item there spared put, fun clear => spared (clears id reopened _ clear)⟩

/-! ### Sessions that come into the store -/

section Store

variable [DecidableEq Id] {settings : Sessions.Settings Id} {before after : Store Id}
  {former : Sessions.Act Id} {id : Id}

/-- The only section that leads to `marking` is the one that puts the session in. -/
theorem advance_marking {request : Sessions.Request Id} {stage : Sessions.Stage Id}
    (stepped : Sessions.advance settings before request stage former = some after)
    (marking : markingId after = some id) : id ∈ after.issued := by
  unfold Sessions.advance at stepped
  split at stepped
  all_goals repeat' split at stepped
  all_goals first
    | (cases stepped; done)
    | cases stepped
  all_goals first
    | (simp [markingId, Store.goTo, Store.unlock, Store.note] at marking; done)
    | skip
  cases marking
  exact List.mem_cons_self

theorem step_marking (stepped : Sessions.step settings before former = some after)
    (marking : markingId after = some id) : markingId before = some id ∨ id ∈ after.issued := by
  have still (same : after.admission = before.admission) : markingId before = some id := by
    rw [markingId, ← same]
    exact marking
  unfold Sessions.step at stepped
  split at stepped
  · split at stepped
    · cases stepped
      cases marking
    · cases stepped
  · split at stepped
    · split at stepped
      · cases stepped
        cases marking
      · cases stepped
        exact Or.inl marking
    · cases stepped
  · cases stepped
    exact Or.inl (still (Sessions.update_admission ..))
  · cases stepped
    exact Or.inl (still (Sessions.update_admission ..))
  · cases stepped
    exact Or.inl (still (Sessions.update_admission ..))
  · cases stepped
    exact Or.inl (still (Sessions.removeIf_admission ..))
  · cases stepped
    exact Or.inl marking
  · split at stepped
    · cases stepped
      exact Or.inl marking
    · cases stepped
      exact Or.inl marking
  · split at stepped
    · cases stepped
      exact Or.inl marking
    · cases stepped
  · obtain ⟨⟨request, stage⟩, _, advanced⟩ := Option.bind_eq_some_iff.mp stepped
    exact Or.inr (advance_marking advanced marking)

theorem step_issued (stepped : Sessions.step settings before former = some after)
    (issued : id ∈ before.issued) : id ∈ after.issued := by
  cases Sessions.step_change stepped with
  | quiet shrinks _ => exact shrinks.issued ▸ issued
  | found _ _ same | taken _ _ same | closed _ _ same => exact same ▸ issued
  | created _ _ _ _ same | opened _ _ _ same => exact same ▸ List.mem_cons_of_mem _ issued

/-- What comes into the store is new, or is put in by `reopen_session`. -/
theorem step_enters (stepped : Sessions.step settings before former = some after)
    (present : id ∈ after.sessions) (absent : id ∉ before.sessions) :
    id ∉ before.issued ∨ (markingId before = none ∧ markingId after = some id) := by
  cases Sessions.step_change stepped with
  | quiet shrinks _ => exact absurd (shrinks.mem present) absent
  | found _ _ same | closed _ _ same =>
    rw [same] at present
    exact absurd present absent
  | taken other _ same =>
    rw [same] at present
    exact absurd (AList.mem_erase.mp present).2 absent
  | created other now fresh _ same =>
    rw [same] at present
    rcases (AList.mem_insert _).mp present with rfl | earlier
    · exact Or.inl fresh
    · exact absurd earlier absent
  | opened other now held same =>
    rw [same] at present
    rcases (AList.mem_insert _).mp present with rfl | earlier
    · refine Or.inr ⟨?_, by rw [same]; rfl⟩
      rw [markingId, held]
    · exact absurd earlier absent

end Store

/-! ### What every run keeps -/

variable [DecidableEq Id] {settings : Sessions.Settings Id} {act : Act Id}

/-- `reopen_lost_session` is not done with the id. -/
def State.Wiring (state : State Id) (id : Id) : Prop :=
  markingId state.store = some id ∨
    ∃ handler ∈ state.handlers, handler.id = id ∧ (.wire ∈ handler.ops ∨ .dismiss ∈ handler.ops)

structure Wired (state : State Id) : Prop where
  live : ∀ id item, (id, item) ∈ state.own → id ∈ state.store.sessions
  marking : ∀ id, markingId state.store = some id → id ∈ state.store.issued
  known : ∀ id ∈ state.reopened, id ∈ state.store.issued
  /-- Nobody takes a bridge back. -/
  spared : ∀ handler ∈ state.handlers, ∀ op ∈ handler.ops, ∀ key,
    op = .release key ∨ op = .undo key → key.part ≠ .bridges
  bridged : ∀ id, state.Reopened id →
    (∃ capabilities, (id, .bridge capabilities) ∈ state.own) ∨ state.Wiring id

omit [DecidableEq Id] in
theorem wired_new : Wired (State.new : State Id) where
  live _ _ member := absurd member List.not_mem_nil
  marking _ held := by cases held
  known _ member := absurd member List.not_mem_nil
  spared _ member := absurd member List.not_mem_nil
  bridged _ reopened := absurd reopened.1 List.not_mem_nil

theorem mem_withStore {store : Store Id} {id : Id} {item : Item} :
    (id, item) ∈ (state.withStore store).own ↔ (id, item) ∈ state.own ∧ id ∈ store.sessions := by
  simp [State.withStore, List.mem_filter]

theorem mem_follow {store : Store Id} {id : Id} {item : Item} :
    (id, item) ∈ (state.follow store).own ↔
      (id, item) ∈ state.own ∧ id ∈ store.sessions ∧ ¬ Opens state.store store id := by
  rw [← opened_iff]
  simp only [State.follow, List.mem_filter, Bool.and_eq_true, decide_eq_true_eq, ne_eq]

/-- What a session has put it had put before, or puts in this step, and it is in the store. -/
theorem own_step (effect : Effect settings state next act) {id : Id} {item : Item}
    (put : (id, item) ∈ next.own)
    (live : ∀ id item, (id, item) ∈ state.own → id ∈ state.store.sessions) :
    id ∈ next.store.sessions ∧
      ((id, item) ∈ state.own ∨ state.establishes act = some (id, item)) := by
  cases effect with
  | followed store former stepped same =>
    rw [same] at put ⊢
    obtain ⟨before, there, _⟩ := mem_follow.mp put
    exact ⟨there, Or.inl before⟩
  | deleted _ store _ same | recorded _ store _ _ same | touched store _ same
  | dismissed _ store _ _ same =>
    rw [same] at put ⊢
    obtain ⟨before, there⟩ := mem_withStore.mp put
    exact ⟨there, Or.inl before⟩
  | established own entry puts same =>
    rw [same] at put ⊢
    dsimp only [State.establish] at put ⊢
    split at put
    · rename_i present
      rcases mem_insert.mp put with ⟨rfl, rfl⟩ | ⟨before, _⟩
      · exact ⟨present, Or.inr puts⟩
      · exact ⟨live _ _ before, Or.inl before⟩
    · exact ⟨live _ _ put, Or.inl put⟩
  | released own key op _ _ same =>
    rw [same] at put ⊢
    have before := (mem_forget.mp put).1
    exact ⟨live _ _ before, Or.inl before⟩
  | sent _ _ same | received _ _ _ same | cleared _ _ _ _ _ _ same | finished _ _ _ _ _ same
  | passed _ _ _ _ _ _ _ same | quiet same =>
    rw [same] at put ⊢
    exact ⟨live _ _ put, Or.inl put⟩

theorem live_step (wired : Wired state) (effect : Effect settings state next act) :
    ∀ id item, (id, item) ∈ next.own → id ∈ next.store.sessions :=
  fun _ _ put => (own_step effect put wired.live).1

theorem marking_step (wired : Wired state) (effect : Effect settings state next act) :
    ∀ id, markingId next.store = some id → id ∈ next.store.issued := by
  intro id held
  cases effect with
  | followed store former stepped same =>
    rw [same] at held ⊢
    rcases step_marking stepped held with earlier | issued
    · exact step_issued stepped (wired.marking id earlier)
    · exact issued
  | deleted _ store removed same | dismissed _ store _ removed same =>
    rw [same] at held ⊢
    exact removed.issued ▸ wired.marking id (removed.marking ▸ held)
  | recorded _ store _ touched same | touched store touched same =>
    rw [same] at held ⊢
    exact touched.issued ▸ wired.marking id (touched.marking ▸ held)
  | sent _ _ same | received _ _ _ same | cleared _ _ _ _ _ _ same | finished _ _ _ _ _ same
  | passed _ _ _ _ _ _ _ same | quiet same | established _ _ _ same | released _ _ _ _ _ same =>
    rw [same] at held ⊢
    exact wired.marking id held

theorem known_step (wired : Wired state) (effect : Effect settings state next act) :
    ∀ id ∈ next.reopened, id ∈ next.store.issued := by
  intro id member
  have marking := marking_step wired effect
  cases effect with
  | followed store former stepped same =>
    rw [same] at member
    rcases mem_reopened.mp member with earlier | opens
    · rw [same]
      exact step_issued stepped (wired.known id earlier)
    · exact marking id (same ▸ opens.1)
  | deleted _ store removed same | dismissed _ store _ removed same =>
    rw [same] at member ⊢
    exact removed.issued ▸ wired.known id member
  | recorded _ store _ touched same | touched store touched same =>
    rw [same] at member ⊢
    exact touched.issued ▸ wired.known id member
  | sent _ _ same | received _ _ _ same | cleared _ _ _ _ _ _ same | finished _ _ _ _ _ same
  | passed _ _ _ _ _ _ _ same | quiet same | established _ _ _ same | released _ _ _ _ _ same =>
    rw [same] at member ⊢
    exact wired.known id member

omit [DecidableEq Id] in
theorem spared_step (wired : Wired state) (continues : Continues state next act) :
    ∀ handler ∈ next.handlers, ∀ op ∈ handler.ops, ∀ key,
      op = .release key ∨ op = .undo key → key.part ≠ .bridges := by
  intro handler member op inOps key takes
  rcases op_origin continues member inOps with ⟨former, before, _, inFormer⟩ | ⟨wires, _⟩ |
    ⟨rfl, _⟩ | rfl | request
  · exact wired.spared former before op inFormer key takes
  · rcases takes with rfl | rfl <;> simp [reopenLostSession] at wires
  · rcases takes with same | same <;> cases same
  · rcases takes with same | same <;> cases same
  · rcases takes with rfl | rfl <;> simpa [Op.ofRequest] using request

/-! ### The bridge of a reopened session -/

/-- A reopened session was one before, unless `reopen_session` is at it. -/
theorem reopened_before (wired : Wired state) (effect : Effect settings state next act) {id : Id}
    (reopened : next.Reopened id) : state.Reopened id ∨ markingId next.store = some id := by
  obtain ⟨again, present⟩ := reopened
  cases effect with
  | followed store former stepped same =>
    rw [same] at again present ⊢
    rcases mem_reopened.mp again with earlier | opens
    · by_cases there : id ∈ state.store.sessions
      · exact Or.inl ⟨earlier, there⟩
      · rcases step_enters stepped present there with fresh | ⟨_, marking⟩
        · exact absurd (wired.known id earlier) fresh
        · exact Or.inr marking
    · exact Or.inr opens.1
  | deleted _ store removed same | dismissed _ store _ removed same =>
    rw [same] at again present
    exact Or.inl ⟨again, ((removed.keys id).mp present).1⟩
  | recorded _ store _ touched same | touched store touched same =>
    rw [same] at again present
    exact Or.inl ⟨again, (touched.keys id).mp present⟩
  | sent _ _ same | received _ _ _ same | cleared _ _ _ _ _ _ same | finished _ _ _ _ _ same
  | passed _ _ _ _ _ _ _ same | quiet same | established _ _ _ same | released _ _ _ _ _ same =>
    rw [same] at again present
    exact Or.inl ⟨again, present⟩

theorem bridge_kept (wired : Wired state) (effect : Effect settings state next act) {id : Id}
    {capabilities : ClientCapabilities} (put : (id, .bridge capabilities) ∈ state.own)
    (present : id ∈ next.store.sessions) :
    (∃ capabilities, (id, .bridge capabilities) ∈ next.own) ∨ markingId next.store = some id := by
  cases effect with
  | followed store former stepped same =>
    rw [same] at present ⊢
    by_cases opens : Opens state.store store id
    · exact Or.inr opens.1
    · exact Or.inl ⟨capabilities, mem_follow.mpr ⟨put, present, opens⟩⟩
  | deleted _ store _ same | recorded _ store _ _ same | touched store _ same
  | dismissed _ store _ _ same =>
    rw [same] at present ⊢
    exact Or.inl ⟨capabilities, mem_withStore.mpr ⟨put, present⟩⟩
  | established own entry puts same =>
    rw [same]
    dsimp only [State.establish]
    split
    · by_cases replaced : id = own ∧ entry.key = .whole .bridges
      · obtain ⟨rfl, bridges⟩ := replaced
        obtain ⟨stated, rfl⟩ : ∃ stated, entry = .bridge stated := by
          cases entry with
          | bridge stated => exact ⟨stated, rfl⟩
          | _ => cases bridges
        exact Or.inl ⟨stated, mem_insert.mpr (Or.inl ⟨rfl, rfl⟩)⟩
      · refine Or.inl ⟨capabilities, mem_insert.mpr (Or.inr ⟨put, ?_⟩)⟩
        rintro ⟨same, key⟩
        exact replaced ⟨same, key.symm⟩
    · exact Or.inl ⟨capabilities, put⟩
  | released own key op performs releases same =>
    rw [same]
    refine Or.inl ⟨capabilities, mem_forget.mpr ⟨put, ?_⟩⟩
    rintro ⟨_, bridges⟩
    obtain ⟨index, rest, _, found⟩ := performs
    have handler := List.mem_of_getElem? found
    refine wired.spared _ handler op List.mem_cons_self key releases ?_
    rw [← bridges]
    rfl
  | sent _ _ same | received _ _ _ same | cleared _ _ _ _ _ _ same | finished _ _ _ _ _ same
  | passed _ _ _ _ _ _ _ same | quiet same =>
    rw [same]
    exact Or.inl ⟨capabilities, put⟩

/-- The caller of `reopen_session` is on its way to the bridge until it has registered it or
taken the session out again. -/
theorem wiring_kept (stepped : step settings state act = some next) {id : Id}
    (wiring : state.Wiring id) :
    next.Wiring id ∨ Performs state act id .wire ∨ Performs state act id .dismiss := by
  rcases wiring with marking | ⟨handler, member, rfl, wires⟩
  · have same_marking (same : markingId next.store = markingId state.store) : next.Wiring id :=
      Or.inl (same.trans marking)
    left
    cases step_effect stepped with
    | followed store former moved same =>
      by_cases still : markingId store = some id
      · exact Or.inl (by rw [same]; exact still)
      · refine Or.inr ⟨⟨id, reopenLostSession⟩, ?_, rfl,
          Or.inl (List.mem_cons_of_mem _ List.mem_cons_self)⟩
        rw [same]
        simp [State.follow, marking, still]
    | deleted _ store removed same | dismissed _ store _ removed same =>
      exact same_marking (by rw [same]; exact removed.marking)
    | recorded _ store _ touched same | touched store touched same =>
      exact same_marking (by rw [same]; exact touched.marking)
    | sent _ _ same | received _ _ _ same | cleared _ _ _ _ _ _ same | finished _ _ _ _ _ same
    | passed _ _ _ _ _ _ _ same | quiet same | established _ _ _ same
    | released _ _ _ _ _ same =>
      exact same_marking (congrArg (fun later => markingId later.store) same)
  · have continues := step_continues stepped
    rcases wires with inOps | inOps
    · rcases lasting_kept continues member inOps rfl with ⟨later, there, own, stays⟩ | performs |
        ⟨_, later, there, own, stays⟩
      · exact Or.inl (Or.inr ⟨later, there, own, Or.inl stays⟩)
      · exact Or.inr (Or.inl performs)
      · exact Or.inl (Or.inr ⟨later, there, own, Or.inr stays⟩)
    · rcases lasting_kept continues member inOps rfl with ⟨later, there, own, stays⟩ | performs |
        ⟨_, later, there, own, stays⟩
      · exact Or.inl (Or.inr ⟨later, there, own, Or.inr stays⟩)
      · exact Or.inr (Or.inr performs)
      · exact Or.inl (Or.inr ⟨later, there, own, Or.inr stays⟩)

theorem wire_step (stepped : step settings state act = some next) {id : Id}
    (performs : Performs state act id .wire) (present : id ∈ next.store.sessions) :
    ∃ capabilities, (id, .bridge capabilities) ∈ next.own := by
  obtain ⟨index, rest, rfl, found⟩ := performs
  have puts : state.establishes (.perform index) = some (id, .bridge .none) := by
    simp [State.establishes, found, Op.item?]
  have same := establish_step puts stepped
  rw [same] at present ⊢
  refine ⟨.none, ?_⟩
  dsimp only [State.establish] at present ⊢
  rw [if_pos present]
  exact mem_insert.mpr (Or.inl ⟨rfl, rfl⟩)

theorem dismiss_step (stepped : step settings state act = some next) {id : Id}
    (performs : Performs state act id .dismiss) : id ∉ next.store.sessions := by
  obtain ⟨index, rest, rfl, found⟩ := performs
  simp only [step, perform, found, Op.item?] at stepped
  obtain ⟨store, removed, rfl⟩ := Option.map_eq_some_iff.mp stepped
  intro present
  exact (((remove_removed removed).keys id).mp present).2 rfl

theorem step_wired (wired : Wired state) (stepped : step settings state act = some next) :
    Wired next := by
  have effect := step_effect stepped
  refine ⟨live_step wired effect, marking_step wired effect, known_step wired effect,
    spared_step wired (step_continues stepped), ?_⟩
  intro id reopened
  rcases reopened_before wired effect reopened with before | marking
  · rcases wired.bridged id before with ⟨capabilities, put⟩ | wiring
    · rcases bridge_kept wired effect put reopened.2 with bridge | marking
      · exact Or.inl bridge
      · exact Or.inr (Or.inl marking)
    · rcases wiring_kept stepped wiring with still | performs | performs
      · exact Or.inr still
      · exact Or.inl (wire_step stepped performs reopened.2)
      · exact absurd reopened.2 (dismiss_step stepped performs)
  · exact Or.inr (Or.inl marking)

/-! ### What a teardown may still clear -/

/-- The teardowns to come and under way only lose ways to clear an entry of a session that is in
the store. -/
theorem mayClear_before (effect : Effect settings state next act) {id : Id} {key : Key}
    (present : id ∈ next.store.sessions) (may : next.MayClear id key) : state.MayClear id key := by
  have former (teardown : Teardown Id) (member : teardown ∈ state.teardowns)
      (own : teardown.id = id) (reach : teardown.MayReach key) : state.MayClear id key :=
    Or.inr ⟨teardown, member, own, reach⟩
  cases effect with
  | followed store act stepped same =>
    rw [same] at present may
    rcases may with (unsent | queued | deleting) | torn
    · rcases List.mem_append.mp unsent with earlier | gone
      · exact Or.inl (Or.inl earlier)
      · exact absurd present (of_decide_eq_true (List.mem_filter.mp gone).2)
    · exact Or.inl (Or.inr (Or.inl queued))
    · exact Or.inl (Or.inr (Or.inr deleting))
    · exact Or.inr torn
  | sent reported unsent same =>
    rw [same] at may
    rcases may with (waiting | queued | deleting) | torn
    · exact Or.inl (Or.inl (List.mem_of_mem_erase waiting))
    · rcases List.mem_append.mp queued with earlier | now
      · exact Or.inl (Or.inr (Or.inl earlier))
      · exact Or.inl (Or.inl (List.mem_singleton.mp now ▸ unsent))
    · exact Or.inl (Or.inr (Or.inr deleting))
    · exact Or.inr torn
  | received reported rest first same =>
    rw [same] at may
    rcases may with (unsent | queued | deleting) | ⟨teardown, member, own, reach⟩
    · exact Or.inl (Or.inl unsent)
    · exact Or.inl (Or.inr (Or.inl (first ▸ List.mem_cons_of_mem _ queued)))
    · exact Or.inl (Or.inr (Or.inr deleting))
    · rcases List.mem_append.mp member with earlier | started
      · exact former teardown earlier own reach
      · obtain rfl := List.mem_singleton.mp started
        exact Or.inl (Or.inr (Or.inl (first ▸ own ▸ List.mem_cons_self)))
  | cleared index teardown cleared found here ahead same =>
    rw [same] at may
    rcases may with reported | ⟨other, member, own, reach⟩
    · exact Or.inl reported
    · rcases List.mem_or_eq_of_mem_set member with earlier | rfl
      · exact former other earlier own reach
      · refine former teardown (List.mem_of_getElem? found) own ?_
        rcases reach with later | ⟨head, unvisited⟩
        · exact Or.inl later
        · exact Or.inr ⟨head, fun visited => unvisited (List.mem_cons_of_mem _ visited)⟩
  | finished index teardown found done last same =>
    rw [same] at may
    rcases may with reported | ⟨other, member, own, reach⟩
    · exact Or.inl reported
    · exact former other (List.mem_of_mem_eraseIdx member) own reach
  | passed index teardown part rest found done left same =>
    rw [same] at may
    rcases may with reported | ⟨other, member, own, reach⟩
    · exact Or.inl reported
    · rcases List.mem_or_eq_of_mem_set member with earlier | rfl
      · exact former other earlier own reach
      · refine former teardown (List.mem_of_getElem? found) own (Or.inl ?_)
        rw [left]
        rcases reach with later | ⟨head, _⟩
        · exact List.mem_cons_of_mem _ later
        · exact Option.some.inj head ▸ List.mem_cons_self
  | deleted gone store removed same =>
    rw [same] at present may
    rcases may with (unsent | queued | deleting) | torn
    · exact Or.inl (Or.inl unsent)
    · exact Or.inl (Or.inr (Or.inl queued))
    · rcases List.mem_append.mp deleting with earlier | now
      · exact Or.inl (Or.inr (Or.inr earlier))
      · exact absurd (List.mem_singleton.mp now) ((removed.keys id).mp present).2
    · exact Or.inr torn
  | recorded closed store pending touched same =>
    rw [same] at may
    rcases may with (unsent | queued | deleting) | ⟨teardown, member, own, reach⟩
    · exact Or.inl (Or.inl unsent)
    · exact Or.inl (Or.inr (Or.inl queued))
    · exact Or.inl (Or.inr (Or.inr (List.mem_of_mem_erase deleting)))
    · rcases List.mem_append.mp member with earlier | started
      · exact former teardown earlier own reach
      · obtain rfl := List.mem_singleton.mp started
        exact Or.inl (Or.inr (Or.inr (own ▸ pending)))
  | touched _ _ same | quiet same | established _ _ _ same | released _ _ _ _ _ same
  | dismissed _ _ _ _ same =>
    rw [same] at may
    exact may

/-- What is held stays held, but for what is replaced or taken back, unless a teardown may still
clear it. -/
theorem held_kept (effect : Effect settings state next act) (quiet : state.establishes act = none)
    {id : Id} {item : Item} (there : (id, item) ∈ state.held)
    (spared : ¬ state.MayClear id item.key) (put : (id, item) ∈ next.own) :
    (id, item) ∈ next.held := by
  cases effect with
  | cleared index teardown key found here ahead same =>
    rw [same]
    refine mem_forget.mpr ⟨there, ?_⟩
    rintro ⟨rfl, rfl⟩
    exact spared (Or.inr ⟨teardown, List.mem_of_getElem? found, rfl, Or.inr ⟨here, ahead⟩⟩)
  | established _ _ puts _ =>
    rw [quiet] at puts
    cases puts
  | released own key op _ _ same =>
    rw [same] at put ⊢
    exact mem_forget.mpr ⟨there, (mem_forget.mp put).2⟩
  | followed _ _ _ same | sent _ _ same | received _ _ _ same | finished _ _ _ _ _ same
  | passed _ _ _ _ _ _ _ same | deleted _ _ _ same | recorded _ _ _ _ same | touched _ _ same
  | quiet same | dismissed _ _ _ _ same =>
    rw [same]
    exact there

theorem kept_quiet (wired : Wired state) (kept : Kept state)
    (effect : Effect settings state next act) (quiet : state.establishes act = none) :
    Kept next := by
  refine kept.carry ?_ (fun id item there spared put => held_kept effect quiet there spared put)
    (fun id reopened key may => mayClear_before effect reopened.2 may)
  intro id reopened item put
  have before : (id, item) ∈ state.own := by
    rcases (own_step effect put wired.live).2 with earlier | puts
    · exact earlier
    · rw [quiet] at puts
      cases puts
  refine ⟨⟨?_, wired.live id item before⟩, before⟩
  obtain ⟨again, _⟩ := reopened
  cases effect with
  | followed store former stepped same =>
    rw [same] at put again
    exact (mem_reopened.mp again).resolve_right (mem_follow.mp put).2.2
  | sent _ _ same | received _ _ _ same | cleared _ _ _ _ _ _ same | finished _ _ _ _ _ same
  | passed _ _ _ _ _ _ _ same | deleted _ _ _ same | recorded _ _ _ _ same | touched _ _ same
  | quiet same | established _ _ _ same | released _ _ _ _ _ same | dismissed _ _ _ _ same =>
    rw [same] at again
    exact again

/-- An entry that is put for a reopened session is kept exactly if no teardown may clear it. -/
theorem kept_establish (kept : Kept state) {id : Id} {item : Item} :
    (state.Reopened id → ¬ state.MayClear id item.key) ↔ Kept (state.establish id item) := by
  constructor
  · intro unthreatened other reopened entry put
    dsimp only [State.establish] at put ⊢
    split at put
    · rcases mem_insert.mp put with ⟨rfl, rfl⟩ | ⟨before, differs⟩
      · exact ⟨mem_insert.mpr (Or.inl ⟨rfl, rfl⟩), unthreatened reopened⟩
      · obtain ⟨there, spared⟩ := kept other reopened entry before
        exact ⟨mem_insert.mpr (Or.inr ⟨there, differs⟩), spared⟩
    · rename_i absent
      obtain ⟨there, spared⟩ := kept other reopened entry put
      refine ⟨mem_insert.mpr (Or.inr ⟨there, ?_⟩), spared⟩
      rintro ⟨rfl, _⟩
      exact absent reopened.2
  · intro after reopened
    refine (after id reopened item ?_).2
    dsimp only [State.establish]
    rw [if_pos reopened.2]
    exact mem_insert.mpr (Or.inl ⟨rfl, rfl⟩)

theorem kept_step (wired : Wired state) (kept : Kept state)
    (stepped : step settings state act = some next) : Unthreatened state act ↔ Kept next := by
  cases puts : state.establishes act with
  | none =>
    refine iff_of_true ?_ (kept_quiet wired kept (step_effect stepped) puts)
    intro id item stores
    rw [puts] at stores
    cases stores
  | some entry =>
    obtain ⟨id, item⟩ := entry
    have same := establish_step puts stepped
    have shown : Kept next ↔ Kept (state.establish id item) := by
      rw [same]
      rfl
    rw [shown, ← kept_establish kept, Unthreatened, puts]
    simp

/-! ### Runs -/

/-- A reopened session has its bridge, once `reopen_lost_session` is done, and all that it has put;
no teardown of its id may still come to any of it. -/
structure WiringKept (state : State Id) : Prop where
  kept : Kept state
  bridge : ∀ id, state.Reopened id → ¬ state.Wiring id →
    ∃ capabilities, (id, .bridge capabilities) ∈ state.held

omit [DecidableEq Id] in
theorem wiringKept_iff (wired : Wired state) : WiringKept state ↔ Kept state := by
  refine ⟨WiringKept.kept, fun kept => ⟨kept, fun id reopened done => ?_⟩⟩
  obtain ⟨capabilities, put⟩ := (wired.bridged id reopened).resolve_right done
  exact ⟨capabilities, (kept id reopened _ put).1⟩

theorem unthreatened_of_refused (refused : step settings state act = none) :
    Unthreatened state act := by
  intro id item puts
  obtain ⟨next, stepped⟩ := establish_taken settings puts
  rw [refused] at stepped
  cases stepped

/-- In every run, reopened sessions keep their bridge and all that they put, in every state and
whatever becomes of the teardowns, exactly if nothing is put for one of them while a teardown of
its id may still come to it. -/
theorem wiring_kept_iff (settings : Sessions.Settings Id) (trace : List (Act Id)) :
    Runs.Admitted (step settings) Unthreatened .new trace ↔
      ∀ front final, front <+: trace → Runs.exec (step settings) .new front = some final →
        WiringKept final := by
  have wired (front : List (Act Id)) (final : State Id)
      (ran : Runs.exec (step settings) .new front = some final) : Wired final :=
    Runs.exec_invariant (step settings) (fun _ _ => True) Wired
      (fun _ _ _ _ wired stepped => step_wired wired stepped) front .new final wired_new
      (Runs.Admitted.of_forall (fun _ _ => trivial) _) ran
  have start : Wired (.new : State Id) ∧ Kept (.new : State Id) :=
    ⟨wired_new, fun _ reopened => absurd reopened.1 List.not_mem_nil⟩
  have each : ∀ state act next, Wired state ∧ Kept state → step settings state act = some next →
      (Unthreatened state act ↔ Wired next ∧ Kept next) := by
    intro state act next ⟨wired, kept⟩ stepped
    rw [kept_step wired kept stepped]
    exact (and_iff_right (step_wired wired stepped)).symm
  rw [Runs.admitted_iff each (fun _ _ refused => unthreatened_of_refused refused) trace .new start]
  constructor
  · intro all front final starts ran
    exact (wiringKept_iff (wired front final ran)).mpr (all front final starts ran).2
  · intro all front final starts ran
    exact ⟨wired front final ran, (all front final starts ran).kept⟩

/-- A session is created, expires, and is opened again by its client, which reports it; then the
listener tears it down. -/
def reopenedSession : List (Act Nat) :=
  [.store .createSession, .store .proceed, .store .proceed, .store (.count 0),
    .store (.insert 0 7), .initializeRequest 7 .none, .perform 0,
    .store (.reopenSession 7), .store (.visit 7 2000), .store .proceed, .store (.dropExpired 2000),
    .store .proceed, .store .lookUp, .store .checkClosed, .store .proceed, .store .proceed,
    .store (.count 0), .store (.insert 2000 0), .store .mark, .perform 1, .perform 1,
    .send 7, .receive, .pass 0, .clear 0 (.whole .subscriberKeys), .pass 0,
    .clear 0 (.whole .rootsCapable), .pass 0, .clear 0 (.whole .clientCapabilities), .pass 0,
    .pass 0, .clear 0 (.whole .bridges), .pass 0, .clear 0 (.whole .roots), .pass 0,
    .clear 0 (.whole .logLevels), .pass 0, .clear 0 (.whole .lazySets), .pass 0]

/-- The session that its client has opened again is left without a bridge. -/
theorem reopened_unwired : ∃ final,
    Runs.exec (step Sessions.sampleSettings) .new reopenedSession = some final ∧
    final.finished = true ∧ 7 ∈ final.reopened ∧ 7 ∈ final.store.sessions ∧ final.held = [] := by
  have shown : ((Runs.exec (step Sessions.sampleSettings) .new reopenedSession).map fun final =>
      (final.finished, decide (7 ∈ final.reopened), decide (7 ∈ final.store.sessions),
        final.held)) = some (true, true, true, []) := by
    decide +kernel
  obtain ⟨final, ran, seen⟩ := Option.map_eq_some_iff.mp shown
  simp only [Prod.mk.injEq, decide_eq_true_eq] at seen
  exact ⟨final, ran, seen⟩

end Plug.HttpSessions
