import Plug.SessionStore
import Mathlib.Data.List.Nodup

/-!
# Closed sessions stay closed

While no id is looked up among the closed ones between the two sections of its removal, an id
is in the store, in a removal that is not recorded, or on the list of closed sessions, and at
most once in all of them. A closed id therefore leaves the list only when 512 other ids were
closed after it, and only then can it be opened again. The number of sessions needs no such
condition: sessions are added under the lock, after they were counted.
-/

namespace Plug.Sessions

variable {Id : Type}

/-- The id was not in the store when the call looked. -/
def Stage.pastLookUp : Stage Id → Bool
  | .visiting room _ _ => room
  | .dropping room _ => room
  | .lookingUp => false
  | .marking => false
  | _ => true

/-- The id was not among the closed ones when the call looked. -/
def Stage.pastCheck : Stage Id → Bool
  | .checkingClosed => false
  | stage => stage.pastLookUp

theorem pastLookUp_of_pastCheck {stage : Stage Id} (past : stage.pastCheck = true) :
    stage.pastLookUp = true := by
  cases stage with
  | checkingClosed => rfl
  | _ => exact past

variable [DecidableEq Id] {settings : Settings Id} {store next : Store Id} {act : Act Id}

/-! ### What a step can do -/

/-- Sessions only go; what is closed stays as it is. -/
structure Shrinks (store next : Store Id) : Prop where
  keys : List.Sublist next.sessions.keys store.sessions.keys
  closed : next.closed = store.closed
  removing : next.removing = store.removing
  issued : next.issued = store.issued
  log : next.log = store.log

omit [DecidableEq Id] in
theorem Shrinks.refl (store : Store Id) : Shrinks store store :=
  ⟨List.Sublist.refl _, rfl, rfl, rfl, rfl⟩

variable {id : Id} {between : List (Event Id)}

omit [DecidableEq Id] in
theorem Shrinks.mem (shrinks : Shrinks store next) (present : id ∈ next.sessions) :
    id ∈ store.sessions :=
  shrinks.keys.subset present

omit [DecidableEq Id] in
theorem Shrinks.goTo (shrinks : Shrinks store next) (request : Request Id) (stage : Stage Id) :
    Shrinks store (next.goTo request stage) :=
  ⟨shrinks.keys, shrinks.closed, shrinks.removing, shrinks.issued, shrinks.log⟩

omit [DecidableEq Id] in
theorem Shrinks.unlock (shrinks : Shrinks store next) : Shrinks store next.unlock :=
  ⟨shrinks.keys, shrinks.closed, shrinks.removing, shrinks.issued, shrinks.log⟩

theorem shrinks_erase (store : Store Id) (id : Id) : Shrinks store (store.erase id) := by
  refine ⟨?_, rfl, rfl, rfl, rfl⟩
  rw [Store.erase, AList.keys_erase]
  exact List.erase_sublist

theorem shrinks_removeIf (store : Store Id) (id : Id) (meets : SessionState → Bool) :
    Shrinks store (store.removeIf id meets) := by
  unfold Store.removeIf
  split
  · exact shrinks_erase store id
  · exact Shrinks.refl store

theorem shrinks_update (store : Store Id) (id : Id) (change : SessionState → SessionState) :
    Shrinks store (store.update id change) := by
  unfold Store.update
  split
  · refine ⟨?_, rfl, rfl, rfl, rfl⟩
    rw [AList.keys_replace]
  · exact Shrinks.refl store

omit [DecidableEq Id] in
theorem Store.size_eq (store : Store Id) : store.size = store.sessions.keys.length :=
  (List.length_map ..).symm

omit [DecidableEq Id] in
theorem Shrinks.size (shrinks : Shrinks store next) : next.size ≤ store.size := by
  rw [Store.size_eq, Store.size_eq]
  exact shrinks.keys.length_le

@[simp] theorem removeIf_admission (store : Store Id) (id : Id) (meets : SessionState → Bool) :
    (store.removeIf id meets).admission = store.admission := by
  unfold Store.removeIf
  split <;> rfl

@[simp] theorem update_admission (store : Store Id) (id : Id)
    (change : SessionState → SessionState) :
    (store.update id change).admission = store.admission := by
  unfold Store.update
  split <;> rfl

/-- How the call under the lock goes on: what it found out before it still stands behind it,
or it found it out in this step. -/
structure Moves (settings : Settings Id) (store next : Store Id) (act : Act Id) : Prop where
  lookUp : ∀ id stage, next.admission = some (.reopen id, stage) → stage.pastLookUp = true →
    id ∉ store.sessions ∨
      ∃ former, store.admission = some (.reopen id, former) ∧ former.pastLookUp = true
  check : ∀ id stage, next.admission = some (.reopen id, stage) → stage.pastCheck = true →
    (act = .checkClosed ∧ id ∉ store.closed ∧
      ∃ former, store.admission = some (.reopen id, former) ∧ former.pastLookUp = true) ∨
      ∃ former, store.admission = some (.reopen id, former) ∧ former.pastCheck = true
  room : ∀ request, next.admission = some (request, .inserting) →
    store.admission = some (request, .inserting) ∨ store.size < settings.maxSessions

omit [DecidableEq Id] in
theorem Moves.still (same : next.admission = store.admission) : Moves settings store next act where
  lookUp _ stage held past := Or.inr ⟨stage, same ▸ held, past⟩
  check _ stage held past := Or.inr ⟨stage, same ▸ held, past⟩
  room _ held := Or.inl (same ▸ held)

omit [DecidableEq Id] in
theorem Moves.unlocked (free : next.admission = none) : Moves settings store next act := by
  constructor
  · intro id stage held
    rw [free] at held
    cases held
  · intro id stage held
    rw [free] at held
    cases held
  · intro request held
    rw [free] at held
    cases held

omit [DecidableEq Id] in
/-- A call that goes to a stage that asks for nothing its last one did not. -/
theorem Moves.along {request : Request Id} {former stage : Stage Id}
    (before : store.admission = some (request, former))
    (after : next.admission = some (request, stage))
    (lookUp : stage.pastLookUp = true → former.pastLookUp = true)
    (check : stage.pastCheck = true → former.pastCheck = true)
    (room : stage = .inserting → store.size < settings.maxSessions) :
    Moves settings store next act := by
  constructor
  · intro id other held past
    rw [after] at held
    cases held
    exact Or.inr ⟨former, before, lookUp past⟩
  · intro id other held past
    rw [after] at held
    cases held
    exact Or.inr ⟨former, before, check past⟩
  · intro other held
    rw [after] at held
    cases held
    exact Or.inr (room rfl)

inductive Change (settings : Settings Id) (store next : Store Id) (act : Act Id) : Prop where
  | quiet (shrinks : Shrinks store next) (moves : Moves settings store next act)
  | found (id : Id) (present : id ∈ store.sessions)
      (same : next = store.unlock.note (.reopened id false))
  | created (id : Id) (now : Nat) (fresh : id ∉ store.issued)
      (held : store.admission = some (.create, .inserting))
      (same : next = (store.insertNew id now).unlock)
  | opened (id : Id) (now : Nat) (held : store.admission = some (.reopen id, .inserting))
      (same : next = ((store.insertNew id now).goTo (.reopen id) .marking).note
        (.reopened id true))
  | taken (id : Id) (present : id ∈ store.sessions)
      (same : next =
        { store.erase id with removing := store.removing ++ [id] }.note (.taken id))
  | closed (id : Id) (pending : id ∈ store.removing)
      (same : next =
        { store with
          removing := store.removing.erase id
          closed := Queues.push closedSessionsKept store.closed id }.note (.closed id))

/-- The call under the lock takes one of its sections. -/
theorem advance_change {request : Request Id} {stage : Stage Id}
    (held : store.admission = some (request, stage))
    (stepped : advance settings store request stage act = some next) :
    Change settings store next act := by
  have still (request : Request Id) (stage : Stage Id) : Shrinks store (store.goTo request stage) :=
    (Shrinks.refl store).goTo request stage
  have freed : Shrinks store store.unlock := (Shrinks.refl store).unlock
  unfold advance at stepped
  split at stepped
  -- The first sweep, and that of `make_room`.
  · split at stepped
    · cases stepped
      exact .quiet (still ..) (.along held rfl id id nofun)
    · cases stepped
  · cases stepped
    exact .quiet (still ..) (.along held rfl id id nofun)
  · cases stepped
    exact .quiet ((shrinks_removeIf ..).goTo ..) (.along held rfl id id nofun)
  · rename_i room
    cases stepped
    refine .quiet (still ..) (.along held rfl ?_ ?_ ?_)
    · cases room <;> simp [Stage.pastLookUp]
    · cases room <;> simp [Stage.pastCheck, Stage.pastLookUp]
    · cases room <;> nofun
  -- The session, and the list of closed ones, are looked up.
  · cases request with
    | create => cases stepped
    | reopen own =>
      dsimp only at stepped
      split at stepped
      · rename_i present
        cases stepped
        exact .found own present rfl
      · rename_i absent
        cases stepped
        refine .quiet (still ..) ⟨?_, ?_, nofun⟩
        · intro other stage after _
          obtain ⟨same, _⟩ := Prod.mk.inj (Option.some.inj after)
          cases same
          exact Or.inl absent
        · intro other stage after past
          obtain ⟨_, rfl⟩ := Prod.mk.inj (Option.some.inj after)
          cases past
  · cases request with
    | create => cases stepped
    | reopen own =>
      dsimp only at stepped
      split at stepped
      · cases stepped
        exact .quiet freed (.unlocked rfl)
      · rename_i unlisted
        cases stepped
        refine .quiet (still ..) ⟨?_, ?_, nofun⟩
        · intro other stage after _
          obtain ⟨same, _⟩ := Prod.mk.inj (Option.some.inj after)
          cases same
          exact Or.inr ⟨_, held, rfl⟩
        · intro other stage after _
          obtain ⟨same, _⟩ := Prod.mk.inj (Option.some.inj after)
          cases same
          exact Or.inl ⟨rfl, unlisted, _, held, rfl⟩
  -- Room is made.
  · cases stepped
    refine .quiet (still ..) (.along held rfl (fun _ => rfl) (fun _ => rfl) ?_)
    split
    · intro _
      omega
    · nofun
  · split at stepped
    · cases stepped
      exact .quiet (still ..) (.along held rfl id id nofun)
    · cases stepped
  · cases stepped
    exact .quiet (still ..) (.along held rfl id id nofun)
  · cases stepped
    exact .quiet freed (.unlocked rfl)
  · cases stepped
    exact .quiet ((shrinks_removeIf ..).goTo ..) (.along held rfl id id nofun)
  · split at stepped
    · cases stepped
      refine .quiet (still ..) (.along held rfl id id ?_)
      intro _
      omega
    · cases stepped
      exact .quiet freed (.unlocked rfl)
  -- The session is put in.
  · cases request with
    | create =>
      dsimp only at stepped
      split at stepped
      · cases stepped
      · rename_i fresh
        cases stepped
        exact .created _ _ fresh held rfl
    | reopen own =>
      cases stepped
      exact .opened own _ held rfl
  · cases request with
    | create => cases stepped
    | reopen own =>
      cases stepped
      exact .quiet (shrinks_update ..).unlock (.unlocked rfl)
  · cases stepped

theorem step_change (stepped : step settings store act = some next) :
    Change settings store next act := by
  unfold step at stepped
  split at stepped
  · split at stepped
    · cases stepped
      exact .quiet ((Shrinks.refl store).goTo ..) ⟨nofun, nofun, nofun⟩
    · cases stepped
  · split at stepped
    · split at stepped
      · cases stepped
        refine .quiet ((Shrinks.refl store).goTo ..) ⟨?_, ?_, nofun⟩
        · intro other stage after past
          obtain ⟨_, rfl⟩ := Prod.mk.inj (Option.some.inj after)
          cases past
        · intro other stage after past
          obtain ⟨_, rfl⟩ := Prod.mk.inj (Option.some.inj after)
          cases past
      · cases stepped
        exact .quiet (Shrinks.refl store) (.still rfl)
    · cases stepped
  · cases stepped
    exact .quiet (shrinks_update ..) (.still (update_admission ..))
  · cases stepped
    exact .quiet (shrinks_update ..) (.still (update_admission ..))
  · cases stepped
    exact .quiet (shrinks_update ..) (.still (update_admission ..))
  · cases stepped
    exact .quiet (shrinks_removeIf ..) (.still (removeIf_admission ..))
  · cases stepped
    exact .quiet (shrinks_erase ..) (.still rfl)
  · split at stepped
    · rename_i present
      cases stepped
      exact .taken _ present rfl
    · cases stepped
      exact .quiet (Shrinks.refl store) (.still rfl)
  · split at stepped
    · rename_i pending
      cases stepped
      exact .closed _ pending rfl
    · cases stepped
  · obtain ⟨⟨request, stage⟩, held, advanced⟩ := Option.bind_eq_some_iff.mp stepped
    exact advance_change held advanced

/-! ### The number of sessions -/

structure Within (settings : Settings Id) (store : Store Id) : Prop where
  size : store.size ≤ settings.maxSessions
  room : ∀ request, store.admission = some (request, .inserting) →
    store.size < settings.maxSessions

theorem insertNew_keys (store : Store Id) (id : Id) (now : Nat) :
    (store.insertNew id now).sessions.keys = id :: store.sessions.keys.erase id :=
  AList.keys_insert ..

theorem insertNew_size (store : Store Id) (id : Id) (now : Nat) :
    (store.insertNew id now).size ≤ store.size + 1 := by
  rw [Store.size_eq, Store.size_eq, insertNew_keys, List.length_cons]
  exact Nat.succ_le_succ (List.length_erase_le ..)

theorem step_within (within : Within settings store)
    (stepped : step settings store act = some next) : Within settings next := by
  cases step_change stepped with
  | quiet shrinks moves =>
    refine ⟨Nat.le_trans shrinks.size within.size, ?_⟩
    intro request held
    cases moves.room request held with
    | inl before => exact Nat.lt_of_le_of_lt shrinks.size (within.room request before)
    | inr counted => exact Nat.lt_of_le_of_lt shrinks.size counted
  | found id present same =>
    subst same
    exact ⟨within.size, nofun⟩
  | created id now fresh held same =>
    subst same
    exact ⟨Nat.le_trans (insertNew_size store id now) (within.room _ held), nofun⟩
  | opened id now held same =>
    subst same
    exact ⟨Nat.le_trans (insertNew_size store id now) (within.room _ held), nofun⟩
  | taken id present same =>
    subst same
    have fewer := (shrinks_erase store id).size
    exact ⟨Nat.le_trans fewer within.size, fun request held =>
      Nat.lt_of_le_of_lt fewer (within.room request held)⟩
  | closed id pending same =>
    subst same
    exact ⟨within.size, within.room⟩

/-! ### What is closed -/

/-- As many other sessions as are remembered were recorded as closed. -/
def Superseded (id : Id) (between : List (Event Id)) : Prop :=
  ∃ others : List Id, others.Nodup ∧ closedSessionsKept ≤ others.length ∧
    ∀ other ∈ others, other ≠ id ∧ .closed other ∈ between

/-- The id is on the list of closed sessions, and those behind it were recorded. -/
def Remembered (store : Store Id) (id : Id) (between : List (Event Id)) : Prop :=
  ∃ earlier later, store.closed = earlier ++ id :: later ∧
    ∀ other ∈ later, .closed other ∈ between

/-- Where an id is after its session was taken out. -/
def Accounted (store : Store Id) (id : Id) (between : List (Event Id)) : Prop :=
  id ∈ store.removing ∨ Remembered store id between ∨ Superseded id between

structure Closing (store : Store Id) : Prop where
  once : (store.closed ++ store.removing ++ store.sessions.keys).Nodup
  known : ∀ id ∈ store.closed ++ store.removing ++ store.sessions.keys, id ∈ store.issued
  lookedUp : ∀ id stage, store.admission = some (.reopen id, stage) →
    stage.pastLookUp = true → id ∉ store.sessions
  checked : ∀ id stage, store.admission = some (.reopen id, stage) →
    stage.pastCheck = true → id ∉ store.closed ∧ id ∉ store.removing
  accounted : ∀ id before between, store.log = before ++ .taken id :: between →
    Accounted store id between
  lasting : ∀ id before between after opened,
    store.log = before ++ .taken id :: between ++ .reopened id opened :: after →
    Superseded id between

omit [DecidableEq Id] in
theorem Superseded.mono {longer : List (Event Id)} (superseded : Superseded id between)
    (more : between ⊆ longer) : Superseded id longer := by
  obtain ⟨others, once, enough, recorded⟩ := superseded
  exact ⟨others, once, enough, fun other member =>
    ⟨(recorded other member).1, more (recorded other member).2⟩⟩

omit [DecidableEq Id] in
theorem Accounted.mono {longer : List (Event Id)} (accounted : Accounted store id between)
    (removing : next.removing = store.removing) (closed : next.closed = store.closed)
    (more : between ⊆ longer) : Accounted next id longer := by
  rcases accounted with pending | ⟨earlier, later, order, recorded⟩ | superseded
  · exact Or.inl (removing ▸ pending)
  · exact Or.inr (Or.inl ⟨earlier, later, closed ▸ order, fun other member =>
      more (recorded other member)⟩)
  · exact Or.inr (Or.inr (superseded.mono more))

omit [DecidableEq Id] in
/-- An event that a log ends with is the last one, or comes before the last one. -/
theorem split_concat {log before : List (Event Id)} {first last : Event Id}
    (split : log ++ [last] = before ++ first :: between) :
    (between = [] ∧ log = before ∧ last = first) ∨
      ∃ rest, between = rest ++ [last] ∧ log = before ++ first :: rest := by
  rcases List.eq_nil_or_concat between with rfl | ⟨rest, final, rfl⟩
  · obtain ⟨same, ending⟩ := List.append_inj' split rfl
    exact Or.inl ⟨rfl, same, List.singleton_inj.mp ending⟩
  · rw [List.concat_eq_append, ← List.cons_append, ← List.append_assoc] at split
    obtain ⟨same, ending⟩ := List.append_inj' split rfl
    obtain rfl := List.singleton_inj.mp ending
    exact Or.inr ⟨rest, List.concat_eq_append .., same⟩

omit [DecidableEq Id] in
/-- A logged event keeps every earlier account, and needs one of its own if a session was taken
out. -/
theorem accounted_note {event : Event Id} (log : next.log = store.log ++ [event])
    (earlier : ∀ id before between, store.log = before ++ .taken id :: between →
      Accounted next id (between ++ [event]))
    (own : ∀ id, event = .taken id → Accounted next id []) :
    ∀ id before between, next.log = before ++ .taken id :: between →
      Accounted next id between := by
  intro id before between split
  rw [log] at split
  rcases split_concat split with ⟨rfl, _, same⟩ | ⟨rest, rfl, order⟩
  · exact own id same
  · exact earlier id before rest order

omit [DecidableEq Id] in
/-- A logged event keeps what was shown of earlier ones, and needs a proof of its own if a
session was reopened. -/
theorem lasting_note (closing : Closing store) {event : Event Id}
    (log : next.log = store.log ++ [event])
    (own : ∀ id opened, event = .reopened id opened → ∀ before between,
      store.log = before ++ .taken id :: between → Superseded id between) :
    ∀ id before between after opened,
      next.log = before ++ .taken id :: between ++ .reopened id opened :: after →
      Superseded id between := by
  intro id before between after opened split
  rw [log] at split
  rcases split_concat split with ⟨rfl, order, same⟩ | ⟨rest, rfl, order⟩
  · exact own id opened same before between order
  · exact closing.lasting id before between rest opened order

omit [DecidableEq Id] in
theorem Closing.not_closed (closing : Closing store) (present : id ∈ store.sessions) :
    id ∉ store.closed ∧ id ∉ store.removing := by
  have apart := (List.nodup_append.mp closing.once).2.2
  constructor
  · intro listed
    exact apart id (List.mem_append_left _ listed) id present rfl
  · intro pending
    exact apart id (List.mem_append_right _ pending) id present rfl

omit [DecidableEq Id] in
/-- An id that is neither in a removal nor on the list was superseded since it was taken
out. -/
theorem Closing.superseded (closing : Closing store) (unlisted : id ∉ store.closed)
    (settled : id ∉ store.removing) {before : List (Event Id)}
    (split : store.log = before ++ .taken id :: between) : Superseded id between := by
  rcases closing.accounted id before between split with
    pending | ⟨earlier, later, order, _⟩ | superseded
  · exact absurd pending settled
  · refine absurd ?_ unlisted
    rw [order]
    exact List.mem_append_right _ (List.mem_cons_self ..)
  · exact superseded

omit [DecidableEq Id] in
theorem closing_new : Closing (Store.new : Store Id) where
  once := List.nodup_nil
  known := nofun
  lookedUp := nofun
  checked := nofun
  accounted id before between split := by simp [Store.new] at split
  lasting id before between after opened split := by simp [Store.new] at split

theorem Closing.quiet (closing : Closing store) (recorded : removalRecorded store act = true)
    (shrinks : Shrinks store next) (moves : Moves settings store next act) : Closing next := by
  constructor
  · rw [shrinks.closed, shrinks.removing]
    exact closing.once.sublist (shrinks.keys.append_left _)
  · rw [shrinks.closed, shrinks.removing, shrinks.issued]
    intro id member
    exact closing.known id ((shrinks.keys.append_left _).subset member)
  · intro id stage held past present
    rcases moves.lookUp id stage held past with absent | ⟨former, before, earlier⟩
    · exact absent (shrinks.mem present)
    · exact closing.lookedUp id former before earlier (shrinks.mem present)
  · rw [shrinks.closed, shrinks.removing]
    intro id stage held past
    rcases moves.check id stage held past with
      ⟨rfl, unlisted, former, before, _⟩ | ⟨former, before, earlier⟩
    · refine ⟨unlisted, ?_⟩
      simpa [removalRecorded, before] using recorded
    · exact closing.checked id former before earlier
  · rw [shrinks.log]
    intro id before between split
    exact (closing.accounted id before between split).mono shrinks.removing shrinks.closed
      (List.Subset.refl _)
  · rw [shrinks.log]
    exact closing.lasting

omit [DecidableEq Id] in
theorem Closing.found (closing : Closing store) (present : id ∈ store.sessions) :
    Closing (store.unlock.note (.reopened id false)) := by
  refine ⟨closing.once, closing.known, nofun, nofun, ?_, ?_⟩
  · refine accounted_note (show _ = store.log ++ _ from rfl) ?_ nofun
    intro other before between split
    exact (closing.accounted other before between split).mono rfl rfl
      (List.subset_append_left _ _)
  · refine lasting_note closing rfl ?_
    intro other opened same before between split
    obtain ⟨rfl, _⟩ := Event.reopened.inj same
    obtain ⟨unlisted, settled⟩ := closing.not_closed present
    exact closing.superseded unlisted settled split

/-- A session that is put in was nowhere before. -/
theorem Closing.insert_once (closing : Closing store) (absent : id ∉ store.closed)
    (settled : id ∉ store.removing) (now : Nat) :
    (store.closed ++ store.removing ++ (store.insertNew id now).sessions.keys).Nodup := by
  rw [insertNew_keys]
  have fewer : List.Sublist (store.closed ++ store.removing ++ store.sessions.keys.erase id)
      (store.closed ++ store.removing ++ store.sessions.keys) :=
    (List.erase_sublist).append_left _
  refine (List.perm_middle.nodup_iff).mpr (List.nodup_cons.mpr ⟨?_, closing.once.sublist fewer⟩)
  intro member
  rcases List.mem_append.mp member with earlier | kept
  · rcases List.mem_append.mp earlier with listed | pending
    · exact absent listed
    · exact settled pending
  · exact (List.Nodup.mem_erase_iff store.sessions.keys_nodup).mp kept |>.1 rfl

theorem Closing.insert_known (closing : Closing store) (id : Id) (now : Nat) :
    ∀ other ∈ store.closed ++ store.removing ++ (store.insertNew id now).sessions.keys,
      other ∈ (store.insertNew id now).issued := by
  intro other member
  rw [insertNew_keys] at member
  by_cases same : other = id
  · subst same
    exact List.mem_cons_self ..
  · refine List.mem_cons_of_mem _ (closing.known other ?_)
    rcases List.mem_append.mp member with earlier | kept
    · exact List.mem_append_left _ earlier
    · refine List.mem_append_right _ ?_
      cases List.mem_cons.mp kept with
      | inl own => exact absurd own same
      | inr former => exact List.mem_of_mem_erase former

theorem Closing.created (closing : Closing store) (fresh : id ∉ store.issued) (now : Nat) :
    Closing (store.insertNew id now).unlock := by
  have unknown : id ∉ store.closed ∧ id ∉ store.removing := by
    constructor
    · intro listed
      exact fresh (closing.known id (List.mem_append_left _ (List.mem_append_left _ listed)))
    · intro pending
      exact fresh (closing.known id (List.mem_append_left _ (List.mem_append_right _ pending)))
  refine ⟨closing.insert_once unknown.1 unknown.2 now, closing.insert_known id now, nofun, nofun,
    ?_, closing.lasting⟩
  intro other before between split
  exact (closing.accounted other before between split).mono rfl rfl (List.Subset.refl _)

theorem Closing.opened (closing : Closing store)
    (held : store.admission = some (.reopen id, .inserting)) (now : Nat) :
    Closing (((store.insertNew id now).goTo (.reopen id) .marking).note (.reopened id true)) := by
  obtain ⟨unlisted, settled⟩ := closing.checked id .inserting held rfl
  refine ⟨closing.insert_once unlisted settled now, closing.insert_known id now, ?_, ?_, ?_, ?_⟩
  · intro other stage after past
    obtain ⟨_, rfl⟩ := Prod.mk.inj (Option.some.inj after)
    cases past
  · intro other stage after past
    obtain ⟨_, rfl⟩ := Prod.mk.inj (Option.some.inj after)
    cases past
  · refine accounted_note (show _ = store.log ++ _ from rfl) ?_ nofun
    intro other before between split
    exact (closing.accounted other before between split).mono rfl rfl
      (List.subset_append_left _ _)
  · refine lasting_note closing rfl ?_
    intro other opened same before between split
    obtain ⟨rfl, _⟩ := Event.reopened.inj same
    exact closing.superseded unlisted settled split

theorem Closing.taken (closing : Closing store) (present : id ∈ store.sessions) :
    Closing ({ store.erase id with removing := store.removing ++ [id] }.note (.taken id)) := by
  have moved : List.Perm (store.closed ++ (store.removing ++ [id]) ++ (store.erase id).sessions.keys)
      (store.closed ++ store.removing ++ store.sessions.keys) := by
    rw [Store.erase, AList.keys_erase, ← List.append_assoc, List.append_assoc _ [id]]
    exact (List.perm_cons_erase present).symm.append_left _
  refine ⟨moved.nodup_iff.mpr closing.once, ?_, ?_, ?_, ?_, ?_⟩
  · intro other member
    exact closing.known other (moved.mem_iff.mp member)
  · intro other stage held past kept
    exact closing.lookedUp other stage held past ((shrinks_erase store id).mem kept)
  · intro other stage held past
    obtain ⟨unlisted, settled⟩ := closing.checked other stage held past
    refine ⟨unlisted, ?_⟩
    intro member
    cases List.mem_append.mp member with
    | inl pending => exact settled pending
    | inr last =>
      obtain rfl := List.mem_singleton.mp last
      exact closing.lookedUp other stage held (pastLookUp_of_pastCheck past) present
  · refine accounted_note (show _ = store.log ++ _ from rfl) ?_ ?_
    · intro other before between split
      rcases closing.accounted other before between split with pending | listed | superseded
      · exact Or.inl (List.mem_append_left _ pending)
      · obtain ⟨earlier, later, order, recorded⟩ := listed
        exact Or.inr (Or.inl ⟨earlier, later, order, fun item member =>
          List.mem_append_left _ (recorded item member)⟩)
      · exact Or.inr (Or.inr (superseded.mono (List.subset_append_left _ _)))
    · intro other same
      cases same
      exact Or.inl (List.mem_append_right _ (List.mem_singleton_self _))
  · exact lasting_note closing rfl nofun

/-- The list with the id at its end, and the removals without it. -/
theorem recorded_perm (pending : id ∈ store.removing) :
    List.Perm (store.closed ++ [id] ++ store.removing.erase id ++ store.sessions.keys)
      (store.closed ++ store.removing ++ store.sessions.keys) := by
  rw [List.append_assoc store.closed]
  exact ((List.perm_cons_erase pending).symm.append_left _).append_right _

theorem recorded_sublist (store : Store Id) (id : Id) :
    List.Sublist
      (Queues.push closedSessionsKept store.closed id ++ store.removing.erase id ++
        store.sessions.keys)
      (store.closed ++ [id] ++ store.removing.erase id ++ store.sessions.keys) :=
  (Queues.push_sublist.append_right _).append_right _

/-- An id at the head of a full list is superseded by those behind it and the one that is
recorded. -/
theorem Closing.superseded_of_head (closing : Closing store) {head : Id}
    (pending : id ∈ store.removing) {later : List Id} (order : store.closed = head :: later)
    (full : closedSessionsKept ≤ store.closed.length)
    (recorded : ∀ other ∈ later, .closed other ∈ between) :
    Superseded head (between ++ [.closed id]) := by
  have once := ((recorded_perm pending).nodup_iff.mpr closing.once).sublist
    ((List.sublist_append_left _ _).trans (List.sublist_append_left _ _))
  rw [order, List.cons_append] at once
  obtain ⟨headOnce, laterOnce⟩ := List.nodup_cons.mp once
  refine ⟨later ++ [id], laterOnce, ?_, ?_⟩
  · rw [List.length_append]
    rw [order] at full
    exact full
  · intro other member
    constructor
    · rintro rfl
      exact headOnce member
    · cases List.mem_append.mp member with
      | inl former => exact List.mem_append_left _ (recorded other former)
      | inr last =>
        obtain rfl := List.mem_singleton.mp last
        exact List.mem_append_right _ (List.mem_singleton_self _)

theorem Closing.closed (closing : Closing store) (pending : id ∈ store.removing) :
    Closing ({ store with
      removing := store.removing.erase id
      closed := Queues.push closedSessionsKept store.closed id }.note (.closed id)) := by
  have moved := recorded_perm pending
  have fewer := recorded_sublist store id
  refine ⟨(moved.nodup_iff.mpr closing.once).sublist fewer, ?_, closing.lookedUp, ?_, ?_, ?_⟩
  · intro other member
    exact closing.known other (moved.mem_iff.mp (fewer.subset member))
  · intro other stage held past
    obtain ⟨unlisted, settled⟩ := closing.checked other stage held past
    constructor
    · intro listed
      cases Queues.mem_of_mem_push listed with
      | inl former => exact unlisted former
      | inr own => exact settled (own ▸ pending)
    · intro member
      exact settled (List.mem_of_mem_erase member)
  · refine accounted_note (show _ = store.log ++ _ from rfl) ?_ nofun
    intro other before between split
    rcases closing.accounted other before between split with
      removed | ⟨earlier, later, order, recorded⟩ | superseded
    · by_cases own : other = id
      · subst own
        exact Or.inr (Or.inl ⟨_, [], rfl, nofun⟩)
      · exact Or.inl ((List.mem_erase_of_ne own).mpr removed)
    · cases @Queues.push_split _ closedSessionsKept _ id _ _ _ order with
      | inl kept =>
        obtain ⟨front, shifted⟩ := kept
        refine Or.inr (Or.inl ⟨front, later ++ [id], shifted, ?_⟩)
        intro item member
        cases List.mem_append.mp member with
        | inl former => exact List.mem_append_left _ (recorded item former)
        | inr last =>
          obtain rfl := List.mem_singleton.mp last
          exact List.mem_append_right _ (List.mem_singleton_self _)
      | inr full =>
        obtain ⟨reached, rfl⟩ := full
        exact Or.inr (Or.inr (closing.superseded_of_head pending order reached recorded))
    · exact Or.inr (Or.inr (superseded.mono (List.subset_append_left _ _)))
  · exact lasting_note closing rfl nofun

theorem step_closing (recorded : removalRecorded store act = true) (closing : Closing store)
    (stepped : step settings store act = some next) : Closing next := by
  cases step_change stepped with
  | quiet shrinks moves => exact closing.quiet recorded shrinks moves
  | found id present same => exact same ▸ closing.found present
  | created id now fresh held same => exact same ▸ closing.created fresh now
  | opened id now held same => exact same ▸ closing.opened held now
  | taken id present same => exact same ▸ closing.taken present
  | closed id pending same => exact same ▸ closing.closed pending

/-- There are never more sessions than allowed. In a run in which no id is looked up among the
closed ones between the sections of its removal, a session that was taken out is not reopened
before as many others as are remembered were closed. -/
theorem closed_sessions_stay_closed (settings : Settings Id) (trace : List (Act Id))
    (store : Store Id) (ran : Runs.exec (step settings) Store.new trace = some store) :
    store.size ≤ settings.maxSessions ∧
    (Runs.Admitted (step settings) (fun store act => removalRecorded store act = true)
      Store.new trace →
      ∀ id before between after opened,
        store.log = before ++ .taken id :: between ++ .reopened id opened :: after →
        ∃ others : List Id, others.Nodup ∧ closedSessionsKept ≤ others.length ∧
          ∀ other ∈ others, other ≠ id ∧ .closed other ∈ between) := by
  constructor
  · have within : Within settings store := by
      refine Runs.exec_invariant (step settings) (fun _ _ => True) (Within settings) ?_
        trace Store.new store ⟨Nat.zero_le _, nofun⟩ (.of_forall (fun _ _ => trivial) _) ran
      intro store act next _ within stepped
      exact step_within within stepped
    exact within.size
  · intro recorded
    have closing : Closing store := by
      refine Runs.exec_invariant (step settings)
        (fun store act => removalRecorded store act = true) Closing ?_
        trace Store.new store closing_new recorded ran
      intro store act next recorded closing stepped
      exact step_closing recorded closing stepped
    exact closing.lasting

def sampleSettings : Settings Nat := ⟨1800, 1, fun _ => true⟩

/-- A session is created, closed by its client, and asked for again; another one takes its
place. -/
def closedSession : List (Act Nat) :=
  [.createSession, .proceed, .proceed, .count 0, .insert 0 7, .remove 7, .recordClosed 7,
    .reopenSession 7, .proceed, .proceed, .lookUp, .checkClosed,
    .createSession, .proceed, .proceed, .count 0, .insert 5 8]

theorem closed_sessions_stay_closed_sample : ∃ store,
    Runs.exec (step sampleSettings) Store.new closedSession = some store ∧
    store.sessions.keys = [8] ∧ store.closed = [7] ∧ store.log = [.taken 7, .closed 7] ∧
    store.size ≤ 1 ∧ ∀ id before between after opened,
      store.log = before ++ .taken id :: between ++ .reopened id opened :: after →
      ∃ others : List Nat, others.Nodup ∧ closedSessionsKept ≤ others.length ∧
        ∀ other ∈ others, other ≠ id ∧ .closed other ∈ between := by
  refine ⟨_, rfl, by decide, by decide, by decide, ?_⟩
  have shown := closed_sessions_stay_closed sampleSettings closedSession _ rfl
  exact ⟨shown.1, shown.2 (by decide)⟩

/-- A session is reopened between the sections of its removal. -/
def reopenedInBetween : List (Act Nat) :=
  [.createSession, .proceed, .proceed, .count 0, .insert 0 7, .remove 7,
    .reopenSession 7, .proceed, .proceed, .lookUp, .checkClosed, .proceed, .proceed, .count 0,
    .insert 1 7, .mark, .recordClosed 7]

theorem closed_session_reopened : ∃ store,
    Runs.exec (step sampleSettings) Store.new reopenedInBetween = some store ∧
    store.sessions.keys = [7] ∧ store.log = [.taken 7, .reopened 7 true, .closed 7] ∧
    ¬ ∀ id before between after opened,
      store.log = before ++ .taken id :: between ++ .reopened id opened :: after →
      ∃ others : List Nat, others.Nodup ∧ closedSessionsKept ≤ others.length ∧
        ∀ other ∈ others, other ≠ id ∧ .closed other ∈ between := by
  refine ⟨_, rfl, by decide, by decide, ?_⟩
  intro lasting
  obtain ⟨others, _, enough, recorded⟩ := lasting 7 [] [] [.closed 7] true (by decide)
  cases others with
  | nil => exact absurd enough (by decide)
  | cons other rest => cases (recorded other (List.mem_cons_self ..)).2

end Plug.Sessions
