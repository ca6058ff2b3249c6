import Plug.ClientRegistry

/-!
# The two maps of the registry agree

While a call is on its way the maps may differ, and each difference is owed to a call that will
settle it: a session that its client is not mapped to is about to be removed as replaced, and a
client is mapped to a session that is about to be added, or is being taken down. When no call is
left nothing is owed.
-/

namespace Plug.Registry

open Tables Runs

/-- The session a registration is for. -/
def Call.registers : Call → Option String
  | .mapping _ session => some session
  | .replacing _ session _ => some session
  | .adding _ session => some session
  | .registered _ session => some session
  | _ => none

/-- The session and the client that a call is about. -/
def Call.about : Call → Option (String × String)
  | .mapping client session => some (session, client)
  | .replacing client session _ => some (session, client)
  | .adding client session => some (session, client)
  | .registered client session => some (session, client)
  | .checking session client => some (session, client)
  | .unmapping session client => some (session, client)
  | _ => none

/-- The session is to be removed as replaced. -/
def Replaced (state : State) (session : String) : Prop :=
  ∃ client other, Call.replacing client other session ∈ state.calls

/-- The session that a client is mapped to is still to be added, or taken down. -/
def Moving (state : State) (client session : String) : Prop :=
  (∃ replaced, Call.replacing client session replaced ∈ state.calls) ∨
    Call.adding client session ∈ state.calls ∨ Call.checking session client ∈ state.calls ∨
    Call.unmapping session client ∈ state.calls

/-- The call has changed the sessions, or may have, and is to publish their count. -/
def Call.unpublished : Call → Bool
  | .mapping _ _ => false
  | .removing _ => false
  | _ => true

structure Sound (state : State) : Prop where
  /-- A client is mapped to sessions made for it. -/
  owned : ∀ client session, get state.clientSessions client = some session →
    get state.issued session = some client
  sessions : ∀ session client, get state.sessions session = some client →
    get state.issued session = some client
  about : ∀ call ∈ state.calls, ∀ session client, call.about = some (session, client) →
    get state.issued session = some client
  live : ∀ session client, get state.sessions session = some client →
    get state.clientSessions client = some session ∨ Replaced state session
  mapped : ∀ client session, get state.clientSessions client = some session →
    get state.sessions session = some client ∨ Moving state client session
  /-- A session that is made is not known yet. -/
  unused : ∀ client session, Call.mapping client session ∈ state.calls →
    (∀ other, get state.clientSessions other ≠ some session) ∧
      get state.sessions session = none ∧ ¬ Replaced state session
  adding : ∀ client session, Call.adding client session ∈ state.calls →
    get state.clientSessions client = some session ∨ Replaced state session
  replacing : ∀ client session replaced, Call.replacing client session replaced ∈ state.calls →
    (get state.clientSessions client = some session ∨ Replaced state session) ∧
      (∀ other, get state.clientSessions other ≠ some replaced) ∧
      ∃ client, get state.issued replaced = some client
  checking : ∀ session client, Call.checking session client ∈ state.calls →
    get state.sessions session = none
  unmapping : ∀ session client, Call.unmapping session client ∈ state.calls →
    get state.sessions session = none ∧ ∀ other, get state.clientSessions client = some other →
      other = session
  registers : (state.calls.filterMap Call.registers).Nodup
  inFlight : ∀ call ∈ state.calls, ∀ session, call.registers = some session →
    session ∉ state.returned
  returned : ∀ call ∈ state.calls, ∀ session, call.deregisters = some session →
    session ∈ state.returned
  known : ∀ session ∈ state.returned, ∃ client, get state.issued session = some client
  keys : Distinct state.sessions
  count : (∀ call ∈ state.calls, call.unpublished = false) → state.count = state.sessions.length

theorem get_insert (table : List (String × String)) (key value other : String) :
    get (insert table key value) other = if other = key then some value else get table other := by
  split
  · rename_i same
    rw [same, get_insert_self]
  · rename_i differs
    exact get_insert_of_ne differs

theorem get_remove (table : List (String × String)) (key other : String) :
    get (remove table key) other = if other = key then none else get table other := by
  split
  · rename_i same
    rw [same, get_remove_self]
  · rename_i differs
    exact get_remove_of_ne differs

attribute [local grind =] get_insert get_remove
attribute [local grind] Call.registers Call.about Call.deregisters Call.adds Call.unpublished

theorem sound_new : Sound State.new := by
  constructor <;> simp [State.new, Tables.get, Distinct, Replaced]

variable {state : State}

variable {session client : String}

/-- A session that was not made is in neither map. -/
theorem fresh_absent (sound : Sound state) (fresh : Tables.get state.issued session = none) :
    (∀ client, Tables.get state.clientSessions client ≠ some session) ∧
      Tables.get state.sessions session = none ∧ ¬ Replaced state session := by
  refine ⟨?_, ?_, ?_⟩
  · intro client found
    have made := sound.owned client session found
    simp [fresh] at made
  · apply Option.eq_none_iff_forall_ne_some.mpr
    intro client found
    have made := sound.sessions session client found
    simp [fresh] at made
  · rintro ⟨client, other, member⟩
    obtain ⟨-, -, owner, made⟩ := sound.replacing _ _ _ member
    simp [fresh] at made

theorem registers_about {call : Call} (own : call.registers = some session) :
    ∃ client, call.about = some (session, client) := by
  cases call with
  | mapping client other =>
    cases own
    exact ⟨client, rfl⟩
  | replacing client other replaced =>
    cases own
    exact ⟨client, rfl⟩
  | adding client other =>
    cases own
    exact ⟨client, rfl⟩
  | registered client other =>
    cases own
    exact ⟨client, rfl⟩
  | removing other => cases own
  | checking other client => cases own
  | unmapping other client => cases own
  | deregistered other => cases own

/-- No other call registers the same session. -/
theorem alone (sound : Sound state) {call : Call} (member : call ∈ state.calls)
    (own : call.registers = some session) :
    ∀ other ∈ state.calls.erase call, other.registers ≠ some session := by
  intro other within same
  have distinct := sound.registers
  rw [(List.perm_cons_erase member).filterMap _ |>.nodup_iff, List.filterMap_cons_some own,
    List.nodup_cons] at distinct
  exact distinct.1 (List.mem_filterMap.mpr ⟨other, within, same⟩)

/-- A call in the place of another that registers the same session, or none. -/
theorem registers_next (sound : Sound state) {call next : Call} (member : call ∈ state.calls)
    (own : next.registers = call.registers ∨ next.registers = none) :
    ((next :: state.calls.erase call).filterMap Call.registers).Nodup := by
  have distinct := sound.registers
  rw [(List.perm_cons_erase member).filterMap _ |>.nodup_iff] at distinct
  rw [List.filterMap_cons] at distinct ⊢
  rcases own with same | none
  · rw [same]
    exact distinct
  · rw [none]
    cases own : call.registers with
    | none => simpa [own] using distinct
    | some session => exact (List.nodup_cons.mp (by simpa [own] using distinct)).2

theorem registers_erase (sound : Sound state) (call : Call) :
    ((state.calls.erase call).filterMap Call.registers).Nodup :=
  sound.registers.sublist (List.erase_sublist.filterMap _)

theorem sound_register (sound : Sound state) (fresh : Tables.get state.issued session = none) :
    Sound { state with
        issued := insert state.issued session client
        calls := .mapping client session :: state.calls } := by
  obtain ⟨unmapped, missing, kept⟩ := fresh_absent sound fresh
  have others : ∀ call ∈ state.calls, call.registers ≠ some session := by
    intro call within same
    obtain ⟨owner, about⟩ := registers_about same
    have made := sound.about call within session owner about
    simp [fresh] at made
  constructor
  · have owned := sound.owned
    grind
  · have sessions := sound.sessions
    grind
  · have about := sound.about
    grind
  · have live := sound.live
    grind [Replaced]
  · have mapped := sound.mapped
    grind [Moving]
  · have unused := sound.unused
    grind [Replaced]
  · have adding := sound.adding
    grind [Replaced]
  · have replacing := sound.replacing
    grind [Replaced]
  · have checking := sound.checking
    grind
  · have unmapping := sound.unmapping
    grind
  · simp only [List.filterMap_cons, Call.registers, List.nodup_cons]
    refine ⟨?_, sound.registers⟩
    rintro again
    obtain ⟨call, within, same⟩ := List.mem_filterMap.mp again
    exact others call within same
  · have inFlight := sound.inFlight
    have known := sound.known
    grind
  · have returned := sound.returned
    grind
  · have known := sound.known
    grind
  · exact sound.keys
  · have count := sound.count
    grind

theorem sound_deregister (sound : Sound state) (known : session ∈ state.returned) :
    Sound { state with calls := .removing session :: state.calls } := by
  constructor
  · exact sound.owned
  · exact sound.sessions
  · have about := sound.about
    grind
  · have live := sound.live
    grind [Replaced]
  · have mapped := sound.mapped
    grind [Moving]
  · have unused := sound.unused
    grind [Replaced]
  · have adding := sound.adding
    grind [Replaced]
  · have replacing := sound.replacing
    grind [Replaced]
  · have checking := sound.checking
    grind
  · have unmapping := sound.unmapping
    grind
  · simp only [List.filterMap_cons, Call.registers]
    exact sound.registers
  · have inFlight := sound.inFlight
    grind
  · have returned := sound.returned
    grind
  · exact sound.known
  · exact sound.keys
  · have count := sound.count
    grind

theorem sound_mapping (sound : Sound state) (member : .mapping client session ∈ state.calls)
    (timely : ∀ call ∈ state.calls, ∀ session, call ≠ .unmapping session client) :
    Sound ({ state with calls := state.calls.erase (.mapping client session) }.advance
      (.mapping client session)) := by
  have made := sound.about _ member session client rfl
  have others := alone sound member rfl
  obtain ⟨unmapped, missing, kept⟩ := sound.unused client session member
  simp only [State.advance]
  cases former : Tables.get state.clientSessions client with
  | none =>
    constructor
    · have owned := sound.owned
      grind
    · exact sound.sessions
    · have about := sound.about
      grind
    · have live := sound.live
      grind [Replaced]
    · have mapped := sound.mapped
      grind [Moving]
    · have unused := sound.unused
      grind [Replaced]
    · have adding := sound.adding
      grind [Replaced]
    · have replacing := sound.replacing
      grind [Replaced]
    · have checking := sound.checking
      grind
    · have unmapping := sound.unmapping
      grind
    · exact registers_next sound member (Or.inl rfl)
    · have inFlight := sound.inFlight
      grind
    · have returned := sound.returned
      grind
    · exact sound.known
    · exact sound.keys
    · have count := sound.count
      grind
  | some replaced =>
    have own := sound.owned client replaced former
    have differs : replaced ≠ session := fun same => unmapped client (same ▸ former)
    constructor
    · have owned := sound.owned
      grind
    · exact sound.sessions
    · have about := sound.about
      grind
    · have live := sound.live
      grind [Replaced]
    · have mapped := sound.mapped
      grind [Moving]
    · have unused := sound.unused
      grind [Replaced]
    · have adding := sound.adding
      grind [Replaced]
    · have replacing := sound.replacing
      have owned := sound.owned
      grind [Replaced]
    · have checking := sound.checking
      grind
    · have unmapping := sound.unmapping
      grind
    · exact registers_next sound member (Or.inl rfl)
    · have inFlight := sound.inFlight
      grind
    · have returned := sound.returned
      grind
    · exact sound.known
    · exact sound.keys
    · have count := sound.count
      grind

theorem sound_replacing (sound : Sound state) {replaced : String}
    (member : .replacing client session replaced ∈ state.calls)
    (timely : ∀ call ∈ state.calls, call.adds ≠ some replaced) :
    Sound ({ state with calls := state.calls.erase (.replacing client session replaced) }.advance
      (.replacing client session replaced)) := by
  have made := sound.about _ member session client rfl
  have others := alone sound member rfl
  obtain ⟨current, unmapped, owner, own⟩ := sound.replacing client session replaced member
  simp only [State.advance]
  constructor
  · exact sound.owned
  · have sessions := sound.sessions
    grind
  · have about := sound.about
    grind
  · have live := sound.live
    grind [Replaced]
  · have mapped := sound.mapped
    grind [Moving]
  · have unused := sound.unused
    grind [Replaced]
  · have adding := sound.adding
    grind [Replaced]
  · have replacing := sound.replacing
    grind [Replaced]
  · have checking := sound.checking
    grind
  · have unmapping := sound.unmapping
    grind
  · exact registers_next sound member (Or.inl rfl)
  · have inFlight := sound.inFlight
    grind
  · have returned := sound.returned
    grind
  · exact sound.known
  · exact sound.keys.filter _
  · intro published
    simp [Call.unpublished] at published

theorem sound_adding (sound : Sound state) (member : .adding client session ∈ state.calls) :
    Sound ({ state with calls := state.calls.erase (.adding client session) }.advance
      (.adding client session)) := by
  have made := sound.about _ member session client rfl
  have others := alone sound member rfl
  have current := sound.adding client session member
  have absent := sound.inFlight _ member session rfl
  have returned := sound.returned
  simp only [State.advance]
  constructor
  · exact sound.owned
  · have sessions := sound.sessions
    grind
  · have about := sound.about
    grind
  · have live := sound.live
    grind [Replaced]
  · intro owner held found
    by_cases same : held = session
    · have own := sound.owned owner held found
      rw [same, made] at own
      exact Or.inl (by rw [same, get_insert_self, own])
    · rw [get_insert_of_ne same]
      cases sound.mapped owner held found with
      | inl there => exact Or.inl there
      | inr moving => grind [Moving]
  · have unused := sound.unused
    grind [Replaced]
  · have adding := sound.adding
    grind [Replaced]
  · have replacing := sound.replacing
    grind [Replaced]
  · have checking := sound.checking
    grind
  · have unmapping := sound.unmapping
    grind
  · exact registers_next sound member (Or.inl rfl)
  · have inFlight := sound.inFlight
    grind
  · have returned := sound.returned
    grind
  · exact sound.known
  · exact sound.keys.insert _ _
  · intro published
    simp [Call.unpublished] at published

theorem sound_registered (sound : Sound state) (member : .registered client session ∈ state.calls) :
    Sound ({ state with calls := state.calls.erase (.registered client session) }.advance
      (.registered client session)) := by
  have made := sound.about _ member session client rfl
  have others := alone sound member rfl
  simp only [State.advance]
  constructor
  · exact sound.owned
  · exact sound.sessions
  · have about := sound.about
    grind
  · have live := sound.live
    grind [Replaced]
  · have mapped := sound.mapped
    grind [Moving]
  · have unused := sound.unused
    grind [Replaced]
  · have adding := sound.adding
    grind [Replaced]
  · have replacing := sound.replacing
    grind [Replaced]
  · have checking := sound.checking
    grind
  · have unmapping := sound.unmapping
    grind
  · exact registers_erase sound _
  · have inFlight := sound.inFlight
    grind
  · have returned := sound.returned
    grind
  · have known := sound.known
    grind
  · exact sound.keys
  · have count := sound.count
    grind

theorem sound_removing (sound : Sound state) (member : .removing session ∈ state.calls) :
    Sound ({ state with calls := state.calls.erase (.removing session) }.advance
      (.removing session)) := by
  have handed := sound.returned _ member session rfl
  simp only [State.advance]
  cases held : Tables.get state.sessions session with
  | none =>
    constructor
    · exact sound.owned
    · exact sound.sessions
    · have about := sound.about
      grind
    · have live := sound.live
      grind [Replaced]
    · have mapped := sound.mapped
      grind [Moving]
    · have unused := sound.unused
      grind [Replaced]
    · have adding := sound.adding
      grind [Replaced]
    · have replacing := sound.replacing
      grind [Replaced]
    · have checking := sound.checking
      grind
    · have unmapping := sound.unmapping
      grind
    · exact registers_erase sound _
    · have inFlight := sound.inFlight
      grind
    · have returned := sound.returned
      grind
    · exact sound.known
    · exact sound.keys
    · have count := sound.count
      grind
  | some client =>
    have made := sound.sessions session client held
    constructor
    · exact sound.owned
    · have sessions := sound.sessions
      grind
    · have about := sound.about
      grind
    · have live := sound.live
      grind [Replaced]
    · have mapped := sound.mapped
      have owned := sound.owned
      grind [Moving]
    · have unused := sound.unused
      grind [Replaced]
    · have adding := sound.adding
      grind [Replaced]
    · have replacing := sound.replacing
      grind [Replaced]
    · have checking := sound.checking
      grind
    · have unmapping := sound.unmapping
      grind
    · exact registers_next sound member (Or.inr rfl)
    · have inFlight := sound.inFlight
      grind
    · have returned := sound.returned
      grind
    · exact sound.known
    · exact sound.keys.filter _
    · intro published
      simp [Call.unpublished] at published

theorem sound_checking (sound : Sound state) (member : .checking session client ∈ state.calls) :
    Sound ({ state with calls := state.calls.erase (.checking session client) }.advance
      (.checking session client)) := by
  have made := sound.about _ member session client rfl
  have handed := sound.returned _ member session rfl
  have down := sound.checking session client member
  simp only [State.advance]
  by_cases own : Tables.get state.clientSessions client = some session
  · rw [if_pos own]
    constructor
    · exact sound.owned
    · exact sound.sessions
    · have about := sound.about
      grind
    · have live := sound.live
      grind [Replaced]
    · have mapped := sound.mapped
      grind [Moving]
    · have unused := sound.unused
      grind [Replaced]
    · have adding := sound.adding
      grind [Replaced]
    · have replacing := sound.replacing
      grind [Replaced]
    · have checking := sound.checking
      grind
    · have unmapping := sound.unmapping
      grind
    · exact registers_next sound member (Or.inr rfl)
    · have inFlight := sound.inFlight
      grind
    · have returned := sound.returned
      grind
    · exact sound.known
    · exact sound.keys
    · intro published
      simp [Call.unpublished] at published
  · rw [if_neg own]
    constructor
    · exact sound.owned
    · exact sound.sessions
    · have about := sound.about
      grind
    · have live := sound.live
      grind [Replaced]
    · have mapped := sound.mapped
      have owned := sound.owned
      grind [Moving]
    · have unused := sound.unused
      grind [Replaced]
    · have adding := sound.adding
      grind [Replaced]
    · have replacing := sound.replacing
      grind [Replaced]
    · have checking := sound.checking
      grind
    · have unmapping := sound.unmapping
      grind
    · exact registers_next sound member (Or.inr rfl)
    · have inFlight := sound.inFlight
      grind
    · have returned := sound.returned
      grind
    · exact sound.known
    · exact sound.keys
    · intro published
      simp [Call.unpublished] at published

theorem sound_unmapping (sound : Sound state) (member : .unmapping session client ∈ state.calls) :
    Sound ({ state with calls := state.calls.erase (.unmapping session client) }.advance
      (.unmapping session client)) := by
  have made := sound.about _ member session client rfl
  have handed := sound.returned _ member session rfl
  have inFlight := sound.inFlight
  obtain ⟨down, own⟩ := sound.unmapping session client member
  simp only [State.advance]
  constructor
  · have owned := sound.owned
    grind
  · exact sound.sessions
  · have about := sound.about
    grind
  · have live := sound.live
    grind [Replaced]
  · have mapped := sound.mapped
    grind [Moving]
  · have unused := sound.unused
    grind [Replaced]
  · have adding := sound.adding
    grind [Replaced]
  · have replacing := sound.replacing
    grind [Replaced]
  · have checking := sound.checking
    grind
  · have unmapping := sound.unmapping
    grind
  · exact registers_next sound member (Or.inr rfl)
  · have inFlight := sound.inFlight
    grind
  · have returned := sound.returned
    grind
  · exact sound.known
  · exact sound.keys
  · intro published
    simp [Call.unpublished] at published

theorem sound_deregistered (sound : Sound state) :
    Sound ({ state with calls := state.calls.erase (.deregistered session) }.advance
      (.deregistered session)) := by
  simp only [State.advance]
  constructor
  · exact sound.owned
  · exact sound.sessions
  · have about := sound.about
    grind
  · have live := sound.live
    grind [Replaced]
  · have mapped := sound.mapped
    grind [Moving]
  · have unused := sound.unused
    grind [Replaced]
  · have adding := sound.adding
    grind [Replaced]
  · have replacing := sound.replacing
    grind [Replaced]
  · have checking := sound.checking
    grind
  · have unmapping := sound.unmapping
    grind
  · exact registers_erase sound _
  · have inFlight := sound.inFlight
    grind
  · have returned := sound.returned
    grind
  · exact sound.known
  · exact sound.keys
  · have count := sound.count
    grind

/-! ### Runs -/

theorem sound_step {state next : State} {act : Act} (sound : Sound state) (timely : Timely state act)
    (stepped : step state act = some next) : Sound next := by
  cases act with
  | register client session =>
    simp only [step] at stepped
    split at stepped
    · cases stepped
    · rename_i free
      cases stepped
      have fresh : Tables.get state.issued session = none := by
        apply get_eq_none.mpr
        intro owner member
        exact free (containsKey_iff.mpr ⟨owner, member⟩)
      exact sound_register sound fresh
  | deregister session =>
    simp only [step] at stepped
    split at stepped
    · rename_i known
      cases stepped
      exact sound_deregister sound known
    · cases stepped
  | advance call =>
    simp only [step] at stepped
    split at stepped
    · rename_i member
      cases stepped
      cases call with
      | mapping client session =>
        apply sound_mapping sound member
        rintro call within other rfl
        have free := timely _ within
        simp [Act.waitsFor] at free
      | replacing client session replaced =>
        apply sound_replacing sound member
        intro call within
        have free := timely _ within
        simpa [Act.waitsFor] using free
      | adding client session => exact sound_adding sound member
      | registered client session => exact sound_registered sound member
      | removing session => exact sound_removing sound member
      | checking session client => exact sound_checking sound member
      | unmapping session client => exact sound_unmapping sound member
      | deregistered session => exact sound_deregistered sound
    · cases stepped

theorem sound_run {trace : List Act} {final : State} (timely : Admitted step Timely .new trace)
    (ran : exec step .new trace = some final) : Sound final :=
  exec_invariant step Timely Sound
    (fun _ _ _ timely sound stepped => sound_step sound timely stepped) trace .new final sound_new
    timely ran

/-- When no call is left, nothing is owed. -/
theorem agrees (sound : Sound state) (quiet : state.calls = []) : Agrees state := by
  have kept (session : String) : ¬ Replaced state session := by
    rintro ⟨client, other, member⟩
    rw [quiet] at member
    cases member
  have settled (client session : String) : ¬ Moving state client session := by
    simp [Moving, quiet]
  have live (session client : String) (held : Tables.get state.sessions session = some client) :
      Tables.get state.clientSessions client = some session :=
    (sound.live session client held).resolve_right (kept session)
  constructor
  · intro client session
    constructor
    · exact fun found => (sound.mapped client session found).resolve_right (settled client session)
    · exact live session client
  · intro client session other held again
    have same := live session client held
    rw [live other client again] at same
    exact (Option.some.inj same).symm
  · exact sound.keys
  · apply sound.count
    simp [quiet]

theorem spares {next : State} {act : Act} (sound : Sound state)
    (stepped : step state act = some next) : Spares state act next := by
  rintro call session rfl own other client differs
  simp only [step] at stepped
  split at stepped
  · rename_i member
    cases stepped
    cases call with
    | mapping client session => cases own
    | replacing client session replaced => cases own
    | adding client session => cases own
    | registered client session => cases own
    | removing removed =>
      obtain rfl := Option.some.inj own
      simp only [State.advance]
      cases held : Tables.get state.sessions removed with
      | none => exact ⟨id, id⟩
      | some owner => exact ⟨fun found => (get_remove_of_ne differs).trans found, id⟩
    | checking checked owner => exact ⟨id, id⟩
    | unmapping unmapped owner =>
      obtain rfl := Option.some.inj own
      refine ⟨id, ?_⟩
      intro found
      have apart : client ≠ owner := by
        rintro rfl
        exact differs ((sound.unmapping unmapped client member).2 other found)
      exact (get_remove_of_ne apart).trans found
    | deregistered published => exact ⟨id, id⟩
  · cases stepped

/-- In a run whose steps are timely the maps agree whenever no call is left, and no deregistration
touches another session. -/
theorem registry_consistent (trace : List Act) (final : State)
    (timely : Admitted step Timely .new trace) (ran : exec step .new trace = some final) :
    (final.calls = [] → Agrees final) ∧
      ∀ act next, step final act = some next → Spares final act next := by
  have sound := sound_run timely ran
  exact ⟨agrees sound, fun _ _ stepped => spares sound stepped⟩

/-- A client registers, with all the operations of the call. -/
def registering (client session : String) : List Act :=
  [.register client session, .advance (.mapping client session),
    .advance (.adding client session), .advance (.registered client session)]

/-- A client reconnects, and then its old connection is torn down. -/
def reconnecting : List Act :=
  registering "client" "first" ++
    [.register "client" "second", .advance (.mapping "client" "second"),
      .advance (.replacing "client" "second" "first"), .advance (.adding "client" "second"),
      .advance (.registered "client" "second"), .deregister "first", .advance (.removing "first")]

theorem registry_consistent_reconnect :
    ∃ final, exec step .new reconnecting = some final ∧ final.calls = [] ∧ Agrees final := by
  obtain ⟨final, ran⟩ : ∃ final, exec step .new reconnecting = some final :=
    Option.isSome_iff_exists.mp (by decide +kernel)
  have quiet : (exec step .new reconnecting).all (fun final => final.calls.isEmpty) = true := by
    decide +kernel
  rw [ran] at quiet
  have calls : final.calls = [] := by simpa using quiet
  exact ⟨final, ran, calls, (registry_consistent reconnecting final (by decide +kernel) ran).1 calls⟩

/-- The client reconnects between the check and the removal of its mapping. -/
def overtaken : List Act :=
  registering "client" "first" ++
    [.deregister "first", .advance (.removing "first"), .advance (.checking "first" "client"),
      .register "client" "second", .advance (.mapping "client" "second"),
      .advance (.replacing "client" "second" "first"), .advance (.adding "client" "second"),
      .advance (.registered "client" "second"), .advance (.unmapping "first" "client"),
      .advance (.deregistered "first")]

/-- The new session is live, and its client is not mapped to it. -/
theorem replacement_unmapped :
    ∃ final, exec step .new overtaken = some final ∧ final.calls = [] ∧ ¬ Agrees final := by
  refine ⟨⟨[("second", "client")], [], 1, [], [("second", "client"), ("first", "client")],
    ["second", "first"]⟩, by decide +kernel, rfl, ?_⟩
  intro agrees
  have mapped := (agrees.maps "client" "second").mpr (by decide +kernel)
  revert mapped
  decide +kernel

end Plug.Registry
