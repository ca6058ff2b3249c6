import Plug.Runs
import Mathlib.Data.List.Basic

/-!
# The watcher of the configuration file

The debouncer puts the paths of changed files of the directory into a channel of 16; when it is
full the path is skipped. The watcher takes them out one by one, leaves out those of other files,
and else loads the configuration and waits until it is applied. A path stands for its file name,
which is all that the watcher looks at.
-/

namespace Plug.ConfigWatcher

def channelSize : Nat := 16

inductive DebouncedEventKind where
  | any
  /-- Writes go on. -/
  | anyContinuous
deriving DecidableEq

inductive Phase where
  | idle
  /-- A path of the configuration file was taken out. -/
  | changed
  | reloading
  | stopped
deriving DecidableEq

/-- What happened: a debounced event for the configuration file, with the number of paths in the
channel at the time, or a `load_config` that begins. -/
inductive Entry where
  | event (kind : DebouncedEventKind) (waiting : Nat)
  | load
deriving DecidableEq

/-- `log` only records, newest last. -/
structure State where
  channel : List (List Char)
  phase : Phase
  log : List Entry
deriving DecidableEq

def State.new : State := ⟨[], .idle, []⟩

inductive Act where
  | event (kind : DebouncedEventKind) (filename : List Char)
  /-- The watcher takes the next path. -/
  | receive
  | load (parses : Bool)
  | reloaded
  | cancelled

/-- The callback of the debouncer; the path is dropped if the channel is full. -/
def trySend (channel : List (List Char)) (filename : List Char) : List (List Char) :=
  if channel.length < channelSize then channel ++ [filename] else channel

def step (configFilename : List Char) (state : State) : Act → Option State
  | .event kind filename =>
    some { state with
      channel := if kind = .any ∧ state.phase ≠ .stopped then trySend state.channel filename
        else state.channel
      log := if filename = configFilename then state.log ++ [.event kind state.channel.length]
        else state.log }
  | .receive =>
    match state.phase, state.channel with
    | .idle, filename :: rest =>
      some { state with
        channel := rest
        phase := if filename = configFilename then .changed else .idle }
    | _, _ => none
  | .load parses =>
    match state.phase with
    | .changed =>
      some { state with
        phase := if parses then .reloading else .idle
        log := state.log ++ [.load] }
    | _ => none
  | .reloaded =>
    match state.phase with
    | .reloading => some { state with phase := .idle }
    | _ => none
  | .cancelled =>
    match state.phase with
    | .idle => some { state with channel := [], phase := .stopped }
    | _ => none

/-- The watcher waits, and there is nothing in the channel. -/
def State.quiescent (state : State) : Bool :=
  state.channel.isEmpty && decide (state.phase = .idle)

/-- The path of the event was put into the channel. -/
def Entry.put : Entry → Bool
  | .event kind waiting => decide (kind = .any) && decide (waiting < channelSize)
  | .load => false

/-- No load has begun since an event whose path was put into the channel. -/
def Outstanding (log : List Entry) : Prop :=
  ∃ before entry after, log = before ++ entry :: after ∧ entry.put = true ∧ .load ∉ after

theorem not_outstanding_load (log : List Entry) : ¬ Outstanding (log ++ [.load]) := by
  rintro ⟨before, entry, after, same, put, absent⟩
  obtain rfl | ⟨front, last, rfl⟩ := List.eq_nil_or_concat' after
  · obtain ⟨-, last⟩ := List.append_inj' same rfl
    obtain rfl := (List.cons.inj last).1
    cases put
  · rw [← List.cons_append, ← List.append_assoc] at same
    obtain ⟨-, last⟩ := List.append_inj' same rfl
    obtain rfl := (List.cons.inj last).1
    exact absent (List.mem_append_right _ List.mem_cons_self)

theorem outstanding_concat {log : List Entry} {entry : Entry}
    (outstanding : Outstanding (log ++ [entry])) : Outstanding log ∨ entry.put = true := by
  obtain ⟨before, found, after, same, put, absent⟩ := outstanding
  obtain rfl | ⟨front, last, rfl⟩ := List.eq_nil_or_concat' after
  · obtain ⟨-, last⟩ := List.append_inj' same rfl
    exact Or.inr ((List.cons.inj last).1 ▸ put)
  · rw [← List.cons_append, ← List.append_assoc] at same
    obtain ⟨rfl, -⟩ := List.append_inj' same rfl
    exact Or.inl ⟨before, found, front, rfl, put, fun member =>
      absent (List.mem_append_left _ member)⟩

section Steps

variable {configFilename : List Char} {state next : State} {act : Act}

/-- As long as no load has begun, the path of the configuration file is in the channel, or the
watcher is about to load it. -/
def Underway (configFilename : List Char) (state : State) : Prop :=
  state.phase ≠ .stopped → Outstanding state.log →
    configFilename ∈ state.channel ∨ state.phase = .changed

theorem mem_trySend {channel : List (List Char)} {filename other : List Char}
    (member : other ∈ channel) : other ∈ trySend channel filename := by
  unfold trySend
  split
  · exact List.mem_append_left _ member
  · exact member

theorem underway_step (underway : Underway configFilename state)
    (stepped : step configFilename state act = some next) : Underway configFilename next := by
  cases act with
  | event kind filename =>
    cases stepped
    intro running outstanding
    have running : state.phase ≠ .stopped := running
    by_cases own : filename = configFilename
    · have outstanding : Outstanding (state.log ++ [.event kind state.channel.length]) := by
        rwa [if_pos own] at outstanding
      obtain former | put := outstanding_concat outstanding
      · refine (underway running former).imp_left fun member => ?_
        show configFilename ∈ if _ then _ else _
        split
        · exact mem_trySend member
        · exact member
      · obtain ⟨any, room⟩ := Bool.and_eq_true_iff.mp put
        left
        show configFilename ∈ if _ then _ else _
        rw [if_pos ⟨of_decide_eq_true any, running⟩, trySend, if_pos (of_decide_eq_true room), own]
        exact List.mem_append_right _ List.mem_cons_self
    · have outstanding : Outstanding state.log := by
        rwa [if_neg own] at outstanding
      refine (underway running outstanding).imp_left fun member => ?_
      show configFilename ∈ if _ then _ else _
      split
      · exact mem_trySend member
      · exact member
  | receive =>
    rw [step] at stepped
    split at stepped
    · rename_i filename rest idle first
      cases stepped
      intro _ outstanding
      obtain member | changed := underway (idle ▸ nofun) outstanding
      · rw [first] at member
        obtain same | later := List.mem_cons.mp member
        · exact Or.inr (if_pos same.symm)
        · exact Or.inl later
      · rw [idle] at changed
        cases changed
    · cases stepped
  | load parses =>
    rw [step] at stepped
    split at stepped
    · cases stepped
      intro _ outstanding
      exact absurd outstanding (not_outstanding_load state.log)
    · cases stepped
  | reloaded =>
    rw [step] at stepped
    split at stepped
    · rename_i reloading
      cases stepped
      intro _ outstanding
      refine Or.inl ((underway (reloading ▸ nofun) outstanding).resolve_right ?_)
      rw [reloading]
      nofun
    · cases stepped
  | cancelled =>
    rw [step] at stepped
    split at stepped
    · cases stepped
      intro running
      exact absurd rfl running
    · cases stepped

end Steps

/-- In every quiescent state a load has begun after each event for the configuration file that
came when there was room in the channel. -/
theorem loaded_after_events (configFilename : List Char) (trace : List Act) (final : State)
    (ran : Runs.exec (step configFilename) .new trace = some final)
    (quiescent : final.quiescent = true) (before after : List Entry) (waiting : Nat)
    (room : waiting < channelSize) (event : final.log = before ++ .event .any waiting :: after) :
    .load ∈ after := by
  have underway : Underway configFilename final := by
    refine Runs.exec_invariant (step configFilename) (fun _ _ => True) (Underway configFilename)
      (fun _ _ _ _ underway stepped => underway_step underway stepped) trace .new final ?_
      (Runs.Admitted.of_forall (fun _ _ => trivial) _) ran
    rintro - ⟨before, entry, after, none, -⟩
    exact absurd none.symm (List.append_ne_nil_of_right_ne_nil before (List.cons_ne_nil _ _))
  obtain ⟨empty, idle⟩ := Bool.and_eq_true_iff.mp quiescent
  have idle : final.phase = .idle := of_decide_eq_true idle
  by_contra absent
  have put : (Entry.event .any waiting).put = true := by
    simp [Entry.put, room]
  obtain member | changed := underway (idle ▸ nofun) ⟨before, _, after, event, put, absent⟩
  · rw [List.isEmpty_iff.mp empty] at member
    cases member
  · rw [idle] at changed
    cases changed

def saved : List Act := [.event .any "config.toml".toList, .receive, .load true, .reloaded]

theorem loaded_after_events_saved :
    Runs.exec (step "config.toml".toList) .new saved =
        some ⟨[], .idle, [.event .any 0, .load]⟩ ∧ Entry.load ∈ [Entry.load] :=
  ⟨by decide, loaded_after_events "config.toml".toList saved ⟨[], .idle, [.event .any 0, .load]⟩
    (by decide) rfl [] [.load] 0 (by decide) rfl⟩

/-- Sixteen files beside the configuration change, and then the configuration. -/
def savedInBurst : List Act :=
  List.replicate 16 (.event .any "notes".toList) ++ .event .any "config.toml".toList ::
    List.replicate 16 .receive

/-- The watcher waits with nothing in the channel, and has not loaded the configuration. -/
theorem change_missed : ∃ final,
    Runs.exec (step "config.toml".toList) .new savedInBurst = some final ∧
      final.quiescent = true ∧ final.log = [.event .any 16] := by
  have shown : ((Runs.exec (step "config.toml".toList) .new savedInBurst).map fun final =>
      (final.quiescent, final.log)) = some (true, [.event .any 16]) := by
    decide +kernel
  obtain ⟨final, ran, seen⟩ := Option.map_eq_some_iff.mp shown
  exact ⟨final, ran, (Prod.mk.inj seen).1, (Prod.mk.inj seen).2⟩

end Plug.ConfigWatcher
