import Plug.PowerCuts
import Plug.Runs

/-!
# Files that are replaced whole

Seven writers replace a file by renaming a temporary one to it. They differ in what they do around
the rename: `replaceFile` is all of them. `replaced_whole` follows a file through any run of
replacements that fail, are interrupted or are cut off from power, and `acknowledged_kept` adds what
the OAuth manager does with the outcome: it accepts no change while it is uncertain what the disk
has.
-/

namespace Plug.Replacement

open PowerCuts Runs

inductive Name where
  | replaced
  | temporary (uuid : Nat)
deriving DecidableEq

/-- What a writer does around the rename. -/
structure Steps where
  createNew : Bool
  /-- A temporary file that could not be written is removed. -/
  removesUnwritten : Bool
  setsPermissionsFirst : Bool
  removesUnrenamed : Bool
  setsPermissionsLast : Bool
  /-- How often a sync of the directory is tried. -/
  directorySyncs : Nat

structure Circumstances where
  uuid : Nat
  opens : Bool
  /-- What a write that fails has written. -/
  partly : Option (List UInt8)
  syncs : Bool
  setsPermissions : Bool
  renames : Bool
  removes : Bool
  directorySyncs : List Bool

inductive Outcome where
  | failed
  /-- The file is replaced; the directory is not synced. -/
  | renamed
  | durable
deriving DecidableEq

def Circumstances.discard (circumstances : Circumstances) (removed : Bool)
    (directory : Directory Name) : List (Directory Name) :=
  if removed && circumstances.removes then
    [directory.put (.temporary circumstances.uuid) none]
  else []

/-- The directories a replacement passes through, the last one first, and its outcome. -/
def replaceFile (steps : Steps) (circumstances : Circumstances) (bytes : List UInt8)
    (directory : Directory Name) : List (Directory Name) × Outcome :=
  let temp := Name.temporary circumstances.uuid
  if !circumstances.opens || (steps.createNew && (directory.read temp).isSome) then ([], .failed)
  else
    let opened := directory.put temp (some ⟨[], false⟩)
    match circumstances.partly with
    | some part =>
      let written := opened.fill temp ⟨part, false⟩
      (circumstances.discard steps.removesUnwritten written ++ [written, opened], .failed)
    | none =>
      let written := opened.fill temp ⟨bytes, false⟩
      if !circumstances.syncs then
        (circumstances.discard steps.removesUnwritten written ++ [written, opened], .failed)
      else
        let synced := written.fill temp ⟨bytes, true⟩
        if steps.setsPermissionsFirst && !circumstances.setsPermissions then
          (circumstances.discard true synced ++ [synced, written, opened], .failed)
        else if !circumstances.renames then
          (circumstances.discard steps.removesUnrenamed synced ++ [synced, written, opened],
            .failed)
        else
          let renamed := synced.rename temp .replaced
          if (steps.setsPermissionsLast && !circumstances.setsPermissions) ||
              true ∉ circumstances.directorySyncs.take steps.directorySyncs then
            ([renamed, synced, written, opened], .renamed)
          else ([renamed.sync, renamed, synced, written, opened], .durable)

/-- `persist_bytes` of the downstream OAuth state. -/
def persistBytes : Steps := ⟨true, true, true, true, false, 3⟩

/-- `commit` of the watched events, and of the Slack events. -/
def commit : Steps := ⟨true, false, false, false, false, 1⟩

def persistConfigAtomic : Steps := ⟨true, false, false, true, true, 1⟩

/-- `FileStore::write` of the secrets. -/
def writeSecrets : Steps := ⟨true, true, false, true, false, 0⟩

def saveLoginPath : Steps := ⟨true, true, false, true, false, 0⟩

/-- `save_json_file` of the upstream credentials. -/
def saveJsonFile : Steps := ⟨false, false, false, true, false, 0⟩

variable {steps : Steps} {circumstances : Circumstances} {bytes : List UInt8}
  {directory passed : Directory Name} {outcome : Outcome}

/-- What a replacement makes of the file's own entry. -/
inductive Made (entry : Entry) (bytes : List UInt8) : Outcome → Entry → Prop where
  | failed : Made entry bytes .failed entry
  | renamed : Made entry bytes .renamed (entry.put (some ⟨bytes, true⟩))
  | durable : Made entry bytes .durable ⟨some ⟨bytes, true⟩, []⟩

/-- Where the file was not reached, the temporary one may have been removed. -/
theorem discard_replaced {removed : Bool} {before : List (Directory Name)} {entry : Entry}
    (same : directory .replaced = entry)
    (passes : ∀ passed ∈ before, passed .replaced = entry) :
    ∀ passed ∈ circumstances.discard removed directory ++ before, passed .replaced = entry := by
  intro passed member
  rcases List.mem_append.mp member with member | member
  · unfold Circumstances.discard at member
    split at member
    · cases List.mem_singleton.mp member
      simpa using same
    · cases member
  · exact passes passed member

theorem made_unreached {passes : List (Directory Name)}
    (same : ∀ passed ∈ passes, passed .replaced = directory .replaced) :
    Made (directory .replaced) bytes .failed (passes.headD directory .replaced) ∧
      ∀ passed ∈ passes, ∃ outcome, Made (directory .replaced) bytes outcome
        (passed .replaced) := by
  constructor
  · cases passes with
    | nil => exact .failed
    | cons last before =>
      rw [List.headD_cons, same last List.mem_cons_self]
      exact .failed
  · intro passed member
    rw [same passed member]
    exact ⟨_, .failed⟩

section
variable (steps : Steps) (circumstances : Circumstances) (bytes : List UInt8)

/-- The file's entry through a replacement, and at its end. -/
theorem replaceFile_made (directory : Directory Name) :
    Made (directory .replaced) bytes (replaceFile steps circumstances bytes directory).2
      ((replaceFile steps circumstances bytes directory).1.headD directory .replaced) ∧
    ∀ passed ∈ (replaceFile steps circumstances bytes directory).1,
      ∃ outcome, Made (directory .replaced) bytes outcome (passed .replaced) := by
  unfold replaceFile
  dsimp only
  split
  · exact made_unreached (by simp)
  · split
    · exact made_unreached (discard_replaced (by simp) (by simp))
    · split
      · exact made_unreached (discard_replaced (by simp) (by simp))
      · split
        · exact made_unreached (discard_replaced (by simp) (by simp))
        · split
          · exact made_unreached (discard_replaced (by simp) (by simp))
          · have atRename := @Made.renamed (directory .replaced) bytes
            have atSync := @Made.durable (directory .replaced) bytes
            split
            · refine ⟨by simpa using atRename, List.forall_mem_cons.mpr ⟨?_, ?_⟩⟩
              · exact ⟨_, by simpa using atRename⟩
              · exact (made_unreached (by simp)).2
            · refine ⟨by simpa [Directory.sync, Entry.put] using atSync, ?_⟩
              refine List.forall_mem_cons.mpr ⟨?_, List.forall_mem_cons.mpr ⟨?_, ?_⟩⟩
              · exact ⟨_, by simpa [Directory.sync, Entry.put] using atSync⟩
              · exact ⟨_, by simpa using atRename⟩
              · exact (made_unreached (by simp)).2

end

/-! ### Runs of replacements -/

inductive Event where
  | replaced (bytes : List UInt8) (outcome : Outcome)
  | interrupted (bytes : List UInt8)
  /-- The directory is synced, and the file is found as it then is. -/
  | synced (found : Option (List UInt8))

/-- The directory of a file, and what happened to the file, newest first. -/
structure Files where
  directory : Directory Name
  log : List Event

def Files.new : Files := ⟨.empty, []⟩

def Files.replace (files : Files) (steps : Steps) (circumstances : Circumstances)
    (bytes : List UInt8) : Files × Outcome :=
  let (passed, outcome) := replaceFile steps circumstances bytes files.directory
  (⟨passed.headD files.directory, .replaced bytes outcome :: files.log⟩, outcome)

/-- The process ends during a replacement, by a power cut or without one. -/
def Files.interrupt (files : Files) (steps : Steps) (circumstances : Circumstances)
    (bytes : List UInt8) (moment : Nat) (cut : Option (Cut Name)) : Files :=
  let passed := (replaceFile steps circumstances bytes files.directory).1
  let reached := passed.getD moment files.directory
  ⟨cut.elim reached reached.powerCut, .interrupted bytes :: files.log⟩

def Files.sync (files : Files) : Files :=
  ⟨files.directory.sync, .synced (files.directory.read .replaced) :: files.log⟩

def Files.powerCut (files : Files) (cut : Cut Name) : Files :=
  { files with directory := files.directory.powerCut cut }

/-- What the file may be found to be. -/
def kept : List Event → List (Option (List UInt8))
  | [] => [none]
  | .replaced _ .failed :: earlier => kept earlier
  | .replaced bytes .renamed :: earlier => some bytes :: kept earlier
  | .replaced bytes .durable :: _ => [some bytes]
  | .interrupted bytes :: earlier => some bytes :: kept earlier
  | .synced found :: _ => [found]

/-- What was found was kept. -/
def AllFound : List Event → Prop
  | [] => True
  | .synced found :: earlier => found ∈ kept earlier ∧ AllFound earlier
  | _ :: earlier => AllFound earlier

structure Sound (files : Files) : Prop where
  survives : Survives (files.directory .replaced) (· ∈ kept files.log)
  found : AllFound files.log

variable {files : Files}

theorem replace_log (files : Files) (steps : Steps) (circumstances : Circumstances)
    (bytes : List UInt8) :
    (files.replace steps circumstances bytes).1.log =
      .replaced bytes (files.replace steps circumstances bytes).2 :: files.log :=
  rfl

theorem sound_new : Sound .new := by
  refine ⟨?_, trivial⟩
  intro version member
  cases List.mem_singleton.mp member
  exact ⟨nofun, List.mem_cons_self⟩

theorem made_survives {entry made : Entry} {log : List Event}
    (survives : Survives entry (· ∈ kept log)) (makes : Made entry bytes outcome made) :
    Survives made (· ∈ kept (.replaced bytes outcome :: log)) := by
  cases makes with
  | failed => exact survives
  | renamed =>
    apply (survives.mono fun _ => List.mem_cons_of_mem _).put rfl
    exact List.mem_cons_self
  | durable =>
    intro version member
    cases List.mem_singleton.mp member
    exact ⟨by simp, List.mem_cons_self⟩

theorem sound_replace (sound : Sound files) (steps : Steps) (circumstances : Circumstances)
    (bytes : List UInt8) : Sound (files.replace steps circumstances bytes).1 :=
  ⟨made_survives sound.survives (replaceFile_made steps circumstances bytes files.directory).1,
    sound.found⟩

theorem sound_interrupt (sound : Sound files) (steps : Steps) (circumstances : Circumstances)
    (bytes : List UInt8) (moment : Nat) (cut : Option (Cut Name)) :
    Sound (files.interrupt steps circumstances bytes moment cut) := by
  refine ⟨?_, sound.found⟩
  obtain ⟨_, passes⟩ := replaceFile_made steps circumstances bytes files.directory
  unfold Files.interrupt
  generalize (replaceFile steps circumstances bytes files.directory).1 = passed at passes
  have reached : Survives (passed.getD moment files.directory .replaced)
      (· ∈ kept (.interrupted bytes :: files.log)) := by
    rw [List.getD_eq_getElem?_getD]
    cases at_moment : passed[moment]? with
    | none => exact sound.survives.mono fun _ => List.mem_cons_of_mem _
    | some directory =>
      obtain ⟨outcome, makes⟩ := passes directory (List.mem_of_getElem? at_moment)
      apply (made_survives sound.survives makes).mono
      intro found member
      cases outcome with
      | failed => exact List.mem_cons_of_mem _ member
      | renamed => exact member
      | durable =>
        cases List.mem_singleton.mp member
        exact List.mem_cons_self
  cases cut with
  | none => exact reached
  | some cut => exact reached.powerCut cut

theorem sound_sync (sound : Sound files) : Sound files.sync := by
  refine ⟨sound.survives.sync.mono ?_, sound.survives.read, sound.found⟩
  rintro found rfl
  exact List.mem_cons_self

theorem sound_powerCut (sound : Sound files) (cut : Cut Name) : Sound (files.powerCut cut) :=
  ⟨sound.survives.powerCut cut, sound.found⟩

inductive Act where
  | replace (steps : Steps) (circumstances : Circumstances) (bytes : List UInt8)
  | interrupt (steps : Steps) (circumstances : Circumstances) (bytes : List UInt8) (moment : Nat)
      (cut : Option (Cut Name))
  | sync
  | powerCut (cut : Cut Name)

def step (files : Files) : Act → Option Files
  | .replace steps circumstances bytes => some (files.replace steps circumstances bytes).1
  | .interrupt steps circumstances bytes moment cut =>
    some (files.interrupt steps circumstances bytes moment cut)
  | .sync => some files.sync
  | .powerCut cut => some (files.powerCut cut)

theorem sound_step {act : Act} {next : Files} (sound : Sound files)
    (stepped : step files act = some next) : Sound next := by
  cases act with
  | replace steps circumstances bytes =>
    cases stepped
    exact sound_replace sound steps circumstances bytes
  | interrupt steps circumstances bytes moment cut =>
    cases stepped
    exact sound_interrupt sound steps circumstances bytes moment cut
  | sync =>
    cases stepped
    exact sound_sync sound
  | powerCut cut =>
    cases stepped
    exact sound_powerCut sound cut

theorem found_kept {later earlier : List Event} {found : Option (List UInt8)}
    (all : AllFound (later ++ .synced found :: earlier)) : found ∈ kept earlier := by
  induction later with
  | nil => exact all.1
  | cons event later ih =>
    cases event with
    | synced _ => exact ih all.2
    | replaced _ _ => exact ih all
    | interrupted _ => exact ih all

/-- In every run of replacements, whichever steps fail and wherever they are interrupted: the file
is found whole, and as none that the last durable replacement or sync has settled against. -/
theorem replaced_whole (trace : List Act) (final : Files) (ran : exec step .new trace = some final) :
    final.directory.read .replaced ∈ kept final.log ∧
    ∀ later found earlier, final.log = later ++ .synced found :: earlier →
      found ∈ kept earlier := by
  have sound := exec_invariant step (fun _ _ => True) Sound
    (fun _ _ _ _ sound stepped => sound_step sound stepped) trace .new final sound_new
    (Admitted.of_forall (fun _ _ => trivial) _) ran
  refine ⟨sound.survives.read, fun later found earlier split => ?_⟩
  have all := sound.found
  rw [split] at all
  exact found_kept all

/-- Nothing fails. -/
def allSucceeds (uuid : Nat) : Circumstances := ⟨uuid, true, none, true, true, true, true, [true]⟩

def sampleActs : List Act :=
  [.replace persistConfigAtomic (allSucceeds 0) [1], .replace commit (allSucceeds 1) [2],
    .replace saveJsonFile (allSucceeds 2) [3],
    .interrupt writeSecrets (allSucceeds 3) [4] 0 (some ⟨fun _ => 1, fun _ => [5]⟩),
    .interrupt saveLoginPath (allSucceeds 4) [6] 1 none]

theorem replaced_whole_cut : ∃ final, exec step .new sampleActs = some final ∧
    final.directory.read .replaced ∈ [some [6], some [4], some [3], some [2]] :=
  ⟨_, rfl, (replaced_whole sampleActs _ rfl).1⟩

/-! ### The OAuth manager's commits -/

section
variable {State : Type}

/-- The manager's state is live while its process runs. -/
structure Manager (State : Type) where
  files : Files
  live : Option State
  durabilityDegraded : Bool

inductive ManagerAct (State : Type) where
  | ensureDurable (synced : Bool)
  | commitState (next : State) (synced : Bool) (circumstances : Circumstances)
  | interrupted (next : State) (synced : Bool) (circumstances : Circumstances) (moment : Nat)
      (cut : Option (Cut Name))
  /-- The process ends between commits. -/
  | stopped (cut : Option (Cut Name))
  | new (now : Nat) (synced : List Bool)

def Manager.ensureDurable (manager : Manager State) (synced : Bool) : Manager State :=
  if manager.durabilityDegraded && synced then
    { manager with
      files := manager.files.sync
      durabilityDegraded := false }
  else manager

def Manager.commitState (manager : Manager State) (json : State → List UInt8) (next : State)
    (synced : Bool) (circumstances : Circumstances) : Manager State :=
  let checked := manager.ensureDurable synced
  if checked.durabilityDegraded then checked
  else
    let (files, outcome) := checked.files.replace persistBytes circumstances (json next)
    match outcome with
    | .failed => { checked with files := files }
    | .renamed => ⟨files, some next, true⟩
    | .durable => ⟨files, some next, false⟩

def Manager.interrupt (manager : Manager State) (json : State → List UInt8) (next : State)
    (synced : Bool) (circumstances : Circumstances) (moment : Nat) (cut : Option (Cut Name)) :
    Manager State :=
  let checked := manager.ensureDurable synced
  if checked.durabilityDegraded then ⟨checked.files, none, false⟩
  else
    ⟨checked.files.interrupt persistBytes circumstances (json next) moment cut, none, false⟩

/-- `new_with_state_path_and_lock`. -/
def Manager.start (manager : Manager State) (load : Nat → Option (List UInt8) → Option State)
    (now : Nat) (synced : List Bool) : Manager State :=
  if true ∉ synced.take 3 then manager
  else
    { manager with
      files := manager.files.sync
      live := load now (manager.files.directory.read .replaced) }

/-- `json` and `load` are the encoding of a state and what `load_persisted_state` reads, and
refuses. -/
def Manager.step (json : State → List UInt8) (load : Nat → Option (List UInt8) → Option State)
    (manager : Manager State) : ManagerAct State → Option (Manager State)
  | .ensureDurable synced => manager.live.map fun _ => manager.ensureDurable synced
  | .commitState next synced circumstances =>
    manager.live.map fun _ => manager.commitState json next synced circumstances
  | .interrupted next synced circumstances moment cut =>
    manager.live.map fun _ => manager.interrupt json next synced circumstances moment cut
  | .stopped cut => some ⟨cut.elim manager.files manager.files.powerCut, none, false⟩
  | .new now synced =>
    if manager.live.isSome then none else some (manager.start load now synced)

/-- Two versions are kept while a commit is uncertain, and one otherwise. -/
structure Certain (manager : Manager State) : Prop where
  sound : Sound manager.files
  two : (kept manager.files.log).length ≤ 2
  one : manager.live.isSome = true → manager.durabilityDegraded = false →
    (kept manager.files.log).length = 1

variable {manager : Manager State} {json : State → List UInt8} {next : State}

theorem certain_ensureDurable (certain : Certain manager) (synced : Bool) :
    Certain (manager.ensureDurable synced) := by
  unfold Manager.ensureDurable
  split
  · exact ⟨sound_sync certain.sound, Nat.le_succ 1, fun _ _ => rfl⟩
  · exact certain

theorem ensureDurable_live (manager : Manager State) (synced : Bool) :
    (manager.ensureDurable synced).live = manager.live := by
  unfold Manager.ensureDurable
  split <;> rfl

theorem certain_commitState (certain : Certain manager) (running : manager.live.isSome = true)
    (synced : Bool) (circumstances : Circumstances) :
    Certain (manager.commitState json next synced circumstances) := by
  have checks := certain_ensureDurable certain synced
  have live := (ensureDurable_live manager synced).symm ▸ running
  unfold Manager.commitState
  generalize manager.ensureDurable synced = checked at checks live
  dsimp only
  split
  · exact checks
  · rename_i durable
    have one := checks.one live (Bool.not_eq_true _ ▸ durable)
    have sound := sound_replace checks.sound persistBytes circumstances (json next)
    have log := replace_log checked.files persistBytes circumstances (json next)
    generalize checked.files.replace persistBytes circumstances (json next) = replaced at sound log
    obtain ⟨files, outcome⟩ := replaced
    dsimp only at log
    cases outcome with
    | failed =>
      refine ⟨sound, ?_, fun _ _ => ?_⟩
      · simpa [log, kept] using checks.two
      · simpa [log, kept] using one
    | renamed => exact ⟨sound, by simp [log, kept, one], nofun⟩
    | durable => exact ⟨sound, by simp [log, kept], fun _ _ => by simp [log, kept]⟩

theorem certain_interrupt (certain : Certain manager) (running : manager.live.isSome = true)
    (synced : Bool) (circumstances : Circumstances) (moment : Nat) (cut : Option (Cut Name)) :
    Certain (manager.interrupt json next synced circumstances moment cut) := by
  have checks := certain_ensureDurable certain synced
  have live := (ensureDurable_live manager synced).symm ▸ running
  unfold Manager.interrupt
  generalize manager.ensureDurable synced = checked at checks live
  dsimp only
  split
  · exact ⟨checks.sound, checks.two, nofun⟩
  · rename_i durable
    have one := checks.one live (Bool.not_eq_true _ ▸ durable)
    refine ⟨sound_interrupt checks.sound persistBytes circumstances (json next) moment cut, ?_,
      nofun⟩
    simp [Files.interrupt, kept, one]

theorem certain_step {load : Nat → Option (List UInt8) → Option State}
    {act : ManagerAct State} {after : Manager State} (certain : Certain manager)
    (stepped : manager.step json load act = some after) : Certain after := by
  cases act with
  | ensureDurable synced =>
    obtain ⟨live, _, rfl⟩ := Option.map_eq_some_iff.mp stepped
    exact certain_ensureDurable certain synced
  | commitState next synced circumstances =>
    obtain ⟨live, running, rfl⟩ := Option.map_eq_some_iff.mp stepped
    exact certain_commitState certain (running ▸ rfl) synced circumstances
  | interrupted next synced circumstances moment cut =>
    obtain ⟨live, running, rfl⟩ := Option.map_eq_some_iff.mp stepped
    exact certain_interrupt certain (running ▸ rfl) synced circumstances moment cut
  | stopped cut =>
    cases stepped
    cases cut with
    | none => exact ⟨certain.sound, certain.two, nofun⟩
    | some cut => exact ⟨sound_powerCut certain.sound cut, certain.two, nofun⟩
  | new now synced =>
    rw [Manager.step] at stepped
    split at stepped
    · cases stepped
    · cases stepped
      unfold Manager.start
      split
      · exact certain
      · exact ⟨sound_sync certain.sound, Nat.le_succ 1, fun _ _ => rfl⟩

theorem certain_new : Certain (⟨.new, none, false⟩ : Manager State) :=
  ⟨sound_new, Nat.le_succ 1, nofun⟩

/-- In every run of commits, power cuts and starts: a start finds the state that was last
acknowledged or found, or the one that a later commit was writing when it failed or was interrupted,
and there is at most one such. While durability is not degraded there is none. -/
theorem acknowledged_kept (json : State → List UInt8)
    (load : Nat → Option (List UInt8) → Option State) (trace : List (ManagerAct State))
    (final : Manager State) (ran : exec (Manager.step json load) ⟨.new, none, false⟩ trace =
      some final) :
    (∀ later found earlier, final.files.log = later ++ .synced found :: earlier →
      found ∈ kept earlier) ∧
    (kept final.files.log).length ≤ 2 ∧
    (final.live.isSome = true → final.durabilityDegraded = false →
      kept final.files.log = [final.files.directory.read .replaced]) := by
  have certain := exec_invariant (Manager.step json load) (fun _ _ => True) Certain
    (fun _ _ _ _ certain stepped => certain_step certain stepped) trace _ final certain_new
    (Admitted.of_forall (fun _ _ => trivial) _) ran
  refine ⟨fun later found earlier split => ?_, certain.two, fun running durable => ?_⟩
  · have all := certain.sound.found
    rw [split] at all
    exact found_kept all
  · obtain ⟨only, same⟩ := List.length_eq_one_iff.mp (certain.one running durable)
    have found := certain.sound.survives.read
    rw [same] at found ⊢
    rw [List.mem_singleton.mp found]

def sampleManagerActs : List (ManagerAct (List UInt8)) :=
  [.new 0 [false, true], .commitState [1] true (allSucceeds 0),
    .interrupted [2] true (allSucceeds 1) 1 (some ⟨fun _ => 1, fun _ => [3]⟩), .new 1 [true]]

theorem acknowledged_kept_cut : ∃ final,
    exec (Manager.step id fun _ found => some (found.getD [])) ⟨.new, none, false⟩
      sampleManagerActs = some final ∧
    final.live = some [1] ∧ (kept final.files.log).length ≤ 2 :=
  ⟨_, rfl, by decide, (acknowledged_kept id (fun _ found => some (found.getD []))
    sampleManagerActs _ rfl).2.1⟩

end

end Plug.Replacement
