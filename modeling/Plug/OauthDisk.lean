import Plug.FileReplacement
import Plug.OauthRuns

/-!
# The OAuth manager's file on the disk

The manager's system keeps its file and the one that was durable before. `follows_disk` says that
this is what the disk comes to.
-/

namespace Plug.DownstreamOauth

open PowerCuts Replacement

variable {lib : Passkeys}

/-- How the system names the outcomes. -/
def outcomeOf : Outcome → PersistOutcome
  | .failed => .failed
  | .renamed => .uncertain
  | .durable => .durable

inductive Move (lib : Passkeys) where
  | ensureDurable (synced : Bool)
  | commit (next : DownstreamOauthState lib) (circumstances : Circumstances lib)
      (replacement : Replacement.Circumstances)
  | powerLoss (cut : Cut Name) (now : Nat)

/-- The system and its disk: the disk decides how a commit ends and what a power loss leaves. -/
def follow (json : DownstreamOauthState lib → List UInt8)
    (load : Nat → Option (List UInt8) → Option (DownstreamOauthState lib))
    (both : System lib × Manager (DownstreamOauthState lib)) :
    Move lib → System lib × Manager (DownstreamOauthState lib)
  | .ensureDurable synced => (ensureDurable both.1 synced, both.2.ensureDurable synced)
  | .commit next circumstances replacement =>
    let checked := both.2.ensureDurable circumstances.synced
    let outcome := (checked.files.replace persistBytes replacement (json next)).2
    ((commitState { circumstances with persist := outcomeOf outcome } both.1 next []
      fun committed => (.failed .persistence, committed)).2,
      both.2.commitState json next circumstances.synced replacement)
  | .powerLoss cut now =>
    let files := both.2.files.powerCut cut
    (restart both.1 true (files.directory.read .replaced = both.1.file.map json) now,
      Manager.start ⟨files, none, false⟩ load now [true])

/-- The disk has the file, and while durability is degraded perhaps the one before. -/
structure Backed (json : DownstreamOauthState lib → List UInt8)
    (both : System lib × Manager (DownstreamOauthState lib)) : Prop where
  sound : Sound both.2.files
  degraded : both.2.durabilityDegraded = both.1.durabilityDegraded
  read : both.2.files.directory.read .replaced = both.1.file.map json
  kept : ∀ found ∈ kept both.2.files.log,
    found = both.1.file.map json ∨ found = both.1.durableFile.map json
  settled : both.1.durabilityDegraded = false → both.1.durableFile = both.1.file

variable {json : DownstreamOauthState lib → List UInt8}
  {load : Nat → Option (List UInt8) → Option (DownstreamOauthState lib)}
  {system : System lib} {manager : Manager (DownstreamOauthState lib)}

theorem backed_ensureDurable (backed : Backed json (system, manager)) (synced : Bool) :
    Backed json (ensureDurable system synced, manager.ensureDurable synced) := by
  have degraded : manager.durabilityDegraded = system.durabilityDegraded := backed.degraded
  unfold ensureDurable Manager.ensureDurable
  rw [degraded]
  split
  · refine ⟨sound_sync backed.sound, rfl, backed.read, ?_, fun _ => rfl⟩
    intro found member
    cases List.mem_singleton.mp member
    exact Or.inl backed.read
  · exact backed

theorem made_read {entry made : Entry} {bytes : List UInt8} {outcome : Outcome}
    (makes : Made entry bytes outcome made) :
    made.current.map File.contents =
      if outcome = .failed then entry.current.map File.contents else some bytes := by
  cases makes <;> simp [Entry.put]

theorem replace_read (files : Files) (steps : Steps) (circumstances : Replacement.Circumstances)
    (bytes : List UInt8) :
    (files.replace steps circumstances bytes).1.directory.read .replaced =
      if (files.replace steps circumstances bytes).2 = .failed then
        files.directory.read .replaced
      else some bytes :=
  made_read (replaceFile_made steps circumstances bytes files.directory).1

theorem backed_commit (backed : Backed json (system, manager)) (next : DownstreamOauthState lib)
    (circumstances : Circumstances lib) (replacement : Replacement.Circumstances) :
    Backed json (follow json load (system, manager)
      (.commit next circumstances replacement)) := by
  have checks := backed_ensureDurable backed circumstances.synced
  unfold follow commitState Manager.commitState
  dsimp only
  generalize ensureDurable system circumstances.synced = settled at checks
  generalize manager.ensureDurable circumstances.synced = checked at checks
  rw [show checked.durabilityDegraded = settled.durabilityDegraded from checks.degraded]
  split
  · exact checks
  · rename_i durable
    have same := checks.settled (Bool.not_eq_true _ ▸ durable)
    have sound := sound_replace checks.sound persistBytes replacement (json next)
    have read := replace_read checked.files persistBytes replacement (json next)
    have log := replace_log checked.files persistBytes replacement (json next)
    dsimp only at sound same
    generalize checked.files.replace persistBytes replacement (json next) = replaced at *
    obtain ⟨files, outcome⟩ := replaced
    dsimp only at sound read log
    cases outcome with
    | failed =>
      refine ⟨sound, rfl, read.trans checks.read, ?_, checks.settled⟩
      rw [log]
      exact checks.kept
    | renamed =>
      refine ⟨sound, rfl, read, ?_, nofun⟩
      rw [log]
      intro found member
      rcases List.mem_cons.mp member with rfl | member
      · exact Or.inl rfl
      · have before := checks.kept found member
        rw [same, or_self] at before
        exact Or.inr (before.trans (congrArg _ same.symm))
    | durable =>
      refine ⟨sound, (Bool.not_eq_true _ ▸ durable).symm, read, ?_, fun _ => rfl⟩
      rw [log]
      intro found member
      exact Or.inl (List.mem_singleton.mp member)

theorem backed_powerLoss (backed : Backed json (system, manager)) (cut : Cut Name) (now : Nat) :
    Backed json (follow json load (system, manager) (.powerLoss cut now)) := by
  have sound := sound_powerCut backed.sound cut
  have found : (manager.files.powerCut cut).directory.read .replaced =
      (if true && !decide ((manager.files.powerCut cut).directory.read .replaced =
        system.file.map json) then system.durableFile else system.file).map json := by
    by_cases entryKept : (manager.files.powerCut cut).directory.read .replaced =
        system.file.map json
    · simp [entryKept]
    · simpa [entryKept] using backed.kept _ sound.survives.read
  refine ⟨sound_sync sound, rfl, found, ?_, fun _ => rfl⟩
  intro version member
  exact Or.inl ((List.mem_singleton.mp member).trans found)

/-- In every run of commits and power losses, whatever fails and whatever the disk keeps: the disk has
the file of the system, and a power loss leaves it or the durable one. -/
theorem follows_disk (json : DownstreamOauthState lib → List UInt8)
    (load : Nat → Option (List UInt8) → Option (DownstreamOauthState lib))
    (moves : List (Move lib)) :
    Backed json (moves.foldl (follow json load) (initial, ⟨.new, none, false⟩)) := by
  have started : Backed json ((initial, ⟨.new, none, false⟩) :
      System lib × Manager (DownstreamOauthState lib)) := by
    refine ⟨sound_new, rfl, rfl, fun found member => ?_, fun _ => rfl⟩
    exact Or.inl (List.mem_singleton.mp member)
  generalize ((initial, ⟨.new, none, false⟩) :
    System lib × Manager (DownstreamOauthState lib)) = both at started
  induction moves generalizing both with
  | nil => exact started
  | cons move moves ih =>
    apply ih
    cases move with
    | ensureDurable synced => exact backed_ensureDurable started synced
    | commit next circumstances replacement =>
      exact backed_commit started next circumstances replacement
    | powerLoss cut now => exact backed_powerLoss started cut now

end Plug.DownstreamOauth
