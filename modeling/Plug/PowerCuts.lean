import Mathlib.Data.List.Basic
import Mathlib.Logic.Function.Basic

/-!
# A directory that power cuts hit

Until a directory is synced, a power cut may leave any of the versions an entry had since the last
sync. A file whose bytes are not synced may be left with any bytes. `Survives` bounds what an entry
can be found to be, now and after any number of cuts.
-/

namespace PowerCuts

universe u

structure File where
  contents : List UInt8
  synced : Bool

/-- What a name stands for, and what else it may stand for after a power cut. -/
structure Entry where
  current : Option File
  older : List (Option File)

def Entry.versions (entry : Entry) : List (Option File) := entry.current :: entry.older

/-- The name is given to another file, or to none. -/
def Entry.put (entry : Entry) (file : Option File) : Entry := ⟨file, entry.versions⟩

/-- What a power cut leaves of one version. -/
def Entry.leave (entry : Entry) (version : Nat) (garbage : List UInt8) : Option File :=
  (entry.versions.getD version entry.current).map fun file =>
    ⟨if file.synced then file.contents else garbage, true⟩

abbrev Directory (Name : Type u) := Name → Entry

/-- A power cut picks the version of each name, and the bytes that were not synced. -/
structure Cut (Name : Type u) where
  version : Name → Nat
  garbage : Name → List UInt8

section
variable {Name : Type u}

def Directory.empty : Directory Name := fun _ => ⟨none, []⟩

def Directory.read (directory : Directory Name) (name : Name) : Option (List UInt8) :=
  (directory name).current.map File.contents

def Directory.sync (directory : Directory Name) : Directory Name :=
  fun name => ⟨(directory name).current, []⟩

def Directory.powerCut (directory : Directory Name) (cut : Cut Name) : Directory Name :=
  fun name => ⟨(directory name).leave (cut.version name) (cut.garbage name), []⟩

section
variable [DecidableEq Name]

def Directory.put (directory : Directory Name) (name : Name) (file : Option File) :
    Directory Name :=
  Function.update directory name ((directory name).put file)

/-- The file of the name is changed in place. -/
def Directory.fill (directory : Directory Name) (name : Name) (file : File) : Directory Name :=
  Function.update directory name ⟨some file, (directory name).older⟩

def Directory.rename (directory : Directory Name) (name other : Name) : Directory Name :=
  (directory.put other (directory name).current).put name none

variable {directory : Directory Name} {name other : Name} {file : File}

@[simp] theorem put_same (file : Option File) :
    directory.put name file name = (directory name).put file :=
  Function.update_self ..

@[simp] theorem put_other (different : other ≠ name) (file : Option File) :
    directory.put name file other = directory other :=
  Function.update_of_ne different ..

@[simp] theorem fill_same :
    directory.fill name file name = ⟨some file, (directory name).older⟩ :=
  Function.update_self ..

@[simp] theorem fill_other (different : other ≠ name) :
    directory.fill name file other = directory other :=
  Function.update_of_ne different ..

@[simp] theorem rename_to (different : other ≠ name) :
    directory.rename name other other = (directory other).put (directory name).current := by
  simp [Directory.rename, different]

end

/-- A version whose bytes are on the disk, and are allowed. -/
def Allowed (allowed : Option (List UInt8) → Prop) (version : Option File) : Prop :=
  (∀ file ∈ version, file.synced = true) ∧ allowed (version.map File.contents)

/-- Whatever happens to the power, the entry is found to be allowed. -/
def Survives (entry : Entry) (allowed : Option (List UInt8) → Prop) : Prop :=
  ∀ version ∈ entry.versions, Allowed allowed version

variable {directory : Directory Name} {name : Name} {entry : Entry}
  {allowed more : Option (List UInt8) → Prop} {file : File}

theorem Survives.mono (survives : Survives entry allowed)
    (weaker : ∀ found, allowed found → more found) : Survives entry more :=
  fun version member => ⟨(survives version member).1, weaker _ (survives version member).2⟩

theorem Survives.read (survives : Survives (directory name) allowed) :
    allowed (directory.read name) :=
  (survives _ List.mem_cons_self).2

theorem Survives.put (survives : Survives entry allowed) (synced : file.synced = true)
    (allows : allowed (some file.contents)) : Survives (entry.put (some file)) allowed := by
  intro version member
  rcases List.mem_cons.mp member with rfl | member
  · refine ⟨fun own same => ?_, allows⟩
    cases same
    exact synced
  · exact survives version member

theorem Survives.sync (survives : Survives (directory name) allowed) :
    Survives (directory.sync name) fun found => found = directory.read name := by
  intro version member
  cases List.mem_singleton.mp member
  exact ⟨(survives _ List.mem_cons_self).1, rfl⟩

theorem Survives.leave (survives : Survives entry allowed) (version : Nat)
    (garbage : List UInt8) : Allowed allowed (entry.leave version garbage) := by
  have left : entry.versions.getD version entry.current ∈ entry.versions := by
    rw [List.getD_eq_getElem?_getD]
    cases found : entry.versions[version]? with
    | none => exact List.mem_cons_self
    | some chosen => exact List.mem_of_getElem? found
  obtain ⟨synced, allows⟩ := survives _ left
  unfold Entry.leave
  generalize entry.versions.getD version entry.current = chosen at synced allows
  cases chosen with
  | none => simpa [Allowed] using allows
  | some file => simpa [Allowed, synced file rfl] using allows

theorem Survives.powerCut (survives : Survives (directory name) allowed) (cut : Cut Name) :
    Survives (directory.powerCut cut name) allowed := by
  intro version member
  cases List.mem_singleton.mp member
  exact survives.leave _ _

end

end PowerCuts
