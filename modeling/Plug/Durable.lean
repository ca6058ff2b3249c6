/-!
# A value in memory and in a file

A component keeps a value in memory and writes every new value to a file before it takes it
over. A write may fail before the file is replaced, or after: then it is not known which value
the file has, and the component is degraded, which refuses every further write. Opening the
component again reads the file.

`Kept` follows a property of values through all of this.
-/

namespace Durable

universe u

/-- `decode` refuses what is not accepted when the file is read. -/
structure Format (Value : Type u) where
  encode : Value → List UInt8
  decode : List UInt8 → Option Value
  limit : Nat

structure Cell (Value : Type u) where
  value : Value
  file : Option (List UInt8)
  degraded : Bool

/-- How a write ends. -/
inductive Saving where
  | saved
  | failedBefore
  | failedAfter
deriving DecidableEq

variable {Value : Type u}

def Cell.new (initial : Value) : Cell Value := ⟨initial, none, false⟩

def Format.fits (format : Format Value) (value : Value) : Bool :=
  decide ((format.encode value).length ≤ format.limit)

/-- The next value is taken over if it was written; the answer says so. -/
def Cell.commit (format : Format Value) (cell : Cell Value) (next : Value) (saving : Saving) :
    Cell Value × Bool :=
  if cell.degraded then (cell, false)
  else if !format.fits next then (cell, false)
  else
    match saving with
    | .saved => (⟨next, some (format.encode next), false⟩, true)
    | .failedBefore => ({ cell with degraded := true }, false)
    | .failedAfter =>
      ({ cell with
        file := some (format.encode next)
        degraded := true }, false)

/-- A write puts the next value into the file, whether or not the write is known to have
ended. -/
def Cell.reaches (format : Format Value) (cell : Cell Value) (next : Value) (saving : Saving) :
    Bool :=
  !cell.degraded && format.fits next && decide (saving ≠ .failedBefore)

/-- The component is opened from its file; without one it starts from the initial value. -/
def Cell.reopen (format : Format Value) (initial : Value) (cell : Cell Value) :
    Option (Cell Value) :=
  match cell.file with
  | none => some (.new initial)
  | some bytes =>
    if bytes.length ≤ format.limit then
      (format.decode bytes).map fun value => ⟨value, some bytes, false⟩
    else none

variable {format : Format Value} {cell : Cell Value} {next initial : Value} {saving : Saving}
  {good better : Value → Prop}

/-- What a write can do: it is refused and changes nothing, the value is taken over, or the
component is degraded with the value it has. -/
theorem commit_cases (format : Format Value) (cell : Cell Value) (next : Value)
    (saving : Saving) :
    (cell.commit format next saving = (cell, false) ∧
      (cell.degraded = true ∨ format.fits next = false)) ∨
    (cell.commit format next saving = (⟨next, some (format.encode next), false⟩, true) ∧
      cell.degraded = false ∧ format.fits next = true) ∨
    ∃ file, cell.commit format next saving = (⟨cell.value, file, true⟩, false) ∧
      cell.degraded = false ∧ format.fits next = true ∧
      (file = cell.file ∨ file = some (format.encode next)) := by
  cases degraded : cell.degraded with
  | true => exact Or.inl ⟨by simp [Cell.commit, degraded], Or.inl rfl⟩
  | false =>
    cases fits : format.fits next with
    | false => exact Or.inl ⟨by simp [Cell.commit, degraded, fits], Or.inr rfl⟩
    | true =>
      cases saving with
      | saved => exact Or.inr (Or.inl ⟨by simp [Cell.commit, degraded, fits], rfl, rfl⟩)
      | failedBefore =>
        exact Or.inr (Or.inr ⟨cell.file, by simp [Cell.commit, degraded, fits], rfl, rfl,
          Or.inl rfl⟩)
      | failedAfter =>
        exact Or.inr (Or.inr ⟨_, by simp [Cell.commit, degraded, fits], rfl, rfl, Or.inr rfl⟩)

/-- A write that is not known to have ended may have changed the file. -/
theorem commit_refused (refused : (cell.commit format next saving).2 = false) :
    (cell.commit format next saving).1.value = cell.value ∧
      (saving ≠ .failedAfter → (cell.commit format next saving).1.file = cell.file) := by
  unfold Cell.commit at refused ⊢
  split
  · exact ⟨rfl, fun _ => rfl⟩
  · rename_i working
    rw [if_neg working] at refused
    split
    · exact ⟨rfl, fun _ => rfl⟩
    · rename_i fits
      rw [if_neg fits] at refused
      cases saving with
      | saved => cases refused
      | failedBefore => exact ⟨rfl, fun _ => rfl⟩
      | failedAfter => exact ⟨rfl, fun known => absurd rfl known⟩

theorem commit_taken (done : (cell.commit format next saving).2 = true) :
    (cell.commit format next saving).1.value = next := by
  rcases commit_cases format cell next saving with ⟨same, _⟩ | ⟨same, _⟩ | ⟨_, same, _⟩
  · rw [same] at done
    cases done
  · rw [same]
  · rw [same] at done
    cases done

/-- A component that is degraded stays so. -/
theorem commit_degraded (format : Format Value) (next : Value) (saving : Saving)
    (degraded : cell.degraded = true) : (cell.commit format next saving).1 = cell := by
  unfold Cell.commit
  rw [if_pos degraded]

theorem commit_value (format : Format Value) (cell : Cell Value) (next : Value)
    (saving : Saving) : (cell.commit format next saving).1.value = cell.value ∨
      (cell.commit format next saving).1.value = next := by
  rcases commit_cases format cell next saving with ⟨same, _⟩ | ⟨same, _⟩ | ⟨_, same, _⟩
  · exact Or.inl (same ▸ rfl)
  · exact Or.inr (same ▸ rfl)
  · exact Or.inl (same ▸ rfl)

/-- What holds of the value before, and of the one that is written, holds of the value after. -/
theorem commit_holds (format : Format Value) (holds : Value → Prop) (former : holds cell.value)
    (written : holds next) (saving : Saving) : holds (cell.commit format next saving).1.value := by
  cases commit_value format cell next saving with
  | inl same =>
    rw [same]
    exact former
  | inr same =>
    rw [same]
    exact written

/-- A property of the value in memory and of the one in the file. -/
structure Kept (format : Format Value) (good : Value → Prop) (cell : Cell Value) : Prop where
  value : good cell.value
  file : ∀ bytes, cell.file = some bytes →
    ∃ value, bytes = format.encode value ∧ format.fits value = true ∧ good value

theorem Kept.new (good_initial : good initial) : Kept format good (.new initial) :=
  ⟨good_initial, nofun⟩

theorem Kept.commit (kept : Kept format good cell) (good_next : good next) (saving : Saving) :
    Kept format good (cell.commit format next saving).1 := by
  rcases commit_cases format cell next saving with
    ⟨same, _⟩ | ⟨same, _, fits⟩ | ⟨file, same, _, fits, written⟩
  · rw [same]
    exact kept
  · rw [same]
    refine ⟨good_next, ?_⟩
    rintro bytes ⟨⟩
    exact ⟨next, rfl, fits, good_next⟩
  · rw [same]
    refine ⟨kept.value, ?_⟩
    rintro bytes rfl
    cases written with
    | inl former => exact kept.file bytes former.symm
    | inr new =>
      cases new
      exact ⟨next, rfl, fits, good_next⟩

/-- A value that was taken over is the only one there is. -/
theorem Kept.taken (done : (cell.commit format next saving).2 = true) (good_next : good next) :
    Kept format good (cell.commit format next saving).1 := by
  rcases commit_cases format cell next saving with ⟨same, _⟩ | ⟨same, _, fits⟩ | ⟨_, same, _⟩
  · rw [same] at done
    cases done
  · rw [same]
    refine ⟨good_next, ?_⟩
    rintro bytes ⟨⟩
    exact ⟨next, rfl, fits, good_next⟩
  · rw [same] at done
    cases done

theorem Kept.mono (kept : Kept format good cell) (implies : ∀ value, good value → better value) :
    Kept format better cell := by
  refine ⟨implies _ kept.value, ?_⟩
  intro bytes present
  obtain ⟨value, same, fits, holds⟩ := kept.file bytes present
  exact ⟨value, same, fits, implies value holds⟩

/-- Opening again finds a value that was written, or the initial one. -/
theorem Kept.reopen (kept : Kept format good cell) (good_initial : good initial)
    (reads : ∀ value result, format.decode (format.encode value) = some result → result = value)
    {reopened : Cell Value} (opened : cell.reopen format initial = some reopened) :
    Kept format good reopened := by
  unfold Cell.reopen at opened
  split at opened
  · cases opened
    exact .new good_initial
  · rename_i bytes present
    split at opened
    · obtain ⟨value, decoded, rfl⟩ := Option.map_eq_some_iff.mp opened
      obtain ⟨written, rfl, fits, holds⟩ := kept.file bytes present
      obtain rfl := reads written value decoded
      refine ⟨holds, ?_⟩
      rintro bytes ⟨⟩
      exact ⟨value, rfl, fits, holds⟩
    · cases opened

/-- A component whose values are all accepted can be opened again. -/
theorem Kept.reopens (kept : Kept format good cell)
    (accepted : ∀ value, good value → (format.decode (format.encode value)).isSome = true) :
    (cell.reopen format initial).isSome = true := by
  unfold Cell.reopen
  split
  · rfl
  · rename_i bytes present
    obtain ⟨value, rfl, fits, holds⟩ := kept.file bytes present
    rw [if_pos (of_decide_eq_true fits), Option.isSome_map]
    exact accepted value holds

/-- A property that was written: the file has it, and memory too unless the write failed. -/
structure Lasting (format : Format Value) (good : Value → Prop) (cell : Cell Value) : Prop where
  value : cell.degraded = false → good cell.value
  file : ∃ value, cell.file = some (format.encode value) ∧ good value

/-- A write that reaches the file makes a property last. -/
theorem Lasting.reached (reaches : cell.reaches format next saving = true)
    (good_next : good next) : Lasting format good (cell.commit format next saving).1 := by
  rw [Cell.reaches, Bool.and_eq_true, Bool.and_eq_true, Bool.not_eq_true'] at reaches
  obtain ⟨⟨working, fits⟩, written⟩ := reaches
  unfold Cell.commit
  rw [working, fits]
  cases saving with
  | saved => exact ⟨fun _ => good_next, next, rfl, good_next⟩
  | failedBefore => cases written
  | failedAfter => exact ⟨nofun, next, rfl, good_next⟩

theorem Lasting.unchanged (lasting : Lasting format good cell) {other : Cell Value}
    (value : other.value = cell.value) (file : other.file = cell.file)
    (halts : cell.degraded = true → other.degraded = true) : Lasting format good other := by
  refine ⟨?_, file ▸ lasting.file⟩
  intro working
  rw [value]
  apply lasting.value
  cases degraded : cell.degraded with
  | false => rfl
  | true => cases (halts degraded).symm.trans working

theorem Lasting.commit (lasting : Lasting format good cell)
    (good_next : good cell.value → good next) (saving : Saving) :
    Lasting format good (cell.commit format next saving).1 := by
  rcases commit_cases format cell next saving with
    ⟨same, _⟩ | ⟨same, working, _⟩ | ⟨file, same, working, _, written⟩
  · rw [same]
    exact lasting
  · have holds := good_next (lasting.value working)
    rw [same]
    exact ⟨fun _ => holds, next, rfl, holds⟩
  · rw [same]
    refine ⟨nofun, ?_⟩
    cases written with
    | inl former =>
      rw [former]
      exact lasting.file
    | inr new => exact ⟨next, new, good_next (lasting.value working)⟩

theorem Lasting.reopen (lasting : Lasting format good cell)
    (reads : ∀ value result, format.decode (format.encode value) = some result → result = value)
    {reopened : Cell Value} (opened : cell.reopen format initial = some reopened) :
    Lasting format good reopened := by
  obtain ⟨value, present, holds⟩ := lasting.file
  unfold Cell.reopen at opened
  rw [present] at opened
  dsimp only at opened
  split at opened
  · obtain ⟨result, decoded, rfl⟩ := Option.map_eq_some_iff.mp opened
    obtain rfl := reads value result decoded
    exact ⟨fun _ => holds, result, rfl, holds⟩
  · cases opened

theorem reopen_refused {value : Value} (present : cell.file = some (format.encode value))
    (refused : format.decode (format.encode value) = none) :
    cell.reopen format initial = none := by
  rw [Cell.reopen, present]
  dsimp only
  rw [refused]
  split <;> rfl

end Durable
