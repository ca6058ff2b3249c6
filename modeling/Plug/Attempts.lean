import Mathlib.Data.List.Nodup

/-!
# Attempts that are counted afterwards

Jobs wait in a queue, each with the number of attempts made at it, and an attempt is counted when
it has ended. A job is queued once and leaves the queue before its attempts reach the limit.
-/

namespace Attempts

universe u
variable {Key : Type u} {limit : Nat} {jobs remaining : List (Key × Nat)} {key : Key}

/-- Every job is queued once, and has an attempt left. -/
structure Sound (limit : Nat) (jobs : List (Key × Nat)) : Prop where
  distinct : (jobs.map Prod.fst).Nodup
  room : ∀ job ∈ jobs, job.2 < limit

/-- The job of a key with one more attempt. -/
def bump [DecidableEq Key] (key : Key) (jobs : List (Key × Nat)) : List (Key × Nat) :=
  jobs.map fun job => if job.1 = key then (job.1, job.2 + 1) else job

theorem Sound.nil : Sound limit ([] : List (Key × Nat)) :=
  ⟨List.nodup_nil, nofun⟩

theorem Sound.fewer (sound : Sound limit jobs) (sublist : List.Sublist remaining jobs) :
    Sound limit remaining :=
  ⟨sound.distinct.sublist (sublist.map Prod.fst), fun job member =>
    sound.room job (sublist.subset member)⟩

theorem Sound.add (sound : Sound limit jobs) (positive : 0 < limit) {keys : List Key}
    (distinct : keys.Nodup) (fresh : ∀ key ∈ keys, ∀ job ∈ jobs, job.1 ≠ key) :
    Sound limit (jobs ++ keys.map fun key => (key, 0)) := by
  constructor
  · rw [List.map_append, List.map_map, List.nodup_append]
    refine ⟨sound.distinct, (List.map_id keys).symm ▸ distinct, ?_⟩
    intro first member second new same
    obtain ⟨job, present, rfl⟩ := List.mem_map.mp member
    obtain ⟨key, own, rfl⟩ := List.mem_map.mp new
    exact fresh key own job present same
  · intro job member
    cases List.mem_append.mp member with
    | inl earlier => exact sound.room job earlier
    | inr last =>
      obtain ⟨key, _, rfl⟩ := List.mem_map.mp last
      exact positive

theorem Sound.same (sound : Sound limit jobs) {job other : Key × Nat} (member : job ∈ jobs)
    (another : other ∈ jobs) (same : job.1 = other.1) : job = other :=
  List.inj_on_of_nodup_map sound.distinct member another same

section Bumping

variable [DecidableEq Key]

@[simp] theorem bump_keys (key : Key) (jobs : List (Key × Nat)) :
    (bump key jobs).map Prod.fst = jobs.map Prod.fst := by
  rw [bump, List.map_map]
  apply List.map_congr_left
  intro job _
  rw [Function.comp_apply]
  split <;> rfl

theorem mem_bump {job : Key × Nat} (member : job ∈ bump key jobs) :
    (job ∈ jobs ∧ job.1 ≠ key) ∨
      ∃ attempts, (key, attempts) ∈ jobs ∧ job = (key, attempts + 1) := by
  obtain ⟨former, present, same⟩ := List.mem_map.mp member
  split at same
  · rename_i own
    subst own
    exact Or.inr ⟨former.2, present, same.symm⟩
  · rename_i other
    subst same
    exact Or.inl ⟨present, other⟩

theorem Sound.bump (sound : Sound limit jobs)
    (room : ∀ attempts, (key, attempts) ∈ jobs → attempts + 1 < limit) :
    Sound limit (bump key jobs) := by
  constructor
  · rw [bump_keys]
    exact sound.distinct
  · intro job member
    rcases mem_bump member with ⟨present, _⟩ | ⟨attempts, present, rfl⟩
    · exact sound.room job present
    · exact room attempts present

end Bumping

end Attempts
