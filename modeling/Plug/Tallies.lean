import Mathlib.Algebra.Order.BigOperators.Group.List
import Mathlib.Algebra.Order.Group.Nat
import Mathlib.Algebra.Ring.Nat
import Mathlib.Data.List.AList

/-!
# Tallies of what is held

Units are held under keys, and a table keeps a count for each key. Holding more adds to the
count of a key; letting go takes units off it, and an entry goes when nothing is left of its
count. `Counts` says that a table counts what is held: the entries of any set of keys add up
to the units held under them, and there is no entry under which nothing is held.
-/

namespace Tallies

universe u
variable {Key : Type u} [DecidableEq Key]

abbrev Tally (Key : Type u) : Type u := AList fun _ : Key => Nat

/-- A key without an entry counts nothing. -/
def count (tally : Tally Key) (key : Key) : Nat :=
  (tally.lookup key).getD 0

/-- Units taken off a count. -/
def release (tally : Tally Key) (key : Key) (units : Nat) : Tally Key :=
  match tally.lookup key with
  | some counted =>
    if counted - units = 0 then tally.erase key else tally.insert key (counted - units)
  | none => tally

/-- The counts of the keys that are kept, together. -/
def total (tally : Tally Key) (keep : Key → Bool) : Nat :=
  (tally.entries.map fun entry => if keep entry.1 then entry.2 else 0).sum

/-- The units held under the keys that are kept. -/
def weight (held : List (Key × Nat)) (keep : Key → Bool) : Nat :=
  (held.map fun item => if keep item.1 then item.2 else 0).sum

variable {tally : Tally Key} {key : Key} {units : Nat} {held : List (Key × Nat)}

@[simp] theorem count_insert_self : count (tally.insert key units) key = units := by
  simp [count]

theorem count_insert_of_ne {other : Key} (differs : other ≠ key) :
    count (tally.insert key units) other = count tally other := by
  simp [count, differs]

/-- The entry of a key and the others make up a total. -/
theorem total_split (tally : Tally Key) (key : Key) (keep : Key → Bool) :
    total tally keep =
      (if keep key then count tally key else 0) + total (tally.erase key) keep := by
  by_cases present : key ∈ tally.entries.keys
  · obtain ⟨counted, before, after, _, whole, erased⟩ := List.exists_of_kerase present
    have member : (⟨key, counted⟩ : Sigma fun _ : Key => Nat) ∈ tally.entries := by
      rw [whole]
      exact List.mem_append_right _ (List.mem_cons_self ..)
    have found : tally.lookup key = some counted := AList.mem_lookup_iff.mpr member
    have others : (tally.erase key).entries = before ++ after := erased
    simp only [total, count, found, others, whole, List.map_append, List.map_cons,
      List.sum_append, List.sum_cons, Option.getD_some]
    omega
  · have absent : tally.lookup key = none := AList.lookup_eq_none.mpr present
    have others : (tally.erase key).entries = tally.entries :=
      List.kerase_of_notMem_keys present
    simp only [total, count, absent, others, Option.getD_none, ite_self, Nat.zero_add]

theorem total_insert (keep : Key → Bool) : total (tally.insert key units) keep =
    (if keep key then units else 0) + total (tally.erase key) keep := by
  simp only [total, AList.entries_insert, List.map_cons, List.sum_cons]
  rfl

omit [DecidableEq Key] in
theorem weight_cons (item : Key × Nat) (keep : Key → Bool) :
    weight (item :: held) keep = (if keep item.1 then item.2 else 0) + weight held keep := by
  simp [weight]

omit [DecidableEq Key] in
theorem weight_perm {other : List (Key × Nat)} (same : List.Perm held other)
    (keep : Key → Bool) : weight held keep = weight other keep :=
  (same.map _).sum_eq

theorem held_of_weight (some : weight held (fun other => decide (other = key)) ≠ 0) :
    ∃ units, (key, units) ∈ held := by
  by_contra absent
  apply some
  refine List.sum_eq_zero ?_
  intro value member
  obtain ⟨item, present, rfl⟩ := List.mem_map.mp member
  refine if_neg ?_
  intro matching
  rw [decide_eq_true_eq] at matching
  subst matching
  exact absent ⟨item.2, present⟩

/-- The table counts what is held. -/
structure Counts (tally : Tally Key) (held : List (Key × Nat)) : Prop where
  total_eq : ∀ keep, total tally keep = weight held keep
  held_of_mem : ∀ key ∈ tally, ∃ units, (key, units) ∈ held

namespace Counts

omit [DecidableEq Key] in
theorem empty : Counts (∅ : Tally Key) [] :=
  ⟨fun _ => rfl, fun key present => absurd present (AList.notMem_empty key)⟩

omit [DecidableEq Key] in
theorem perm (counts : Counts tally held) {other : List (Key × Nat)}
    (same : List.Perm held other) : Counts tally other where
  total_eq keep := (counts.total_eq keep).trans (weight_perm same keep)
  held_of_mem key present := by
    obtain ⟨units, member⟩ := counts.held_of_mem key present
    exact ⟨units, same.mem_iff.mp member⟩

/-- A key's count is what is held under it. -/
theorem count_eq (counts : Counts tally held) (key : Key) :
    count tally key = weight held fun other => decide (other = key) := by
  have apart : total (tally.erase key) (fun other => decide (other = key)) = 0 := by
    refine List.sum_eq_zero ?_
    intro value member
    obtain ⟨entry, present, rfl⟩ := List.mem_map.mp member
    have listed : entry.1 ∈ tally.erase key := List.mem_keys_of_mem present
    exact if_neg (by simpa using (AList.mem_erase.mp listed).1)
  rw [← counts.total_eq, total_split tally key, apart]
  simp

theorem insert (counts : Counts tally held) (key : Key) (units : Nat) :
    Counts (tally.insert key (count tally key + units)) ((key, units) :: held) where
  total_eq keep := by
    rw [total_insert, weight_cons, ← counts.total_eq keep, total_split tally key keep]
    split <;> omega
  held_of_mem other present := by
    rcases (AList.mem_insert tally).mp present with rfl | earlier
    · exact ⟨units, List.mem_cons_self ..⟩
    · obtain ⟨others, member⟩ := counts.held_of_mem other earlier
      exact ⟨others, List.mem_cons_of_mem _ member⟩

theorem le_count (counts : Counts tally held) (member : (key, units) ∈ held) :
    units ≤ count tally key := by
  rw [counts.count_eq key]
  apply List.single_le_sum (fun _ _ => Nat.zero_le _)
  exact List.mem_map.mpr ⟨(key, units), member, by simp⟩

/-- What remains of a key's count when units under it are let go. -/
theorem left_of_release (counts : Counts tally ((key, units) :: held)) :
    count tally key - units = weight held fun other => decide (other = key) := by
  rw [counts.count_eq key, weight_cons]
  simp

/-- Letting go under a key leaves the rest of every total. -/
theorem total_of_release (counts : Counts tally ((key, units) :: held)) (keep : Key → Bool) :
    (if keep key then count tally key - units else 0) + total (tally.erase key) keep =
      weight held keep := by
  have whole := counts.total_eq keep
  have fits : units ≤ count tally key := counts.le_count (List.mem_cons_self ..)
  rw [weight_cons, total_split tally key keep] at whole
  by_cases kept : keep key = true
  · simp only [kept, if_true] at whole ⊢
    omega
  · simpa [kept] using whole

omit [DecidableEq Key] in
theorem held_of_ne (counts : Counts tally ((key, units) :: held)) {other : Key}
    (differs : other ≠ key) (listed : other ∈ tally) : ∃ units, (other, units) ∈ held := by
  obtain ⟨others, member⟩ := counts.held_of_mem other listed
  cases List.mem_cons.mp member with
  | inl whole => exact absurd (Prod.mk.inj whole).1 differs
  | inr later => exact ⟨others, later⟩

/-- An entry goes with the last units under its key. -/
theorem release (counts : Counts tally ((key, units) :: held)) :
    Counts (Tallies.release tally key units) held := by
  unfold Tallies.release
  split
  · rename_i counted present
    have same : counted = count tally key := by simp [count, present]
    subst same
    split
    · rename_i spent
      constructor
      · intro keep
        have left := counts.total_of_release keep
        rwa [spent, ite_self, Nat.zero_add] at left
      · intro other remaining
        obtain ⟨differs, listed⟩ := AList.mem_erase.mp remaining
        exact counts.held_of_ne differs listed
    · rename_i remains
      constructor
      · intro keep
        rw [total_insert]
        exact counts.total_of_release keep
      · intro other remaining
        by_cases own : other = key
        · subst own
          rw [counts.left_of_release] at remains
          exact held_of_weight remains
        · have listed : other ∈ tally := by simpa [own] using remaining
          exact counts.held_of_ne own listed
  · rename_i absent
    have nothing : units = 0 := by
      have fits : units ≤ count tally key := counts.le_count (List.mem_cons_self ..)
      simpa [count, absent] using fits
    constructor
    · intro keep
      rw [counts.total_eq keep, weight_cons, nothing, ite_self, Nat.zero_add]
    · intro other listed
      refine counts.held_of_ne ?_ listed
      rintro rfl
      exact AList.lookup_eq_none.mp absent listed

end Counts

end Tallies
