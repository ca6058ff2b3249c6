import Mathlib.Data.List.DropRight
import Mathlib.Data.List.Induction
import Mathlib.Data.List.Nodup
import Mathlib.Data.List.Perm.Subperm

/-!
# Lists in the order of use

A list that holds what was used, the last used at its end: what is used again is taken from its
place and put there. A list that keeps only so many items from the end drops those whose last use
is the longest ago, and what it holds is the end of the list of everything that was ever used.
-/

namespace RecencyLists

variable {Item : Type} {items : List Item} {item other : Item}

/-- The second was used behind the last use of the first. -/
def UsedLater (uses : List Item) (first second : Item) : Prop :=
  ∃ front back, uses = front ++ back ∧ second ∈ back ∧ first ∉ back

theorem UsedLater.concat {uses : List Item} {first second : Item}
    (later : UsedLater uses first second) {last : Item} (apart : first ≠ last) :
    UsedLater (uses ++ [last]) first second := by
  obtain ⟨front, back, rfl, behind, absent⟩ := later
  refine ⟨front, back ++ [last], List.append_assoc front back [last],
    List.mem_append_left _ behind, ?_⟩
  rw [List.mem_append, List.mem_singleton]
  rintro (inside | same)
  · exact absent inside
  · exact apart same

/-! ### The end of a list -/

theorem rtake_suffix (count : Nat) (items : List Item) : items.rtake count <:+ items :=
  List.drop_suffix _ _

theorem rtake_length (count : Nat) (items : List Item) : (items.rtake count).length ≤ count := by
  rw [List.rtake, List.length_drop]
  omega

theorem rtake_of_length_le {count : Nat} (short : items.length ≤ count) :
    items.rtake count = items := by
  rw [List.rtake, Nat.sub_eq_zero_of_le short, List.drop_zero]

theorem rtake_append {count : Nat} {back : List Item} (enough : count ≤ back.length)
    (front : List Item) : (front ++ back).rtake count = back.rtake count := by
  have past : (front ++ back).length - count = front.length + (back.length - count) := by
    rw [List.length_append]
    omega
  rw [List.rtake, past, ← List.drop_drop, List.drop_left, List.rtake]

theorem suffix_rtake {count : Nat} {back : List Item} (few : back.length ≤ count)
    (front : List Item) : back <:+ (front ++ back).rtake count := by
  have early : (front ++ back).length - count ≤ front.length := by
    rw [List.length_append]
    omega
  rw [List.rtake, List.drop_append_of_le_length early]
  exact List.suffix_append _ back

section Uses

variable [BEq Item]

def touch (items : List Item) (item : Item) : List Item := items.erase item ++ [item]

def touchAll (items uses : List Item) : List Item := uses.foldl touch items

theorem touchAll_concat (items uses : List Item) (item : Item) :
    touchAll items (uses ++ [item]) = touch (touchAll items uses) item := List.foldl_concat ..

theorem touchAll_append (items uses more : List Item) :
    touchAll items (uses ++ more) = touchAll (touchAll items uses) more := List.foldl_append ..

/-! ### One use -/

variable [LawfulBEq Item]

theorem mem_touch (nodup : items.Nodup) :
    other ∈ touch items item ↔ other = item ∨ other ∈ items := by
  rw [touch, List.mem_append, List.mem_singleton, nodup.mem_erase_iff]
  by_cases same : other = item
  · simp [same]
  · simp [same]

theorem touch_nodup (nodup : items.Nodup) (item : Item) : (touch items item).Nodup := by
  refine List.nodup_append.mpr ⟨nodup.erase item, List.nodup_singleton item, ?_⟩
  rintro other member _ last rfl
  rw [List.mem_singleton.mp last] at member
  exact nodup.not_mem_erase member

theorem touchAll_nodup (nodup : items.Nodup) (uses : List Item) : (touchAll items uses).Nodup := by
  induction uses generalizing items with
  | nil => exact nodup
  | cons item uses ih => exact ih (touch_nodup nodup item)

/-- What was used comes behind what was not used since, which keeps its order. -/
theorem touchAll_eq (nodup : items.Nodup) (uses : List Item) :
    touchAll items uses = items.filter (· ∉ uses) ++ touchAll [] uses := by
  induction uses using List.reverseRecOn with
  | nil => simp [touchAll]
  | append_singleton uses item ih =>
    have apart : (touchAll items uses).erase item =
        (items.filter (· ∉ uses)).erase item ++ (touchAll [] uses).erase item := by
      have whole := touchAll_nodup nodup uses
      rw [ih] at whole ⊢
      rw [whole.erase_eq_filter, List.filter_append,
        (nodup.filter _).erase_eq_filter, (touchAll_nodup List.nodup_nil uses).erase_eq_filter]
    have kept : (items.filter (· ∉ uses)).erase item = items.filter (· ∉ uses ++ [item]) := by
      rw [(nodup.filter _).erase_eq_filter, List.filter_filter]
      apply List.filter_congr
      intro other _
      by_cases same : other = item
      · simp [same]
      · simp [same]
    rw [touchAll_concat, touchAll_concat, touch, touch, apart, kept, List.append_assoc]

theorem mem_touchAll {uses : List Item} : item ∈ touchAll [] uses ↔ item ∈ uses := by
  induction uses using List.reverseRecOn with
  | nil => rfl
  | append_singleton uses last ih =>
    rw [touchAll_concat, mem_touch (touchAll_nodup List.nodup_nil uses), ih,
      List.mem_append, List.mem_singleton, or_comm]

theorem touchAll_length (uses : List Item) : (touchAll [] uses).length ≤ uses.length := by
  have covered := List.subperm_of_subset (touchAll_nodup (List.nodup_nil (α := Item)) uses)
    fun item member => mem_touchAll.mp member
  exact covered.length_le

/-! ### The order -/

/-- Of two items the one in front was used before the last use of the other. -/
theorem touchAll_ordered (uses : List Item) : (touchAll [] uses).Pairwise (UsedLater uses) := by
  induction uses using List.reverseRecOn with
  | nil => exact List.Pairwise.nil
  | append_singleton uses item ih =>
    have nodup := touchAll_nodup (List.nodup_nil (α := Item)) uses
    rw [touchAll_concat, touch, List.pairwise_append]
    refine ⟨?_, List.pairwise_singleton _ _, ?_⟩
    · refine (ih.sublist List.erase_sublist).imp_of_mem ?_
      intro first second member _ later
      exact later.concat (nodup.mem_erase_iff.mp member).1
    · intro first member last same
      rw [List.mem_singleton.mp same]
      refine ⟨uses, [item], rfl, List.mem_cons_self, ?_⟩
      rw [List.mem_singleton]
      exact (nodup.mem_erase_iff.mp member).1

/-! ### The last items -/

/-- The end of a list after a use is known from its end before. -/
theorem rtake_touch (nodup : items.Nodup) (count : Nat) (item : Item) :
    (touch items item).rtake (count + 1) =
      (touch (items.rtake (count + 1)) item).rtake (count + 1) := by
  rw [touch, touch, List.rtake_concat_succ, List.rtake_concat_succ]
  congr 1
  by_cases short : items.length ≤ count + 1
  · rw [rtake_of_length_le short]
  · obtain ⟨front, whole⟩ := rtake_suffix (count + 1) items
    have size : (items.rtake (count + 1)).length = count + 1 := by
      rw [List.rtake, List.length_drop]
      omega
    -- more than enough is left behind the front, also without the item
    have enough : count ≤ ((items.rtake (count + 1)).erase item).length := by
      by_cases inside : item ∈ items.rtake (count + 1)
      · rw [List.length_erase_of_mem inside, size]
        omega
      · rw [List.erase_of_not_mem inside, size]
        omega
    have split := nodup
    rw [← whole] at split
    have parts := List.nodup_append.mp split
    have erased : items.erase item = front.erase item ++ (items.rtake (count + 1)).erase item := by
      have both := split.erase_eq_filter item
      rw [whole] at both
      rw [both, parts.1.erase_eq_filter, parts.2.1.erase_eq_filter, ← List.filter_append, whole]
    rw [erased, rtake_append enough]

theorem rtake_touchAll (nodup : items.Nodup) (count : Nat) (uses : List Item) :
    (touchAll items uses).rtake (count + 1) =
      (touchAll (items.rtake (count + 1)) uses).rtake (count + 1) := by
  induction uses using List.reverseRecOn with
  | nil => exact (rtake_of_length_le (rtake_length (count + 1) items)).symm
  | append_singleton uses item ih =>
    have short : (items.rtake (count + 1)).Nodup := nodup.sublist (rtake_suffix _ _).sublist
    rw [touchAll_concat, touchAll_concat, rtake_touch (touchAll_nodup nodup uses),
      ih, ← rtake_touch (touchAll_nodup short uses)]

/-- What is used is held, if it is not too much. -/
theorem mem_rtake_touchAll (nodup : items.Nodup) {count : Nat} {uses : List Item}
    (few : uses.length ≤ count) (used : item ∈ uses) : item ∈ (touchAll items uses).rtake count := by
  have size := (touchAll_length uses).trans few
  rw [touchAll_eq nodup]
  exact (suffix_rtake size _).subset (mem_touchAll.mpr used)

/-- What is held and was not used keeps its order. -/
theorem rtake_unused (nodup : items.Nodup) (count : Nat) (uses : List Item) :
    ((touchAll items uses).rtake count).filter (· ∉ uses) <:+ items.filter (· ∉ uses) := by
  have used : (touchAll [] uses).filter (· ∉ uses) = [] := by
    apply List.filter_eq_nil_iff.mpr
    intro item member
    simpa using mem_touchAll.mp member
  have whole : (touchAll items uses).filter (· ∉ uses) = items.filter (· ∉ uses) := by
    rw [touchAll_eq nodup, List.filter_append, used, List.append_nil, List.filter_filter]
    simp
  rw [← whole]
  exact (rtake_suffix count _).filter _

end Uses

end RecencyLists
