import Plug.Tables
import Plug.ToolCatalog

/-!
# Prefixes of their own

The prefixes that shared ones are replaced by differ from each other and from those in use: a
number is found for each name that is taken. So after the servers are separated, two servers have
no name in common under one prefix. They depend on which claims there are and which prefixes are in
use, in whatever order these come: the number of a prefix is the first, from two on, whose name
nobody has.
-/

namespace Plug.Catalog

open Text ToolNaming

/-! ### Numbers -/

theorem numbered_injective {unnumbered : List Char} {number other : Nat}
    (same : numbered unnumbered number = numbered unnumbered other) : number = other := by
  exact Text.toDigits_injective (List.append_cancel_left same)

theorem firstFree_sound {used : List (List Char)} {unnumbered : List Char}
    {fuel start number : Nat} (found : firstFree used unnumbered fuel start = some number) :
    numbered unnumbered number ∉ used ∧ start ≤ number := by
  induction fuel generalizing start with
  | zero => cases found
  | succ fuel ih =>
    rw [firstFree] at found
    split at found
    · obtain ⟨free, later⟩ := ih found
      exact ⟨free, Nat.le_of_succ_le later⟩
    · rename_i free
      cases found
      exact ⟨free, Nat.le_refl _⟩

theorem firstFree_none {used : List (List Char)} {unnumbered : List Char} {fuel start : Nat}
    (failed : firstFree used unnumbered fuel start = none) :
    ∀ index < fuel, numbered unnumbered (start + index) ∈ used := by
  induction fuel generalizing start with
  | zero => exact fun _ less => absurd less (Nat.not_lt_zero _)
  | succ fuel ih =>
    rw [firstFree] at failed
    split at failed
    · rename_i met
      intro index less
      cases index with
      | zero => exact met
      | succ index =>
        rw [Nat.add_succ, ← Nat.succ_add]
        exact ih failed index (Nat.lt_of_succ_lt_succ less)
    · cases failed

/-- Among more numbers than there are names, one is free. -/
theorem firstFree_exists (used : List (List Char)) (unnumbered : List Char) (start : Nat) :
    ∃ number, firstFree used unnumbered (used.length + 1) start = some number := by
  cases failed : firstFree used unnumbered (used.length + 1) start with
  | some number => exact ⟨number, rfl⟩
  | none =>
    have met := firstFree_none failed
    have tried : ((List.range (used.length + 1)).map fun index =>
        numbered unnumbered (start + index)).Nodup := by
      apply List.nodup_range.map
      intro index other same
      exact Nat.add_left_cancel (numbered_injective same)
    have covered := (List.subperm_of_subset tried (by
      intro name member
      obtain ⟨index, less, rfl⟩ := List.mem_map.mp member
      exact met index (List.mem_range.mp less))).length_le
    rw [List.length_map, List.length_range] at covered
    exact absurd covered (Nat.not_succ_le_self _)

/-- What a server gets: its own prefix, or that with a number that nobody has. -/
theorem qualify_cases (taken unnumbereds : List (List Char)) (unnumbered : List Char) :
    (qualify taken unnumbereds unnumbered = unnumbered ∧ unnumbered ∉ taken) ∨
    ∃ number, 2 ≤ number ∧ qualify taken unnumbereds unnumbered = numbered unnumbered number ∧
      numbered unnumbered number ∉ taken := by
  unfold qualify
  split
  · obtain ⟨number, found⟩ := firstFree_exists (taken ++ unnumbereds) unnumbered 2
    obtain ⟨free, later⟩ := firstFree_sound found
    dsimp only
    rw [found]
    exact Or.inr ⟨number, later, rfl, fun member => free (List.mem_append_left _ member)⟩
  · rename_i free
    exact Or.inl ⟨rfl, free⟩

theorem qualify_fresh (taken unnumbereds : List (List Char)) (unnumbered : List Char) :
    qualify taken unnumbereds unnumbered ∉ taken := by
  rcases qualify_cases taken unnumbereds unnumbered with ⟨same, free⟩ | ⟨number, _, same, free⟩
  · rw [same]
    exact free
  · rw [same]
    exact free

/-! ### Assigning -/

variable {unnumbereds taken : List (List Char)} {claims : List (List Char × List Char)}

theorem assign_keys (unnumbereds taken : List (List Char))
    (claims : List (List Char × List Char)) :
    (assign unnumbereds taken claims).map Prod.fst = claims := by
  induction claims generalizing taken with
  | nil => rfl
  | cons claim rest ih =>
    rw [assign, List.map_cons, ih]

theorem assign_fresh {item : (List Char × List Char) × List Char}
    (member : item ∈ assign unnumbereds taken claims) : item.2 ∉ taken := by
  induction claims generalizing taken with
  | nil => cases member
  | cons claim rest ih =>
    cases List.mem_cons.mp member with
    | inl first =>
      rw [first]
      exact qualify_fresh taken unnumbereds _
    | inr later =>
      intro used
      exact ih later (List.mem_cons_of_mem _ used)

/-- No two servers get one prefix. -/
theorem assign_distinct (unnumbereds taken : List (List Char))
    (claims : List (List Char × List Char)) :
    ((assign unnumbereds taken claims).map Prod.snd).Nodup := by
  induction claims generalizing taken with
  | nil => exact List.nodup_nil
  | cons claim rest ih =>
    rw [assign, List.map_cons, List.nodup_cons]
    refine ⟨?_, ih _⟩
    intro again
    obtain ⟨item, member, same⟩ := List.mem_map.mp again
    exact assign_fresh member (same ▸ List.mem_cons_self ..)

section Claims

variable {inUse : List (List Char)} {claim other : List Char × List Char}
  {qualified further : List Char}

/-- Every claim gets a prefix. -/
theorem prefixesForServers_some (inUse : List (List Char)) (member : claim ∈ claims) :
    ∃ qualified, (prefixesForServers claims inUse).lookup claim = some qualified := by
  apply Option.isSome_iff_exists.mp
  apply List.lookup_isSome_iff.mpr
  have sorted : claim ∈ claims.dedup.insertionSort fun first second => before first second :=
    (List.mem_insertionSort _).mpr (List.mem_dedup.mpr member)
  rw [← assign_keys _ inUse (claims.dedup.insertionSort _)] at sorted
  obtain ⟨item, assigned, same⟩ := List.mem_map.mp sorted
  exact ⟨item, assigned, beq_iff_eq.mpr same.symm⟩

theorem prefixesForServers_fresh
    (found : (prefixesForServers claims inUse).lookup claim = some qualified) :
    qualified ∉ inUse :=
  assign_fresh (Tables.mem_of_lookup found)

theorem prefixesForServers_injective
    (found : (prefixesForServers claims inUse).lookup claim = some qualified)
    (again : (prefixesForServers claims inUse).lookup other = some qualified) : claim = other := by
  have same := List.inj_on_of_nodup_map (assign_distinct _ _ _) (Tables.mem_of_lookup found)
    (Tables.mem_of_lookup again) rfl
  exact congrArg Prod.fst same

end Claims

section Assigned

/-! ### The first free number -/

/-- The number that a search from two on without an end stops at. -/
structure FirstFree (used : List (List Char)) (unnumbered : List Char) (number : Nat) : Prop where
  later : 2 ≤ number
  free : numbered unnumbered number ∉ used
  passed : ∀ other, 2 ≤ other → other < number → numbered unnumbered other ∈ used

variable {used others : List (List Char)} {unnumbered : List Char}

theorem FirstFree.unique {number other : Nat} (first : FirstFree used unnumbered number)
    (again : FirstFree used unnumbered other) : number = other := by
  rcases Nat.lt_trichotomy number other with less | same | less
  · exact absurd (again.passed number first.later less) first.free
  · exact same
  · exact absurd (first.passed other again.later less) again.free

theorem FirstFree.same {number : Nat} (first : FirstFree used unnumbered number)
    (members : ∀ name, name ∈ used ↔ name ∈ others) : FirstFree others unnumbered number where
  later := first.later
  free := mt (members _).mpr first.free
  passed other later less := (members _).mp (first.passed other later less)

theorem firstFree_first {fuel start number : Nat}
    (found : firstFree used unnumbered fuel start = some number) :
    number < start + fuel ∧
      ∀ other, start ≤ other → other < number → numbered unnumbered other ∈ used := by
  induction fuel generalizing start with
  | zero => cases found
  | succ fuel ih =>
    rw [firstFree] at found
    split at found
    · rename_i met
      obtain ⟨bound, passed⟩ := ih found
      refine ⟨by omega, fun other later less => ?_⟩
      rcases Nat.eq_or_lt_of_le later with rfl | further
      · exact met
      · exact passed other further less
    · cases found
      exact ⟨by omega, fun other later less => absurd later (Nat.not_le_of_lt less)⟩

theorem firstFree_total (used : List (List Char)) (unnumbered : List Char) : ∃ number,
    firstFree used unnumbered (used.length + 1) 2 = some number ∧
      FirstFree used unnumbered number ∧ number ≤ used.length + 2 := by
  obtain ⟨number, found⟩ := firstFree_exists used unnumbered 2
  obtain ⟨free, later⟩ := firstFree_sound found
  obtain ⟨bound, passed⟩ := firstFree_first found
  exact ⟨number, found, ⟨later, free, passed⟩, by omega⟩

/-- A prefix that is taken gets the first number whose name nobody has. -/
theorem qualify_taken (taken unnumbereds : List (List Char)) (met : unnumbered ∈ taken) :
    ∃ number, FirstFree (taken ++ unnumbereds) unnumbered number ∧
      number ≤ (taken ++ unnumbereds).length + 2 ∧
      qualify taken unnumbereds unnumbered = numbered unnumbered number := by
  obtain ⟨number, found, first, bound⟩ := firstFree_total (taken ++ unnumbereds) unnumbered
  refine ⟨number, first, bound, ?_⟩
  rw [qualify, if_pos met]
  dsimp only
  rw [found]

theorem qualify_same {taken other : List (List Char)} (unnumbereds : List (List Char))
    (members : ∀ name, name ∈ taken ↔ name ∈ other) (unnumbered : List Char) :
    qualify taken unnumbereds unnumbered = qualify other unnumbereds unnumbered := by
  by_cases met : unnumbered ∈ taken
  · obtain ⟨number, first, _, own⟩ := qualify_taken taken unnumbereds met
    obtain ⟨second, again, _, same⟩ := qualify_taken other unnumbereds ((members _).mp met)
    have all : ∀ name, name ∈ taken ++ unnumbereds ↔ name ∈ other ++ unnumbereds := by
      intro name
      rw [List.mem_append, List.mem_append, members]
    rw [own, same, (first.same all).unique again]
  · rw [qualify, if_neg met, qualify, if_neg (mt (members _).mpr met)]

theorem assign_same {taken other : List (List Char)} (unnumbereds : List (List Char))
    (members : ∀ name, name ∈ taken ↔ name ∈ other) (claims : List (List Char × List Char)) :
    assign unnumbereds taken claims = assign unnumbereds other claims := by
  induction claims generalizing taken other with
  | nil => rfl
  | cons claim rest ih =>
    rw [assign, assign, qualify_same unnumbereds members]
    congr 1
    apply ih
    intro name
    rw [List.mem_cons, List.mem_cons, members]

/-! ### Claims in order -/

theorem before_iff {first second : List Char × List Char} : before first second = true ↔
    first.1 < second.1 ∨ first.1 = second.1 ∧ ¬ second.2 < first.2 := by
  simp [before]

theorem lt_or_eq_or_gt (first second : List Char) :
    first < second ∨ first = second ∨ second < first := by
  by_cases less : first < second
  · exact Or.inl less
  · by_cases more : second < first
    · exact Or.inr (Or.inr more)
    · exact Or.inr (Or.inl (List.le_antisymm more less))

theorem before_total (first second : List Char × List Char) :
    before first second = true ∨ before second first = true := by
  rw [before_iff, before_iff]
  rcases lt_or_eq_or_gt first.1 second.1 with less | same | more
  · exact Or.inl (Or.inl less)
  · by_cases less : second.2 < first.2
    · exact Or.inr (Or.inr ⟨same.symm, List.lt_asymm less⟩)
    · exact Or.inl (Or.inr ⟨same, less⟩)
  · exact Or.inr (Or.inl more)

theorem before_trans {first second third : List Char × List Char}
    (forth : before first second = true) (further : before second third = true) :
    before first third = true := by
  rw [before_iff] at forth further ⊢
  rcases forth with less | ⟨same, ordered⟩
  · rcases further with more | ⟨equal, _⟩
    · exact Or.inl (List.lt_trans less more)
    · exact Or.inl (equal ▸ less)
  · rcases further with more | ⟨equal, behind⟩
    · exact Or.inl (same ▸ more)
    · exact Or.inr ⟨same.trans equal, List.le_trans ordered behind⟩

theorem before_antisymm {first second : List Char × List Char}
    (forth : before first second = true) (back : before second first = true) : first = second := by
  rw [before_iff] at forth back
  rcases forth with less | ⟨same, ordered⟩
  · rcases back with more | ⟨equal, _⟩
    · exact absurd more (List.lt_asymm less)
    · exact absurd (equal ▸ less) (List.lt_irrefl _)
  · rcases back with more | ⟨_, behind⟩
    · exact absurd (same ▸ more) (List.lt_irrefl _)
    · exact Prod.ext same (List.le_antisymm ordered behind)

/-- In order and each once, two lists of the same claims are the same. -/
theorem sorted_same {claims other : List (List Char × List Char)}
    (members : ∀ claim, claim ∈ claims ↔ claim ∈ other) :
    (claims.dedup.insertionSort fun first second => before first second) =
      other.dedup.insertionSort fun first second => before first second := by
  have total : Std.Total fun first second : List Char × List Char =>
      before first second = true := ⟨before_total⟩
  have transitive : IsTrans (List Char × List Char) fun first second =>
      before first second = true := ⟨fun _ _ _ => before_trans⟩
  have sets : claims.dedup.Perm other.dedup := by
    apply (List.perm_ext_iff_of_nodup claims.nodup_dedup other.nodup_dedup).mpr
    intro claim
    rw [List.mem_dedup, List.mem_dedup, members]
  have sorted : (claims.dedup.insertionSort fun first second => before first second = true).Perm
      (other.dedup.insertionSort fun first second => before first second = true) :=
    ((List.perm_insertionSort _ _).trans sets).trans (List.perm_insertionSort _ _).symm
  apply sorted.eq_of_pairwise _ (List.pairwise_insertionSort _ _) (List.pairwise_insertionSort _ _)
  exact fun claim other _ _ => before_antisymm

theorem prefixesForServers_same {claims other : List (List Char × List Char)}
    {inUse used : List (List Char)} (members : ∀ claim, claim ∈ claims ↔ claim ∈ other)
    (names : ∀ name, name ∈ inUse ↔ name ∈ used) :
    prefixesForServers claims inUse = prefixesForServers other used := by
  unfold prefixesForServers
  dsimp only
  rw [sorted_same members]
  exact assign_same _ names _

/-! ### The assignment -/

/-- Every claim gets a prefix that is not in use, and no two get the same. The search for a number
ends, and neither the order of the claims nor that of the names in use matters. -/
theorem prefixes_assigned (claims : List (List Char × List Char)) (inUse : List (List Char)) :
    (∀ claim ∈ claims, ∃ qualified,
      (prefixesForServers claims inUse).lookup claim = some qualified ∧ qualified ∉ inUse) ∧
    (∀ claim ∈ claims, ∀ other ∈ claims, claim ≠ other →
      (prefixesForServers claims inUse).lookup claim ≠
        (prefixesForServers claims inUse).lookup other) ∧
    (∀ taken unnumbereds, ∀ unnumbered ∈ taken, ∃ number,
      FirstFree (taken ++ unnumbereds) unnumbered number ∧
        number ≤ (taken ++ unnumbereds).length + 2 ∧
        qualify taken unnumbereds unnumbered = numbered unnumbered number) ∧
    ∀ others used, (∀ claim, claim ∈ others ↔ claim ∈ claims) →
      (∀ name, name ∈ used ↔ name ∈ inUse) →
        prefixesForServers others used = prefixesForServers claims inUse := by
  refine ⟨?_, ?_, fun taken unnumbereds _ met => qualify_taken taken unnumbereds met,
    fun _ _ members names => prefixesForServers_same members names⟩
  · intro claim member
    obtain ⟨qualified, found⟩ := prefixesForServers_some inUse member
    exact ⟨qualified, found, prefixesForServers_fresh found⟩
  · intro claim member other _ apart same
    obtain ⟨qualified, found⟩ := prefixesForServers_some inUse member
    exact apart (prefixesForServers_injective found (same ▸ found))

end Assigned

end Plug.Catalog
