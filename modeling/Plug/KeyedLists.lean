import Mathlib.Data.List.Sort

/-!
# Lists of items with keys

Of a list the items can be kept whose key no earlier item has, and nothing that was known before. A
key that tells fewer items apart leaves more of them out. A map that is listed in the order of its
keys is one list, in whatever order its entries were put in, as long as no two of them have one key.
-/

/-! ### First occurrences -/

namespace FirstOccurrences

variable {Item View Key Blurred : Type} {view : Item → View} {key : View → Key}
  {blur : Key → Blurred} {known : List View}

theorem mem_blurred {views : List View} {own : View} (member : key own ∈ views.map key) :
    (blur ∘ key) own ∈ views.map (blur ∘ key) := by
  rw [← List.map_map]
  exact List.mem_map_of_mem member

variable [DecidableEq Key] [DecidableEq Blurred]

/-- The items with a key that nothing known and no earlier item has. -/
def fresh (view : Item → View) (key : View → Key) (known : List View) : List Item → List Item
  | [] => []
  | item :: rest =>
    if key (view item) ∈ known.map key then fresh view key (known ++ [view item]) rest
    else item :: fresh view key (known ++ [view item]) rest

theorem fresh_sublist (items : List Item) : (fresh view key known items).Sublist items := by
  induction items generalizing known with
  | nil => exact List.Sublist.slnil
  | cons item rest ih =>
    rw [fresh]
    split
    · exact ih.cons item
    · exact ih.cons_cons item

/-! ### Keys that tell less apart -/

theorem fresh_length_le (items : List Item) :
    (fresh view (blur ∘ key) known items).length ≤ (fresh view key known items).length := by
  induction items generalizing known with
  | nil => exact Nat.le_refl 0
  | cons item rest ih =>
    have later := @ih (known ++ [view item])
    rw [fresh, fresh]
    by_cases same : key (view item) ∈ known.map key
    · rw [if_pos same, if_pos (mem_blurred same)]
      exact later
    · rw [if_neg same]
      split
      · exact Nat.le_succ_of_le later
      · exact Nat.succ_le_succ later

/-- The same items are left out if and only if each that has a blurred key in common with something
before has the very key in common with something before. -/
theorem fresh_eq_iff (items : List Item) :
    fresh view (blur ∘ key) known items = fresh view key known items ↔
      ∀ front item, front ++ [item] <+: items →
        (blur ∘ key) (view item) ∈ (known ++ front.map view).map (blur ∘ key) →
          key (view item) ∈ (known ++ front.map view).map key := by
  induction items generalizing known with
  | nil =>
    refine iff_of_true rfl fun front item begins => ?_
    exact absurd (List.prefix_nil.mp begins) (List.append_ne_nil_of_right_ne_nil front nofun)
  | cons first rest ih =>
    have later := @ih (known ++ [view first])
    have moved : ∀ front : List Item, known ++ (first :: front).map view =
        known ++ [view first] ++ front.map view := by
      intro front
      rw [List.map_cons, List.append_cons]
    -- the condition is that of the first item and that of the rest
    have parts : (∀ front item, front ++ [item] <+: first :: rest →
        (blur ∘ key) (view item) ∈ (known ++ front.map view).map (blur ∘ key) →
          key (view item) ∈ (known ++ front.map view).map key) ↔
        ((blur ∘ key) (view first) ∈ known.map (blur ∘ key) → key (view first) ∈ known.map key) ∧
          fresh view (blur ∘ key) (known ++ [view first]) rest =
            fresh view key (known ++ [view first]) rest := by
      rw [later]
      constructor
      · intro all
        refine ⟨?_, ?_⟩
        · have own := all [] first (List.prefix_append _ _)
          rw [List.map_nil, List.append_nil] at own
          exact own
        · intro front item begins
          rw [← moved]
          exact all (first :: front) item (List.cons_prefix_cons.mpr ⟨rfl, begins⟩)
      · rintro ⟨own, behind⟩ front item begins
        cases front with
        | nil =>
          obtain ⟨rfl, _⟩ := List.cons_prefix_cons.mp begins
          rw [List.map_nil, List.append_nil]
          exact own
        | cons other front =>
          obtain ⟨rfl, following⟩ := List.cons_prefix_cons.mp begins
          rw [moved]
          exact behind front item following
    rw [parts, fresh, fresh]
    by_cases same : key (view first) ∈ known.map key
    · rw [if_pos same, if_pos (mem_blurred same)]
      exact (and_iff_right fun _ => same).symm
    · rw [if_neg same]
      split
      · rename_i alike
        refine iff_of_false ?_ fun both => same (both.1 alike)
        intro equal
        have size := congrArg List.length equal
        have shorter : (fresh view (blur ∘ key) (known ++ [view first]) rest).length ≤
            (fresh view key (known ++ [view first]) rest).length := fresh_length_le rest
        rw [List.length_cons] at size
        omega
      · rename_i apart
        rw [List.cons_inj_right]
        exact (and_iff_right fun alike => absurd alike apart).symm

end FirstOccurrences

/-! ### Maps in the order of their keys -/

namespace KeyedListings

variable {Key Value : Type} [LinearOrder Key]

/-- An entry takes the place of a former one of its key. -/
def insertEntry (table : List (Key × Value)) (entry : Key × Value) : List (Key × Value) :=
  entry :: table.filter fun other => other.1 ≠ entry.1

/-- The map that the entries make, put in one after another. -/
def listing (entries : List (Key × Value)) : List (Key × Value) :=
  (entries.foldl insertEntry []).insertionSort fun entry other => entry.1 ≤ other.1

/-- The entries come in the order of their keys. -/
def Listed (entries : List (Key × Value)) : Prop :=
  entries.Pairwise fun entry other => entry.1 < other.1

variable {entries others table : List (Key × Value)}

theorem Listed.nodup (listed : Listed entries) : (entries.map Prod.fst).Nodup := by
  unfold Listed at listed
  rw [List.Nodup, List.pairwise_map]
  exact listed.imp fun less => less.ne

theorem insertEntry_nodup (distinct : (table.map Prod.fst).Nodup) (entry : Key × Value) :
    ((insertEntry table entry).map Prod.fst).Nodup := by
  rw [insertEntry, List.map_cons, List.nodup_cons]
  constructor
  · rw [List.mem_map]
    rintro ⟨other, member, same⟩
    exact of_decide_eq_true (List.mem_filter.mp member).2 same
  · exact distinct.sublist (List.filter_sublist.map Prod.fst)

theorem foldl_nodup (distinct : (table.map Prod.fst).Nodup) (entries : List (Key × Value)) :
    ((entries.foldl insertEntry table).map Prod.fst).Nodup := by
  induction entries generalizing table with
  | nil => exact distinct
  | cons entry entries ih =>
    exact ih (insertEntry_nodup distinct entry)

/-- Entries of different keys are all kept. -/
theorem foldl_perm (distinct : ((table ++ entries).map Prod.fst).Nodup) :
    (entries.foldl insertEntry table).Perm (table ++ entries) := by
  induction entries generalizing table with
  | nil =>
    rw [List.append_nil]
    exact List.Perm.refl table
  | cons entry entries ih =>
    have apart : ∀ other ∈ table, other.1 ≠ entry.1 := by
      intro other member same
      rw [List.map_append, List.map_cons] at distinct
      exact List.nodup_append.mp distinct |>.2.2 other.1 (List.mem_map_of_mem member) entry.1
        List.mem_cons_self same
    have kept : insertEntry table entry = entry :: table := by
      rw [insertEntry, List.filter_eq_self.mpr fun other member => decide_eq_true (apart other member)]
    have moved : (table ++ entry :: entries).Perm (entry :: table ++ entries) :=
      List.perm_middle
    rw [List.foldl_cons, kept]
    exact (ih ((moved.map Prod.fst).nodup_iff.mp distinct)).trans moved.symm

theorem listed_eq (listed : Listed entries) (other : Listed others) (perm : entries.Perm others) :
    entries = others :=
  perm.eq_of_pairwise (fun _ _ _ _ less more => absurd less (lt_asymm more)) listed other

theorem listing_listed (entries : List (Key × Value)) : Listed (listing entries) := by
  have total : Std.Total fun entry other : Key × Value => entry.1 ≤ other.1 :=
    ⟨fun entry other => le_total entry.1 other.1⟩
  have transitive : IsTrans (Key × Value) fun entry other => entry.1 ≤ other.1 :=
    ⟨fun _ _ _ => le_trans⟩
  have none : (([] : List (Key × Value)).map Prod.fst).Nodup := List.nodup_nil
  have distinct := foldl_nodup none entries
  have perm := List.perm_insertionSort (fun entry other : Key × Value => entry.1 ≤ other.1)
    (entries.foldl insertEntry [])
  have apart : (listing entries).Pairwise fun entry other => entry.1 ≠ other.1 :=
    List.pairwise_map.mp ((perm.map Prod.fst).nodup_iff.mpr distinct)
  exact ((List.pairwise_insertionSort _ _).and apart).imp fun both => lt_of_le_of_ne both.1 both.2

theorem listing_perm (distinct : (entries.map Prod.fst).Nodup) :
    (listing entries).Perm entries := by
  have gathered : (entries.foldl insertEntry []).Perm ([] ++ entries) := foldl_perm distinct
  exact (List.perm_insertionSort _ _).trans gathered

/-- In whatever order the entries come. -/
theorem listing_congr (distinct : (entries.map Prod.fst).Nodup) (perm : entries.Perm others) :
    listing entries = listing others := by
  have other := (perm.map Prod.fst).nodup_iff.mp distinct
  exact listed_eq (listing_listed entries) (listing_listed others)
    ((listing_perm distinct).trans (perm.trans (listing_perm other).symm))

theorem listing_eq (listed : Listed entries) : listing entries = entries :=
  listed_eq (listing_listed entries) listed (listing_perm listed.nodup)

end KeyedListings
