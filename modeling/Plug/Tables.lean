import Mathlib.Data.List.Nodup
import Mathlib.Data.List.Sort

/-!
# Tables keyed by strings

A table is a list of keys and values. Inserting puts a key in front and takes its
former value out, so a table built by these operations has each key once. Code
that walks a hash table meets its keys in an order of its own; `iterate` takes
that order as an argument.
-/

namespace Tables

universe u
variable {Value : Type u}

def get (table : List (String × Value)) (key : String) : Option Value :=
  (table.find? fun item => item.1 = key).map Prod.snd

def containsKey (table : List (String × Value)) (key : String) : Bool :=
  table.any fun item => item.1 = key

def remove (table : List (String × Value)) (key : String) : List (String × Value) :=
  table.filter fun item => item.1 ≠ key

def insert (table : List (String × Value)) (key : String) (value : Value) :
    List (String × Value) :=
  (key, value) :: remove table key

/-- The value of a key changed in place. -/
def modify (table : List (String × Value)) (key : String) (change : Value → Value) :
    List (String × Value) :=
  table.map fun item => if item.1 = key then (item.1, change item.2) else item

/-- The tables have the same entries. -/
def sameEntries [BEq Value] (table other : List (String × Value)) : Bool :=
  table.all other.contains && other.all table.contains

/-- The table in the order in which a walk meets its keys. -/
def iterate (order : String → Nat) (table : List (String × Value)) : List (String × Value) :=
  table.insertionSort fun item other => order item.1 ≤ order other.1

theorem mem_of_get {table : List (String × Value)} {key : String} {value : Value}
    (found : get table key = some value) : (key, value) ∈ table := by
  obtain ⟨item, present, same⟩ := Option.map_eq_some_iff.mp found
  have matching : item.1 = key := by simpa using List.find?_some present
  have whole : item = (key, value) := Prod.ext matching same
  exact whole ▸ List.mem_of_find?_eq_some present

theorem containsKey_iff {table : List (String × Value)} {key : String} :
    containsKey table key = true ↔ ∃ value, (key, value) ∈ table := by
  simp [containsKey]

variable {item : String × Value} {other : String}

@[simp] theorem mem_remove {table : List (String × Value)} {key : String} :
    item ∈ remove table key ↔ item ∈ table ∧ item.1 ≠ key := by
  simp [remove]

@[simp] theorem mem_insert {table : List (String × Value)} {key : String} {value : Value} :
    item ∈ insert table key value ↔ item = (key, value) ∨ (item ∈ table ∧ item.1 ≠ key) := by
  simp [insert]

@[simp] theorem mem_iterate {order : String → Nat} {table : List (String × Value)} :
    item ∈ iterate order table ↔ item ∈ table :=
  List.mem_insertionSort _

theorem containsKey_insert {table : List (String × Value)} {key : String} {value : Value} :
    containsKey (insert table key value) other = true ↔
      other = key ∨ containsKey table other = true := by
  simp only [containsKey_iff, mem_insert, Prod.mk.injEq]
  constructor
  · rintro ⟨item, ⟨same, _⟩ | ⟨member, _⟩⟩
    · exact Or.inl same
    · exact Or.inr ⟨item, member⟩
  · intro known
    by_cases same : other = key
    · exact ⟨value, Or.inl ⟨same, rfl⟩⟩
    · obtain ⟨item, member⟩ := known.resolve_left same
      exact ⟨item, Or.inr ⟨member, same⟩⟩

theorem containsKey_remove {table : List (String × Value)} {key : String} :
    containsKey (remove table key) other = true ↔
      other ≠ key ∧ containsKey table other = true := by
  simp only [containsKey_iff, mem_remove]
  constructor
  · rintro ⟨item, member, apart⟩
    exact ⟨apart, item, member⟩
  · rintro ⟨apart, item, member⟩
    exact ⟨item, member, apart⟩

/-- Dropping other keys keeps the value of a key. -/
theorem get_filter (table : List (String × Value)) (keep : String → Bool) {key : String}
    (kept : keep key = true) : get (table.filter fun item => keep item.1) key = get table key := by
  have same : (fun item : String × Value =>
      decide (keep item.1 = true ∧ decide (item.1 = key) = true)) =
        fun item => decide (item.1 = key) := by
    funext item
    by_cases found : item.1 = key
    · simp [found, kept]
    · simp [found]
  rw [get, List.find?_filter, same]
  rfl

theorem get_eq_none {table : List (String × Value)} {key : String} :
    get table key = none ↔ ∀ value, (key, value) ∉ table := by
  simp only [get, Option.map_eq_none_iff, List.find?_eq_none, decide_eq_true_eq]
  refine ⟨fun absent value member => absent (key, value) member rfl, ?_⟩
  rintro absent ⟨other, value⟩ member rfl
  exact absent value member

@[simp] theorem get_remove_self {table : List (String × Value)} {key : String} :
    get (remove table key) key = none := by
  refine get_eq_none.mpr ?_
  intro value member
  exact (mem_remove.mp member).2 rfl

theorem get_remove_of_ne {table : List (String × Value)} {key : String} (differs : other ≠ key) :
    get (remove table key) other = get table other :=
  get_filter table (fun name => decide (name ≠ key)) (by simpa using differs)

@[simp] theorem get_insert_self {table : List (String × Value)} {key : String} {value : Value} :
    get (insert table key value) key = some value := by
  simp [get, insert]

theorem get_insert_of_ne {table : List (String × Value)} {key : String} {value : Value}
    (differs : other ≠ key) : get (insert table key value) other = get table other := by
  have apart : ¬ key = other := fun equal => differs equal.symm
  have kept : get (remove table key) other = get table other := get_remove_of_ne differs
  unfold get at kept ⊢
  rw [insert, List.find?_cons_of_neg (by simpa using apart)]
  exact kept

/-- A change in place keeps the keys and what it does not read. -/
theorem mem_modify_iff {table : List (String × Value)} {key : String} {change : Value → Value} :
    item ∈ modify table key change ↔
      ∃ former, (item.1, former) ∈ table ∧
        item.2 = if item.1 = key then change former else former := by
  simp only [modify, List.mem_map]
  constructor
  · rintro ⟨former, present, rfl⟩
    refine ⟨former.2, ?_, ?_⟩
    · split <;> exact present
    · split <;> rfl
  · rintro ⟨former, present, same⟩
    refine ⟨(item.1, former), present, ?_⟩
    rw [Prod.ext_iff]
    split
    · rename_i found
      rw [if_pos found] at same
      exact ⟨rfl, same.symm⟩
    · rename_i found
      rw [if_neg found] at same
      exact ⟨rfl, same.symm⟩

theorem mem_modify {table : List (String × Value)} {key : String} {change : Value → Value}
    (member : item ∈ modify table key change) :
    ∃ former, (item.1, former) ∈ table ∧ (item.2 = former ∨ item.2 = change former) := by
  obtain ⟨former, present, same⟩ := mem_modify_iff.mp member
  refine ⟨former, present, ?_⟩
  split at same
  · exact Or.inr same
  · exact Or.inl same

theorem get_modify (table : List (String × Value)) (key : String) (change : Value → Value)
    (other : String) : get (modify table key change) other =
      if other = key then (get table other).map change else get table other := by
  induction table with
  | nil => simp [get, modify]
  | cons item rest ih =>
    by_cases first : item.1 = other
    · subst first
      by_cases changed : item.1 = key
      · simp [get, modify, changed]
      · simp [get, modify, changed]
    · have skipped : (if item.1 = key then (item.1, change item.2) else item).1 ≠ other := by
        split <;> exact first
      have skip : get (item :: rest) other = get rest other := by
        rw [get, List.find?_cons_of_neg (by simpa using first)]
        rfl
      have skipModified : get (modify (item :: rest) key change) other =
          get (modify rest key change) other := by
        rw [get, modify, List.map_cons, List.find?_cons_of_neg (by simpa using skipped)]
        rfl
      rw [skip, skipModified, ih]

theorem length_remove_lt {table : List (String × Value)} {key : String} {value : Value}
    (member : (key, value) ∈ table) : (remove table key).length < table.length := by
  refine List.length_filter_lt_length_iff_exists.mpr ⟨(key, value), member, ?_⟩
  simp

/-- Taking a key out takes at least the entry that is known of it. -/
theorem subperm_remove {table : List (String × Value)} {key : String} {value : Value}
    (member : (key, value) ∈ table) : ((key, value) :: remove table key).Subperm table := by
  have taken : (key, value) ∈ table.filter fun item => !decide (item.1 ≠ key) :=
    List.mem_filter.mpr ⟨member, by simp⟩
  have split := List.filter_append_perm (fun item : String × Value => decide (item.1 ≠ key)) table
  have fewer : (remove table key ++ [(key, value)]).Subperm table :=
    ((List.singleton_sublist.mpr taken).append_left _).subperm.trans split.subperm
  exact (List.perm_append_singleton _ _).symm.subperm.trans fewer

/-- A table grows by one entry at most, and not for a key that it has. -/
theorem length_insert_le {table : List (String × Value)} {key : String} {value : Value}
    {limit : Nat} (bounded : table.length ≤ limit)
    (room : table.length < limit ∨ containsKey table key = true) :
    (insert table key value).length ≤ limit := by
  rw [insert, List.length_cons]
  cases room with
  | inl less => exact Nat.lt_of_le_of_lt (List.length_filter_le _ _) less
  | inr present =>
    obtain ⟨former, member⟩ := containsKey_iff.mp present
    exact Nat.lt_of_lt_of_le (length_remove_lt member) bounded

/-! ### Tables with each key once -/

def Distinct (table : List (String × Value)) : Prop :=
  (table.map Prod.fst).Nodup

theorem get_of_mem {table : List (String × Value)} (distinct : Distinct table) {key : String}
    {value : Value} (member : (key, value) ∈ table) : get table key = some value := by
  cases found : get table key with
  | none => exact absurd member (get_eq_none.mp found value)
  | some other =>
    have same : (key, other) = (key, value) :=
      List.inj_on_of_nodup_map distinct (mem_of_get found) member rfl
    rw [(Prod.mk.inj same).2]

theorem Distinct.filter {table : List (String × Value)} (distinct : Distinct table)
    (keep : String × Value → Bool) : Distinct (table.filter keep) :=
  distinct.sublist (List.filter_sublist.map Prod.fst)

theorem Distinct.insert {table : List (String × Value)} (distinct : Distinct table) (key : String)
    (value : Value) : Distinct (Tables.insert table key value) := by
  refine List.nodup_cons.mpr ⟨?_, distinct.filter _⟩
  intro member
  obtain ⟨item, present, same⟩ := List.mem_map.mp member
  exact (mem_remove.mp present).2 same

theorem Distinct.modify {table : List (String × Value)} (distinct : Distinct table) (key : String)
    (change : Value → Value) : Distinct (Tables.modify table key change) := by
  have keys : (Tables.modify table key change).map Prod.fst = table.map Prod.fst := by
    rw [Tables.modify, List.map_map]
    refine List.map_congr_left ?_
    intro item _
    dsimp only [Function.comp_apply]
    split <;> rfl
  rw [Distinct, keys]
  exact distinct

/-! ### Keys of any kind -/

section Lookups

variable {Key Value : Type} [BEq Key] [LawfulBEq Key] {table : List (Key × Value)} {key : Key}
  {value : Value}

theorem mem_of_lookup (found : table.lookup key = some value) : (key, value) ∈ table := by
  obtain ⟨front, rest, same, _⟩ := List.lookup_eq_some_iff.mp found
  rw [same]
  exact List.mem_append_right _ (List.mem_cons_self ..)

theorem lookup_exists (member : (key, value) ∈ table) :
    ∃ found, table.lookup key = some found := by
  apply Option.isSome_iff_exists.mp
  exact List.lookup_isSome_iff.mpr ⟨_, member, beq_self_eq_true key⟩

theorem lookup_absent (absent : key ∉ table.map Prod.fst) : table.lookup key = none := by
  cases found : table.lookup key with
  | none => rfl
  | some value => exact absurd (List.mem_map_of_mem (mem_of_lookup found)) absent

/-- With each key once, looking up finds what is there. -/
theorem lookup_of_mem (distinct : (table.map Prod.fst).Nodup) (member : (key, value) ∈ table) :
    table.lookup key = some value := by
  obtain ⟨found, same⟩ := lookup_exists member
  have both := List.inj_on_of_nodup_map distinct (mem_of_lookup same) member rfl
  obtain rfl := (Prod.mk.inj both).2
  exact same

end Lookups

end Tables
