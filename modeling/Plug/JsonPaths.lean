import Mathlib.Data.List.Infix
import Plug.JsonValues

/-!
# Paths into a JSON value

A path names members of objects within objects. A value can be put at its end, where what is in
its way is an object or becomes one, and the member at its end can be removed. What lies on other
paths stays.
-/

namespace JsonValues

abbrev Members : Type := List (String × Value)

variable {key other : String} {value new : Value} {members : Members} {path : List String}

/-! ### Members -/

def lookup (key : String) (members : Members) : Option Value :=
  (members.find? fun member => member.1 = key).map Prod.snd

/-- A member keeps its place when its value is replaced. -/
def insert (key : String) (value : Value) : Members → Members
  | [] => [(key, value)]
  | member :: rest =>
    if member.1 = key then (key, value) :: rest else member :: insert key value rest

def remove (key : String) (members : Members) : Members :=
  members.filter fun member => member.1 ≠ key

theorem lookup_cons (member : String × Value) (rest : Members) :
    lookup key (member :: rest) = if member.1 = key then some member.2 else lookup key rest := by
  unfold lookup
  rw [List.find?_cons]
  by_cases same : member.1 = key
  · simp [same]
  · simp [same]

@[simp] theorem lookup_insert_self (key : String) (value : Value) (members : Members) :
    lookup key (insert key value members) = some value := by
  induction members with
  | nil => rw [insert, lookup_cons, if_pos rfl]
  | cons member rest ih =>
    rw [insert]
    by_cases same : member.1 = key
    · rw [if_pos same, lookup_cons, if_pos rfl]
    · rw [if_neg same, lookup_cons, if_neg same, ih]

theorem lookup_insert_of_ne (apart : other ≠ key) (value : Value) (members : Members) :
    lookup other (insert key value members) = lookup other members := by
  induction members with
  | nil => rw [insert, lookup_cons, if_neg apart.symm]
  | cons member rest ih =>
    rw [insert]
    by_cases same : member.1 = key
    · have elsewhere : member.1 ≠ other := same.trans_ne apart.symm
      rw [if_pos same, lookup_cons, lookup_cons, if_neg apart.symm, if_neg elsewhere]
    · rw [if_neg same, lookup_cons, lookup_cons, ih]

/-- A key that is new comes last. -/
theorem insert_keys (key : String) (value : Value) (members : Members) :
    (insert key value members).map Prod.fst =
      if key ∈ members.map Prod.fst then members.map Prod.fst
      else members.map Prod.fst ++ [key] := by
  induction members with
  | nil => rfl
  | cons member rest ih =>
    rw [insert]
    by_cases same : member.1 = key
    · rw [if_pos same, List.map_cons, List.map_cons, same, if_pos List.mem_cons_self]
    · rw [if_neg same, List.map_cons, ih, List.map_cons]
      by_cases known : key ∈ rest.map Prod.fst
      · rw [if_pos known, if_pos (List.mem_cons_of_mem _ known)]
      · rw [if_neg known, if_neg (by simpa [Ne.symm same] using known), List.cons_append]

theorem insert_new (value : Value) (new : key ∉ members.map Prod.fst) :
    insert key value members = members ++ [(key, value)] := by
  induction members with
  | nil => rfl
  | cons member rest ih =>
    rw [List.map_cons, List.mem_cons, not_or] at new
    rw [insert, if_neg (Ne.symm new.1), ih new.2, List.cons_append]

theorem insert_insert (key : String) (value new : Value) (members : Members) :
    insert key new (insert key value members) = insert key new members := by
  induction members with
  | nil => simp [insert]
  | cons member rest ih =>
    rw [insert]
    by_cases same : member.1 = key
    · rw [if_pos same, insert, if_pos rfl, insert, if_pos same]
    · rw [if_neg same, insert, if_neg same, ih, insert, if_neg same]

@[simp] theorem lookup_remove_self (key : String) (members : Members) :
    lookup key (remove key members) = none := by
  induction members with
  | nil => rfl
  | cons member rest ih =>
    unfold remove at *
    rw [List.filter_cons]
    by_cases same : member.1 = key
    · rw [if_neg (by simp [same]), ih]
    · rw [if_pos (by simp [same]), lookup_cons, if_neg same, ih]

theorem lookup_remove_of_ne (apart : other ≠ key) (members : Members) :
    lookup other (remove key members) = lookup other members := by
  induction members with
  | nil => rfl
  | cons member rest ih =>
    unfold remove at *
    rw [List.filter_cons]
    by_cases same : member.1 = key
    · have elsewhere : member.1 ≠ other := same.trans_ne apart.symm
      rw [if_neg (by simp [same]), ih, lookup_cons, if_neg elsewhere]
    · rw [if_pos (by simp [same]), lookup_cons, lookup_cons, ih]

/-! ### Paths -/

/-- The members of an object, and none of another value. -/
def Value.membersOrNone : Value → Members
  | .object members => members
  | _ => []

theorem member?_eq (value : Value) (key : String) :
    value.member? key = lookup key value.membersOrNone := by
  cases value <;> rfl

def Value.at? : Value → List String → Option Value
  | value, [] => some value
  | value, key :: rest => (value.member? key).bind fun inner => inner.at? rest

/-- The value with another one at the end of a path. -/
def putAt (new : Value) : List String → Value → Value
  | [], _ => new
  | key :: rest, value =>
    .object (insert key (putAt new rest ((value.member? key).getD (.object [])))
      value.membersOrNone)

/-- The object that has only what the path leads to. -/
def nest (value : Value) : List String → Value
  | [] => value
  | key :: rest => .object [(key, nest value rest)]

/-- The value without the member at the end of a path, if there is one. -/
def removeAt : List String → Value → Value
  | [], value => value
  | [key], value =>
    match value with
    | .object members => .object (remove key members)
    | value => value
  | key :: rest, value =>
    match value with
    | .object members =>
      match lookup key members with
      | some inner => .object (insert key (removeAt rest inner) members)
      | none => .object members
    | value => value

theorem at?_nil (value : Value) : value.at? [] = some value := by
  unfold Value.at?
  rfl

theorem at?_cons (value : Value) (key : String) (rest : List String) :
    value.at? (key :: rest) = (value.member? key).bind fun inner => inner.at? rest := by
  rw [Value.at?]

/-- What was put at the end of a path is there. -/
theorem at?_putAt (new : Value) (path : List String) (value : Value) :
    (putAt new path value).at? path = some new := by
  induction path generalizing value with
  | nil => rw [putAt, at?_nil]
  | cons key rest ih =>
    rw [putAt, at?_cons, member?_eq, Value.membersOrNone, lookup_insert_self, Option.bind_some,
      ih]

/-- An object without members leads nowhere. -/
theorem at?_empty {path : List String} (further : path ≠ []) :
    (Value.object []).at? path = none := by
  cases path with
  | nil => exact absurd rfl further
  | cons key rest =>
    rw [at?_cons, member?_eq]
    rfl

/-- What lies apart from the path stays. -/
theorem at?_putAt_apart (new : Value) {path place : List String} (value : Value)
    (outside : ¬ path <+: place) (beyond : ¬ place <+: path) :
    (putAt new path value).at? place = value.at? place := by
  induction path generalizing value place with
  | nil => exact absurd List.nil_prefix outside
  | cons key rest ih =>
    cases place with
    | nil => exact absurd List.nil_prefix beyond
    | cons other further =>
      rw [putAt, at?_cons, at?_cons, member?_eq, member?_eq value, Value.membersOrNone]
      by_cases same : other = key
      · subst same
        rw [lookup_insert_self, Option.bind_some]
        rw [List.cons_prefix_cons, not_and] at outside beyond
        rw [ih _ (outside rfl) (beyond rfl)]
        cases present : value.member? other with
        | some inner =>
          rw [← member?_eq, present]
          rfl
        | none =>
          rw [← member?_eq, present]
          refine at?_empty ?_
          rintro rfl
          exact beyond rfl List.nil_prefix
      · rw [lookup_insert_of_ne same, member?_eq value other]

theorem putAt_putAt (new : Value) (path : List String) (value : Value) :
    putAt new path (putAt new path value) = putAt new path value := by
  induction path generalizing value with
  | nil => rfl
  | cons key rest ih =>
    rw [putAt]
    have inner : (putAt new (key :: rest) value).member? key =
        some (putAt new rest ((value.member? key).getD (.object []))) := by
      rw [putAt, member?_eq, Value.membersOrNone, lookup_insert_self]
    rw [inner, Option.getD_some, ih, putAt, Value.membersOrNone, insert_insert]

/-! ### Removal -/

theorem removeAt_object (key next : String) (rest : List String) (members : Members) :
    removeAt (key :: next :: rest) (.object members) =
      match lookup key members with
      | some inner => .object (insert key (removeAt (next :: rest) inner) members)
      | none => .object members :=
  rfl

theorem removeAt_other {value : Value} (other : value.asObject = none) (path : List String) :
    removeAt path value = value := by
  match path with
  | [] => rfl
  | [key] => cases value with
    | object members => cases other
    | _ => rfl
  | key :: next :: rest => cases value with
    | object members => cases other
    | _ => rfl

theorem at?_other {value : Value} (other : value.asObject = none) {path : List String}
    (further : path ≠ []) : value.at? path = none := by
  cases path with
  | nil => exact absurd rfl further
  | cons key rest =>
    cases value with
    | object members => cases other
    | _ => rw [at?_cons]; rfl

/-- What was removed is not there. -/
theorem at?_removeAt {path : List String} (further : path ≠ []) (value : Value) :
    (removeAt path value).at? path = none := by
  induction path generalizing value with
  | nil => exact absurd rfl further
  | cons key rest ih =>
    cases object : value.asObject with
    | none =>
      rw [removeAt_other object]
      exact at?_other object (List.cons_ne_nil key rest)
    | some members =>
      obtain rfl : value = .object members := by
        cases value with
        | object inside => exact congrArg Value.object (Option.some.inj object)
        | _ => cases object
      cases rest with
      | nil =>
        change (Value.object (remove key members)).at? [key] = none
        rw [at?_cons, member?_eq, Value.membersOrNone, lookup_remove_self]
        rfl
      | cons next deeper =>
        rw [removeAt_object]
        cases present : lookup key members with
        | none =>
          dsimp only
          rw [at?_cons, member?_eq, Value.membersOrNone, present]
          rfl
        | some inner =>
          dsimp only
          rw [at?_cons, member?_eq, Value.membersOrNone, lookup_insert_self, Option.bind_some]
          exact ih (List.cons_ne_nil next deeper) inner

/-- A value as it is unless it is an object, which says nothing about its members. -/
def outline : Value → Option Value
  | .object _ => none
  | value => some value

/-- What lies on a path without the name that is removed is what it was, apart from members of
objects. -/
theorem outline_removeAt (front : List String) (last : String) (value : Value) {place : List String}
    (unnamed : last ∉ place) :
    ((removeAt (front ++ [last]) value).at? place).map outline =
      (value.at? place).map outline := by
  induction front generalizing value place with
  | nil =>
    cases value with
    | object members =>
      change ((Value.object (remove last members)).at? place).map outline = _
      cases place with
      | nil => rw [at?_nil, at?_nil]; rfl
      | cons key rest =>
        rw [at?_cons, at?_cons, member?_eq, member?_eq, Value.membersOrNone, Value.membersOrNone,
          lookup_remove_of_ne (List.ne_of_not_mem_cons unnamed).symm]
    | _ => rfl
  | cons key rest ih =>
    obtain ⟨next, deeper, whole⟩ : ∃ next deeper, rest ++ [last] = next :: deeper := by
      cases rest with
      | nil => exact ⟨last, [], rfl⟩
      | cons next others => exact ⟨next, others ++ [last], rfl⟩
    rw [List.cons_append, whole]
    rw [whole] at ih
    cases value with
    | object members =>
      rw [removeAt_object]
      cases present : lookup key members with
      | none => rfl
      | some inner =>
        dsimp only
        cases place with
        | nil => rw [at?_nil, at?_nil]; rfl
        | cons other further =>
          rw [at?_cons, at?_cons, member?_eq, member?_eq, Value.membersOrNone, Value.membersOrNone]
          by_cases same : other = key
          · subst same
            rw [lookup_insert_self, present, Option.bind_some, Option.bind_some]
            exact ih inner (List.not_mem_of_not_mem_cons unnamed)
          · rw [lookup_insert_of_ne same]
    | _ => rfl

/-- Removal does not bring anything about. -/
theorem at?_removeAt_none (path : List String) (value : Value) {place : List String}
    (absent : value.at? place = none) : (removeAt path value).at? place = none := by
  induction path generalizing value place with
  | nil => exact absent
  | cons key rest ih =>
    cases place with
    | nil =>
      rw [at?_nil] at absent
      cases absent
    | cons other further =>
      cases value with
      | object members =>
        rw [at?_cons, member?_eq, Value.membersOrNone] at absent
        cases rest with
        | nil =>
          change (Value.object (remove key members)).at? (other :: further) = none
          rw [at?_cons, member?_eq, Value.membersOrNone]
          by_cases same : other = key
          · rw [same, lookup_remove_self]
            rfl
          · rw [lookup_remove_of_ne same]
            exact absent
        | cons next deeper =>
          rw [removeAt_object]
          cases present : lookup key members with
          | none =>
            dsimp only
            rw [at?_cons, member?_eq, Value.membersOrNone]
            exact absent
          | some inner =>
            dsimp only
            rw [at?_cons, member?_eq, Value.membersOrNone]
            by_cases same : other = key
            · subst same
              rw [present, Option.bind_some] at absent
              rw [lookup_insert_self, Option.bind_some]
              exact ih inner absent
            · rw [lookup_insert_of_ne same]
              exact absent
      | _ =>
        rw [removeAt_other rfl]
        exact absent

end JsonValues
