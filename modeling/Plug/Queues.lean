import Mathlib.Data.List.Basic

/-!
# Queues

A queue of bounded length that keeps the latest items drops its oldest to make room for a new
one. In any queue, the first item that meets a condition can be changed in place.

A broadcast channel keeps the latest items too. A receiver of it has a position among all that was
sent. One that falls further behind is told how many it has missed, and goes on with the oldest
item that is kept.
-/

namespace Queues

universe u
variable {Item : Type u}

/-- The item put last; the first is dropped from a queue that has reached its limit. -/
def push (limit : Nat) (queue : List Item) (item : Item) : List Item :=
  (if limit ≤ queue.length then queue.tail else queue) ++ [item]

/-- The first item that meets a condition, changed in place. -/
def modifyFirst (meets : Item → Bool) (change : Item → Item) : List Item → List Item
  | [] => []
  | item :: rest => if meets item then change item :: rest else item :: modifyFirst meets change rest

variable {limit : Nat} {queue : List Item} {item : Item}

theorem push_sublist : List.Sublist (push limit queue item) (queue ++ [item]) := by
  unfold push
  split
  · exact (List.tail_sublist queue).append_right [item]
  · exact List.Sublist.refl _

theorem mem_of_mem_push {other : Item} (member : other ∈ push limit queue item) :
    other ∈ queue ∨ other = item := by
  simpa using push_sublist.subset member

theorem mem_push_self : item ∈ push limit queue item :=
  List.mem_append_right _ (List.mem_singleton_self item)

/-- An item stays unless it is the first of a queue that has reached its limit. -/
theorem mem_push {other : Item} (member : other ∈ queue) :
    other ∈ push limit queue item ∨ (limit ≤ queue.length ∧ queue.head? = some other) := by
  unfold push
  split
  · rename_i full
    cases queue with
    | nil => cases member
    | cons first rest =>
      rcases List.mem_cons.mp member with rfl | later
      · exact Or.inr ⟨full, rfl⟩
      · exact Or.inl (List.mem_append_left _ later)
  · exact Or.inl (List.mem_append_left _ member)

/-- An item keeps what is behind it, unless it is the first of a queue that has reached its
limit. -/
theorem push_split {other : Item} {earlier later : List Item}
    (order : queue = earlier ++ other :: later) :
    (∃ fewer, push limit queue item = fewer ++ other :: (later ++ [item])) ∨
      (limit ≤ queue.length ∧ earlier = []) := by
  subst order
  unfold push
  split
  · rename_i full
    cases earlier with
    | nil => exact Or.inr ⟨full, rfl⟩
    | cons first rest => exact Or.inl ⟨rest, by simp⟩
  · exact Or.inl ⟨earlier, by simp⟩

/-- An item that every earlier one relates to keeps the queue in order. -/
theorem pairwise_push {related : Item → Item → Prop} (ordered : queue.Pairwise related)
    (newest : ∀ other ∈ queue, related other item) :
    (push limit queue item).Pairwise related := by
  refine List.Pairwise.sublist push_sublist ?_
  rw [List.pairwise_append]
  refine ⟨ordered, List.pairwise_singleton _ _, ?_⟩
  intro other member last same
  rw [List.mem_singleton.mp same]
  exact newest other member

/-- The latest items, as many as are kept. -/
def latest (limit : Nat) (items : List Item) : List Item :=
  items.drop (items.length - limit)

theorem length_latest (limit : Nat) (items : List Item) : (latest limit items).length ≤ limit := by
  rw [latest, List.length_drop]
  omega

theorem latest_of_length_le {items : List Item} (few : items.length ≤ limit) :
    latest limit items = items := by
  rw [latest, Nat.sub_eq_zero_of_le few, List.drop_zero]

/-- Of items in two parts the latest come from the second part first. -/
theorem latest_append (limit : Nat) (former items : List Item) :
    latest limit (former ++ items) =
      former.drop (former.length + items.length - limit) ++ latest limit items := by
  have past : former.length + items.length - limit - former.length = items.length - limit := by
    omega
  rw [latest, List.length_append, List.drop_append, past, latest]

/-- A queue that has the latest items has them after another one is put. -/
theorem push_latest (positive : 0 < limit) (items : List Item) (item : Item) :
    push limit (latest limit items) item = latest limit (items ++ [item]) := by
  have size : (latest limit items).length = items.length - (items.length - limit) :=
    List.length_drop ..
  rw [push, latest_append, List.length_singleton]
  have one : [item].length ≤ limit := positive
  rw [latest_of_length_le one]
  by_cases full : limit ≤ (latest limit items).length
  · rw [if_pos full, latest, List.tail_drop]
    have next : items.length - limit + 1 = items.length + 1 - limit := by omega
    rw [next]
  · rw [if_neg full, latest]
    have next : items.length - limit = items.length + 1 - limit := by omega
    rw [next]

/-! ### Changes in place -/

@[simp] theorem length_modifyFirst (meets : Item → Bool) (change : Item → Item)
    (queue : List Item) : (modifyFirst meets change queue).length = queue.length := by
  induction queue with
  | nil => rfl
  | cons item rest ih =>
    rw [modifyFirst]
    split
    · rfl
    · rw [List.length_cons, ih, List.length_cons]

theorem mem_modifyFirst {meets : Item → Bool} {change : Item → Item}
    (member : item ∈ modifyFirst meets change queue) :
    item ∈ queue ∨ ∃ former ∈ queue, meets former = true ∧ item = change former := by
  induction queue with
  | nil => exact Or.inl member
  | cons first rest ih =>
    rw [modifyFirst] at member
    split at member
    · rename_i found
      cases List.mem_cons.mp member with
      | inl same => exact Or.inr ⟨first, List.mem_cons_self .., found, same⟩
      | inr later => exact Or.inl (List.mem_cons_of_mem _ later)
    · cases List.mem_cons.mp member with
      | inl same => exact Or.inl (same ▸ List.mem_cons_self ..)
      | inr later =>
        rcases ih later with present | ⟨former, present, found, same⟩
        · exact Or.inl (List.mem_cons_of_mem _ present)
        · exact Or.inr ⟨former, List.mem_cons_of_mem _ present, found, same⟩

/-- When each key is queued once, the first item with a key is the only one. -/
theorem modifyFirst_eq_map {Key : Type u} [DecidableEq Key] {keyOf : Item → Key}
    (distinct : (queue.map keyOf).Nodup) (key : Key) (change : Item → Item) :
    modifyFirst (fun item => keyOf item = key) change queue =
      queue.map fun item => if keyOf item = key then change item else item := by
  induction queue with
  | nil => rfl
  | cons first rest ih =>
    rw [List.map_cons, List.nodup_cons] at distinct
    rw [modifyFirst, List.map_cons]
    by_cases found : keyOf first = key
    · rw [if_pos (decide_eq_true found), if_pos found]
      have others : rest.map (fun item => if keyOf item = key then change item else item) =
          rest.map id := by
        apply List.map_congr_left
        intro item member
        refine if_neg fun again => distinct.1 ?_
        rw [found, ← again]
        exact List.mem_map_of_mem member
      rw [others, List.map_id]
    · rw [if_neg (by simpa using found), if_neg found, ih distinct.2]

end Queues

/-! ### Broadcast channels -/

namespace BroadcastChannels

universe u
variable {Item : Type u}

inductive Received (Item : Type u) where
  | item (item : Item)
  | lagged (skipped : Nat)
deriving DecidableEq

/-- What a receiver gets, and its next position; nothing if all was read. -/
def receive (capacity : Nat) (sent : List Item) (position : Nat) :
    Option (Received Item × Nat) :=
  if capacity < sent.length - position then
    some (.lagged (sent.length - capacity - position), sent.length - capacity)
  else sent[position]?.map fun item => (.item item, position + 1)

variable {capacity position next skipped : Nat} {sent : List Item} {item : Item}

/-- An item is received only at its own position. -/
theorem receive_item (got : receive capacity sent position = some (.item item, next)) :
    sent[position]? = some item ∧ next = position + 1 := by
  unfold receive at got
  split at got
  · cases got
  · obtain ⟨found, there, same⟩ := Option.map_eq_some_iff.mp got
    obtain ⟨received, rfl⟩ := Prod.mk.inj same
    cases received
    exact ⟨there, rfl⟩

/-- What is reported as skipped is what lies before the next position. -/
theorem receive_lagged (got : receive capacity sent position = some (.lagged skipped, next)) :
    next = position + skipped ∧ 0 < skipped ∧ next ≤ sent.length := by
  unfold receive at got
  split at got
  · obtain ⟨received, rfl⟩ := Prod.mk.inj (Option.some.inj got)
    cases received
    omega
  · obtain ⟨found, there, same⟩ := Option.map_eq_some_iff.mp got
    cases (Prod.mk.inj same).1

end BroadcastChannels
