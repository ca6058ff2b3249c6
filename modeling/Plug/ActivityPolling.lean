import Plug.Queues
import Plug.Runs

/-!
# Polls of the activity

`record` draws a number and then, under the lock, appends the event to a ring of 500; between the
two another call may draw and append. A poller asks for what has a larger number than the largest
that it has seen. The numbers of 64 bits are taken not to run out.
-/

namespace Plug.Activity

def activityCapacity : Nat := 500

inductive ActivityOutcome where
  | success
  | error
  | cancelled
deriving DecidableEq

/-- `details` is what the event says beside its number and its outcome. -/
structure ActivityEvent (Details : Type) where
  sequence : Nat
  outcome : ActivityOutcome
  details : Details
deriving DecidableEq

structure ActivityFilter where
  afterSequence : Nat
  failuresOnly : Bool
  limit : Nat

variable {Details : Type}

def snapshot (events : List (ActivityEvent Details)) (filter : ActivityFilter) :
    List (ActivityEvent Details) :=
  let limit := if filter.limit = 0 then activityCapacity else min filter.limit activityCapacity
  ((((events.filter fun event => decide (filter.afterSequence < event.sequence)).filter fun event =>
    !filter.failuresOnly || decide (event.outcome ≠ .success)).reverse).take limit).reverse

/-- `drawn` has the events that have a number and wait for the lock. The poller has `cursor`.
What was recorded in all, how much of it before the last poll, what was returned at each poll and
what was to be returned only is for the statements. -/
structure State (Details : Type) where
  nextSequence : Nat
  drawn : List (ActivityEvent Details)
  events : List (ActivityEvent Details)
  cursor : Nat
  recorded : List (ActivityEvent Details)
  polled : Nat
  snapshots : List (List (ActivityEvent Details))
  owed : List (ActivityEvent Details)

def State.new : State Details := ⟨1, [], [], 0, [], 0, [], []⟩

inductive Act (Details : Type) where
  /-- The two sections of `record`. -/
  | draw (outcome : ActivityOutcome) (details : Details)
  | append (index : Nat)
  | poll

/-- What the poller is told if it asks now. -/
def State.poll (state : State Details) : List (ActivityEvent Details) :=
  snapshot state.events ⟨state.cursor, false, 0⟩

/-- What it should be told: all that was recorded since the last poll and was not pushed out by as
many newer events as are kept. -/
def State.due (state : State Details) : List (ActivityEvent Details) :=
  Queues.latest activityCapacity (state.recorded.drop state.polled)

def step (state : State Details) : Act Details → Option (State Details)
  | .draw outcome details =>
    some { state with
      nextSequence := state.nextSequence + 1
      drawn := state.drawn ++ [⟨state.nextSequence, outcome, details⟩] }
  | .append index =>
    match state.drawn[index]? with
    | some event =>
      some { state with
        drawn := state.drawn.eraseIdx index
        events := Queues.push activityCapacity state.events event
        recorded := state.recorded ++ [event] }
    | none => none
  | .poll =>
    some { state with
      cursor := (state.poll.map (·.sequence)).foldl max state.cursor
      polled := state.recorded.length
      snapshots := state.snapshots ++ [state.poll]
      owed := state.owed ++ state.due }

def Rising (events : List (ActivityEvent Details)) : Prop :=
  events.Pairwise fun event other => event.sequence < other.sequence

/-- A poll now would return what is due, in the order of the numbers. -/
def State.Answers (state : State Details) : Prop :=
  state.poll = state.due ∧ Rising state.poll

/-- No event is appended after one with a larger number. -/
def InOrder (state : State Details) : Act Details → Prop
  | .append index => ∀ event, state.drawn[index]? = some event →
      ∀ other ∈ state.recorded, other.sequence < event.sequence
  | _ => True

/-! ### What a run keeps -/

/-- The largest number of those given and a former one. -/
theorem foldl_max (numbers : List Nat) (former : Nat) :
    former ≤ numbers.foldl max former ∧ ∀ number ∈ numbers, number ≤ numbers.foldl max former := by
  induction numbers generalizing former with
  | nil => exact ⟨Nat.le_refl _, nofun⟩
  | cons first rest ih =>
    obtain ⟨bound, rest'⟩ := ih (max former first)
    rw [List.foldl_cons]
    constructor
    · omega
    · intro number member
      obtain rfl | later := List.mem_cons.mp member
      · omega
      · exact rest' number later

theorem foldl_max_cases (numbers : List Nat) (former : Nat) :
    numbers.foldl max former = former ∨ numbers.foldl max former ∈ numbers := by
  induction numbers generalizing former with
  | nil => exact Or.inl rfl
  | cons first rest ih =>
    rw [List.foldl_cons]
    obtain same | later := ih (max former first)
    · rw [same]
      obtain kept | taken := Nat.le_total first former
      · exact Or.inl (Nat.max_eq_left kept)
      · rw [Nat.max_eq_right taken]
        exact Or.inr List.mem_cons_self
    · exact Or.inr (List.mem_cons_of_mem _ later)

theorem ends_of_mem {Item : Type} {items : List Item} {item : Item} (member : item ∈ items) :
    ∃ former last, items = former ++ [last] :=
  ⟨_, _, (List.dropLast_append_getLast (List.ne_nil_of_mem member)).symm⟩

/-- The last items of a few are among the latest. -/
theorem latest_ends (former : List (ActivityEvent Details)) {items : List (ActivityEvent Details)}
    (few : items.length ≤ activityCapacity) :
    ∃ front, Queues.latest activityCapacity (former ++ items) = front ++ items :=
  ⟨_, by rw [Queues.latest_append, Queues.latest_of_length_le few]⟩

structure Ordered (state : State Details) : Prop where
  positive : 0 < state.nextSequence
  drawn : ∀ event ∈ state.drawn, 0 < event.sequence
  kept : state.events = Queues.latest activityCapacity state.recorded
  rising : Rising state.recorded
  seen : ∀ event ∈ state.recorded.take state.polled, event.sequence ≤ state.cursor
  unseen : ∀ event ∈ state.recorded.drop state.polled, state.cursor < event.sequence
  reached : state.cursor = 0 ∨ ∃ event ∈ state.recorded, event.sequence = state.cursor
  polled : state.polled ≤ state.recorded.length
  returned : state.snapshots.flatten = state.owed
  sorted : ∀ answer ∈ state.snapshots, Rising answer
  owed : List.Sublist state.owed (state.recorded.take state.polled)

section Steps

variable {state next : State Details} {act : Act Details}

/-- Without a limit and with successes, a snapshot is all that is newer. -/
theorem snapshot_all {events : List (ActivityEvent Details)} (bounded : events.length ≤ activityCapacity)
    (after : Nat) : snapshot events ⟨after, false, 0⟩ =
      events.filter fun event => decide (after < event.sequence) := by
  have fewer : (events.filter fun event => decide (after < event.sequence)).length ≤
      activityCapacity :=
    Nat.le_trans (List.length_filter_le ..) bounded
  simp only [snapshot, if_pos, Bool.not_false, Bool.true_or, List.filter_true]
  rw [List.take_of_length_le (by rwa [List.length_reverse]), List.reverse_reverse]

theorem newer_of_poll {event : ActivityEvent Details} (member : event ∈ state.poll) :
    state.cursor < event.sequence := by
  have inside := List.mem_of_mem_take (List.mem_reverse.mp member)
  have passed := (List.mem_filter.mp (List.mem_reverse.mp inside)).1
  exact of_decide_eq_true (List.mem_filter.mp passed).2

/-- A poll returns what is newer of the events that are kept. -/
theorem Ordered.poll_eq (ordered : Ordered state) : state.poll =
    state.events.filter fun event => decide (state.cursor < event.sequence) := by
  refine snapshot_all ?_ state.cursor
  rw [ordered.kept]
  exact Queues.length_latest ..

theorem Ordered.answers (ordered : Ordered state) : state.Answers := by
  have same : state.poll = state.due := by
    have parts : state.recorded = state.recorded.take state.polled ++
        state.recorded.drop state.polled :=
      (List.take_append_drop ..).symm
    rw [ordered.poll_eq, ordered.kept]
    conv_lhs => rw [parts, Queues.latest_append, List.filter_append]
    have old : ((state.recorded.take state.polled).drop
        ((state.recorded.take state.polled).length + (state.recorded.drop state.polled).length -
          activityCapacity)).filter (fun event => decide (state.cursor < event.sequence)) = [] := by
      rw [List.filter_eq_nil_iff]
      intro event member
      have before := ordered.seen event (List.mem_of_mem_drop member)
      simpa using before
    rw [old, List.nil_append]
    apply List.filter_eq_self.mpr
    intro event member
    exact decide_eq_true (ordered.unseen event (List.mem_of_mem_drop member))
  refine ⟨same, ?_⟩
  rw [same]
  have since : Rising (state.recorded.drop state.polled) := ordered.rising.drop
  exact List.Pairwise.drop since

theorem ordered_new : Ordered (.new : State Details) where
  positive := Nat.one_pos
  drawn := nofun
  kept := (Queues.latest_of_length_le (Nat.zero_le _)).symm
  rising := List.Pairwise.nil
  seen := nofun
  unseen := nofun
  reached := Or.inl rfl
  polled := Nat.le_refl 0
  returned := rfl
  sorted := nofun
  owed := List.nil_sublist _

/-- An event with a number above all before is appended. -/
theorem Ordered.append (ordered : Ordered state) {event : ActivityEvent Details}
    (positive : 0 < event.sequence)
    (newest : ∀ other ∈ state.recorded, other.sequence < event.sequence)
    {drawn : List (ActivityEvent Details)} (fewer : ∀ other ∈ drawn, other ∈ state.drawn) :
    Ordered { state with
      drawn := drawn
      events := Queues.push activityCapacity state.events event
      recorded := state.recorded ++ [event] } where
  positive := ordered.positive
  drawn other member := ordered.drawn other (fewer other member)
  kept := by
    rw [ordered.kept]
    exact Queues.push_latest (by decide) state.recorded event
  rising := by
    refine List.pairwise_append.mpr ⟨ordered.rising, List.pairwise_singleton _ _, ?_⟩
    intro other member last same
    rw [List.mem_singleton.mp same]
    exact newest other member
  seen other member := by
    rw [List.take_append_of_le_length ordered.polled] at member
    exact ordered.seen other member
  unseen other member := by
    rw [List.drop_append_of_le_length ordered.polled] at member
    obtain before | here := List.mem_append.mp member
    · exact ordered.unseen other before
    · rw [List.mem_singleton.mp here]
      obtain none | ⟨last, among, same⟩ := ordered.reached
      · exact none ▸ positive
      · exact same ▸ newest last among
  reached := ordered.reached.imp_right fun ⟨last, among, same⟩ =>
    ⟨last, List.mem_append_left _ among, same⟩
  polled := by
    rw [List.length_append]
    exact Nat.le_trans ordered.polled (Nat.le_add_right ..)
  returned := ordered.returned
  sorted := ordered.sorted
  owed := by
    rw [List.take_append_of_le_length ordered.polled]
    exact ordered.owed

/-- After a poll the largest number seen is the largest one recorded. -/
theorem Ordered.polls (ordered : Ordered state) : Ordered { state with
      cursor := (state.poll.map (·.sequence)).foldl max state.cursor
      polled := state.recorded.length
      snapshots := state.snapshots ++ [state.poll]
      owed := state.owed ++ state.due } := by
  obtain ⟨same, rising⟩ := ordered.answers
  obtain ⟨above, largest⟩ := foldl_max (state.poll.map (·.sequence)) state.cursor
  have inside : ∀ event ∈ state.poll, event ∈ state.recorded := by
    intro event member
    rw [same] at member
    exact List.mem_of_mem_drop (List.mem_of_mem_drop member)
  have seen : ∀ event ∈ state.recorded,
      event.sequence ≤ (state.poll.map (·.sequence)).foldl max state.cursor := by
    intro event member
    rw [← List.take_append_drop state.polled state.recorded] at member
    obtain before | since := List.mem_append.mp member
    · exact Nat.le_trans (ordered.seen event before) above
    · obtain ⟨former, last, ends⟩ := ends_of_mem since
      have one : [last].length ≤ activityCapacity := by
        rw [List.length_singleton]
        decide
      obtain ⟨front, shown⟩ := latest_ends former one
      have returned : last ∈ state.poll := by
        rw [same, State.due, ends, shown]
        exact List.mem_append_right _ List.mem_cons_self
      refine Nat.le_trans ?_ (largest _ (List.mem_map_of_mem returned))
      have since' : Rising (state.recorded.drop state.polled) := ordered.rising.drop
      rw [ends] at since since'
      obtain earlier | here := List.mem_append.mp since
      · exact Nat.le_of_lt ((List.pairwise_append.mp since').2.2 event earlier last List.mem_cons_self)
      · exact Nat.le_of_eq (congrArg _ (List.mem_singleton.mp here))
  have whole : state.recorded.take state.recorded.length = state.recorded := List.take_length
  have none : state.recorded.drop state.recorded.length = [] := List.drop_length
  have reached (number : Nat) (member : number ∈ state.poll.map (·.sequence)) :
      ∃ event ∈ state.recorded, event.sequence = number := by
    obtain ⟨event, returned, rfl⟩ := List.mem_map.mp member
    exact ⟨event, inside event returned, rfl⟩
  constructor
  · exact ordered.positive
  · exact ordered.drawn
  · exact ordered.kept
  · exact ordered.rising
  · intro event member
    exact seen event (whole ▸ member)
  · intro event member
    rw [none] at member
    cases member
  · obtain unmoved | moved := foldl_max_cases (state.poll.map (·.sequence)) state.cursor
    · rw [unmoved]
      exact ordered.reached
    · exact Or.inr (reached _ moved)
  · exact Nat.le_refl _
  · rw [List.flatten_append, ordered.returned, List.flatten_singleton, same]
  · intro answer member
    obtain before | here := List.mem_append.mp member
    · exact ordered.sorted answer before
    · exact List.mem_singleton.mp here ▸ rising
  · rw [whole]
    conv_rhs => rw [← List.take_append_drop state.polled state.recorded]
    exact ordered.owed.append (List.drop_sublist ..)

theorem ordered_step (ordered : Ordered state) (admitted : InOrder state act)
    (stepped : step state act = some next) : Ordered next := by
  cases act with
  | draw outcome details =>
    cases stepped
    refine { ordered with positive := Nat.succ_pos _, drawn := ?_ }
    intro event member
    obtain before | here := List.mem_append.mp member
    · exact ordered.drawn event before
    · rw [List.mem_singleton.mp here]
      exact ordered.positive
  | append index =>
    rw [step] at stepped
    split at stepped
    · rename_i event found
      cases stepped
      exact ordered.append (ordered.drawn event (List.mem_of_getElem? found))
        (admitted event found) fun other member => List.mem_of_mem_eraseIdx member
    · cases stepped
  | poll =>
    cases stepped
    exact ordered.polls

/-- An event appended out of order is missed by the next poll, or spoils its order. -/
theorem inOrder_of_answers (ordered : Ordered state) (stepped : step state act = some next)
    (answers : next.Answers) : InOrder state act := by
  cases act with
  | draw outcome details => trivial
  | poll => trivial
  | append index =>
    intro event found other member
    rw [step, found] at stepped
    cases stepped
    obtain ⟨same, rising⟩ := answers
    -- The event is due, so that it has a number above the cursor.
    have drop : (state.recorded ++ [event]).drop state.polled =
        state.recorded.drop state.polled ++ [event] :=
      List.drop_append_of_le_length ordered.polled
    have one : [event].length ≤ activityCapacity := by
      rw [List.length_singleton]
      decide
    obtain ⟨front, shown⟩ := latest_ends (state.recorded.drop state.polled) one
    have due : event ∈ State.poll { state with
        drawn := state.drawn.eraseIdx index
        events := Queues.push activityCapacity state.events event
        recorded := state.recorded ++ [event] } := by
      rw [same, State.due, drop, shown]
      exact List.mem_append_right _ List.mem_cons_self
    have above := newer_of_poll due
    have newer : state.cursor < event.sequence := above
    rw [← List.take_append_drop state.polled state.recorded] at member
    obtain before | since := List.mem_append.mp member
    · exact Nat.lt_of_le_of_lt (ordered.seen other before) newer
    · obtain ⟨former, last, ends⟩ := ends_of_mem since
      have two : [last, event].length ≤ activityCapacity := by
        rw [List.length_cons, List.length_singleton]
        decide
      obtain ⟨front, shown⟩ := latest_ends former two
      rw [same, State.due, drop, ends, List.append_assoc, List.singleton_append, shown] at rising
      have follows : last.sequence < event.sequence := by
        have pair := (List.pairwise_append.mp rising).2.1
        exact (List.pairwise_cons.mp pair).1 event List.mem_cons_self
      have since' : Rising (state.recorded.drop state.polled) := ordered.rising.drop
      rw [ends] at since since'
      obtain earlier | here := List.mem_append.mp since
      · have below := (List.pairwise_append.mp since').2.2 other earlier last List.mem_cons_self
        exact Nat.lt_trans below follows
      · rw [List.mem_singleton.mp here]
        exact follows

theorem inOrder_of_refused (refused : step state act = none) : InOrder state act := by
  cases act with
  | append index =>
    intro event found
    rw [step, found] at refused
    cases refused
  | _ => trivial

end Steps

/-- In every run, a poll would at any time return exactly what is due, in increasing order, exactly
if no event is appended after one with a larger number. Then the answers to all polls are each in
increasing order, and together they are all that was due at one poll or another, nothing twice. -/
theorem polls_iff (trace : List (Act Details)) :
    (Runs.Admitted step InOrder .new trace ↔
      ∀ front final, front <+: trace → Runs.exec step .new front = some final → final.Answers) ∧
    (Runs.Admitted step InOrder .new trace →
      ∀ final, Runs.exec step .new trace = some final →
        (∀ answer ∈ final.snapshots, Rising answer) ∧ final.snapshots.flatten = final.owed ∧
          Rising final.owed) := by
  constructor
  · exact Runs.admitted_iff_seen
      (fun _ _ _ admitted ordered stepped => ordered_step ordered admitted stepped)
      (fun _ _ _ ordered stepped answers => inOrder_of_answers ordered stepped answers)
      (fun _ ordered => ordered.answers) (fun _ _ refused => inOrder_of_refused refused)
      trace .new ordered_new
  · intro admitted final ran
    have ordered : Ordered final :=
      Runs.exec_invariant step InOrder Ordered
        (fun _ _ _ admitted ordered stepped => ordered_step ordered admitted stepped)
        trace .new final ordered_new admitted ran
    refine ⟨ordered.sorted, ordered.returned, ?_⟩
    have rising : Rising (final.recorded.take final.polled) := ordered.rising.take
    exact rising.sublist ordered.owed

/-- Two calls draw their numbers, and the second one appends first. -/
def overtaken : List (Act Unit) :=
  [.draw .success (), .draw .error (), .append 1, .poll, .append 0, .poll]

/-- The poller sees the second event, and never the first. -/
theorem first_missed : ∃ final, Runs.exec step .new overtaken = some final ∧
    final.recorded = [⟨2, .error, ()⟩, ⟨1, .success, ()⟩] ∧
    final.snapshots = [[⟨2, .error, ()⟩], []] := by
  have shown : ((Runs.exec step .new overtaken).map fun final =>
      (final.recorded, final.snapshots)) =
      some ([⟨2, .error, ()⟩, ⟨1, .success, ()⟩], [[⟨2, .error, ()⟩], []]) := by
    decide +kernel
  obtain ⟨final, ran, seen⟩ := Option.map_eq_some_iff.mp shown
  exact ⟨final, ran, (Prod.mk.inj seen).1, (Prod.mk.inj seen).2⟩

end Plug.Activity
