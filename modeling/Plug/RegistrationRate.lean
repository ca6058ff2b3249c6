import Mathlib.Data.List.Induction
import Plug.SlidingWindows
import Plug.Tables

/-!
# The rate of registrations

A client may register only so often in an hour, by a key for where it comes from. The times of the
registrations that were let through are kept for each key, up to an hour back, and for so many keys
at once.
-/

namespace Plug.RegistrationRate

open SlidingWindows

def registrationRateWindowSecs : Nat := 3600

def maxRegistrationsPerWindow : Nat := 10

def maxRegistrationRateKeys : Nat := 10000

/-- For each key the times that were let through. -/
abbrev Rate : Type := List (String × List Nat)

def prune (now : Nat) (events : List Nat) : List Nat :=
  events.dropWhile fun seen => seen + registrationRateWindowSecs ≤ now

def retain (now : Nat) (rate : Rate) : Rate :=
  (rate.map fun (key, events) => (key, prune now events)).filter fun item => item.2 ≠ []

def eventsOf (rate : Rate) (key : String) : List Nat := (Tables.get rate key).getD []

/-- Whether the registration is let through, and the times behind it. -/
def checkRegistrationRate (rate : Rate) (now : Nat) (key : String) : Bool × Rate :=
  let rate := retain now rate
  if !Tables.containsKey rate key && maxRegistrationRateKeys ≤ rate.length then (false, rate)
  else
    let events := eventsOf rate key
    if maxRegistrationsPerWindow ≤ events.length then (false, Tables.insert rate key events)
    else (true, Tables.insert rate key (events ++ [now]))

/-- The table has no room for the key. -/
def Full (rate : Rate) (now : Nat) (key : String) : Prop :=
  Tables.containsKey (retain now rate) key = false ∧
    maxRegistrationRateKeys ≤ (retain now rate).length

def afterAll (attempts : List (Nat × String)) : Rate :=
  attempts.foldl (fun rate (now, key) => (checkRegistrationRate rate now key).2) []

/-- The times at which a key was let through. -/
def accepted (key : String) (attempts : List (Nat × String)) : List Nat :=
  (attempts.foldl (fun (rate, times) (now, other) =>
    let (passed, next) := checkRegistrationRate rate now other
    (next, times ++ if passed && other = key then [now] else [])) (([], []) : Rate × List Nat)).2

/-- No attempt of the key meets a table without room for it. -/
def HasRoom (key : String) (attempts : List (Nat × String)) : Prop :=
  ∀ before now, before ++ [(now, key)] <+: attempts → ¬ Full (afterAll before) now key

/-! ### One attempt -/

variable {rate : Rate} {now : Nat} {key other : String} {attempts : List (Nat × String)}

theorem mem_retain {events : List Nat} : (key, events) ∈ retain now rate ↔
    ∃ former, (key, former) ∈ rate ∧ prune now former = events ∧ events ≠ [] := by
  unfold retain
  rw [List.mem_filter, List.mem_map, decide_eq_true_eq]
  constructor
  · rintro ⟨⟨⟨_, former⟩, member, same⟩, filled⟩
    obtain ⟨rfl, pruned⟩ := Prod.mk.inj same
    exact ⟨former, member, pruned, filled⟩
  · rintro ⟨former, member, pruned, filled⟩
    exact ⟨⟨(key, former), member, congrArg (Prod.mk key) pruned⟩, filled⟩

theorem retain_distinct (distinct : Tables.Distinct rate) : Tables.Distinct (retain now rate) := by
  apply Tables.Distinct.filter
  unfold Tables.Distinct
  rw [List.map_map]
  exact distinct

theorem eventsOf_retain (distinct : Tables.Distinct rate) :
    eventsOf (retain now rate) key = prune now (eventsOf rate key) := by
  have pruned : ∀ former, (key, former) ∈ rate → eventsOf (retain now rate) key = prune now former := by
    intro former member
    by_cases filled : prune now former = []
    · have absent : Tables.get (retain now rate) key = none := by
        apply Tables.get_eq_none.mpr
        intro events among
        obtain ⟨second, same, rfl, other⟩ := mem_retain.mp among
        have found := Tables.get_of_mem distinct member
        rw [Tables.get_of_mem distinct same] at found
        rw [Option.some.inj found] at other
        exact other filled
      rw [eventsOf, absent, filled]
      rfl
    · have kept : (key, prune now former) ∈ retain now rate :=
        mem_retain.mpr ⟨former, member, rfl, filled⟩
      rw [eventsOf, Tables.get_of_mem (retain_distinct distinct) kept]
      rfl
  cases found : Tables.get rate key with
  | some former =>
    rw [pruned former (Tables.mem_of_get found), eventsOf, found]
    rfl
  | none =>
    have absent : Tables.get (retain now rate) key = none := by
      apply Tables.get_eq_none.mpr
      intro events among
      obtain ⟨former, member, _⟩ := mem_retain.mp among
      exact Tables.get_eq_none.mp found former member
    rw [eventsOf, absent, eventsOf, found]
    rfl

/-- An attempt is let through if there is room for its key and fewer than the limit are recent. -/
theorem check_passes (distinct : Tables.Distinct rate) :
    (checkRegistrationRate rate now key).1 = true ↔ ¬ Full rate now key ∧
      (prune now (eventsOf rate key)).length < maxRegistrationsPerWindow := by
  rw [← eventsOf_retain distinct]
  unfold checkRegistrationRate Full
  dsimp only
  split
  · rename_i full
    rw [Bool.and_eq_true, Bool.not_eq_true', decide_eq_true_eq] at full
    exact iff_of_false Bool.false_ne_true fun passes => passes.1 full
  · rename_i room
    rw [Bool.and_eq_true, Bool.not_eq_true', decide_eq_true_eq] at room
    split
    · rename_i many
      exact iff_of_false Bool.false_ne_true fun passes => absurd passes.2 (Nat.not_lt_of_le many)
    · rename_i few
      exact iff_of_true rfl ⟨room, Nat.lt_of_not_le few⟩

/-- Each key is left with its recent times, and with the attempt if that is let through. -/
theorem check_events (distinct : Tables.Distinct rate) :
    eventsOf (checkRegistrationRate rate now key).2 other =
      prune now (eventsOf rate other) ++
        if (checkRegistrationRate rate now key).1 && key = other then [now] else [] := by
  have inserted : ∀ events, eventsOf (Tables.insert (retain now rate) key events) other =
      if key = other then events else prune now (eventsOf rate other) := by
    intro events
    unfold eventsOf
    split
    · rename_i same
      rw [← same, Tables.get_insert_self]
      rfl
    · rename_i apart
      rw [Tables.get_insert_of_ne (Ne.symm apart)]
      exact eventsOf_retain distinct
  unfold checkRegistrationRate
  dsimp only
  split
  · rw [eventsOf_retain distinct]
    simp
  · split
    · rw [inserted]
      split
      · rename_i same
        rw [same, eventsOf_retain distinct]
        simp
      · simp
    · rw [inserted]
      split
      · rename_i same
        rw [same, eventsOf_retain distinct]
        simp
      · rename_i apart
        simp [apart]

theorem check_distinct (distinct : Tables.Distinct rate) (now : Nat) (key : String) :
    Tables.Distinct (checkRegistrationRate rate now key).2 := by
  have kept : Tables.Distinct (retain now rate) := retain_distinct distinct
  unfold checkRegistrationRate
  dsimp only
  split
  · exact kept
  · split
    · exact kept.insert _ _
    · exact kept.insert _ _

/-! ### Runs -/

theorem afterAll_concat (attempts : List (Nat × String)) (now : Nat) (key : String) :
    afterAll (attempts ++ [(now, key)]) =
      (checkRegistrationRate (afterAll attempts) now key).2 := by
  rw [afterAll, List.foldl_append]
  rfl

theorem accepted_concat (key : String) (attempts : List (Nat × String)) (now : Nat)
    (other : String) : accepted key (attempts ++ [(now, other)]) = accepted key attempts ++
      if (checkRegistrationRate (afterAll attempts) now other).1 && other = key then [now]
      else [] := by
  have table : ∀ attempts : List (Nat × String),
      (attempts.foldl (fun (rate, times) (now, other) =>
        let (passed, next) := checkRegistrationRate rate now other
        (next, times ++ if passed && other = key then [now] else []))
          (([], []) : Rate × List Nat)).1 = afterAll attempts := by
    intro attempts
    induction attempts using List.reverseRecOn with
    | nil => rfl
    | append_singleton attempts attempt ih =>
      rw [List.foldl_concat, afterAll_concat, ← ih]
  rw [accepted, List.foldl_concat, ← table, accepted]

/-- The table knows of each key what was let through, as far as it is recent. -/
structure Tracks (attempts : List (Nat × String)) (last : Nat) : Prop where
  distinct : Tables.Distinct (afterAll attempts)
  ordered : ∀ key, (eventsOf (afterAll attempts) key).Pairwise (· ≤ ·)
  past : ∀ key, ∀ time ∈ eventsOf (afterAll attempts) key, time ≤ last
  recent : ∀ key now, last ≤ now →
    recent registrationRateWindowSecs now (eventsOf (afterAll attempts) key) =
      recent registrationRateWindowSecs now (accepted key attempts)

theorem Tracks.prune {last : Nat} (tracks : Tracks attempts last) (order : last ≤ now) :
    prune now (eventsOf (afterAll attempts) key) =
      SlidingWindows.recent registrationRateWindowSecs now (accepted key attempts) := by
  rw [RegistrationRate.prune, dropWhile_eq_recent (tracks.ordered key), tracks.recent key now order]

theorem tracks_nil (last : Nat) : Tracks [] last where
  distinct := List.nodup_nil
  ordered _ := List.Pairwise.nil
  past _ _ member := absurd member List.not_mem_nil
  recent _ _ _ := rfl

/-- What an attempt keeps of what is known. -/
theorem Tracks.concat {last : Nat} (tracks : Tracks attempts last) (order : last ≤ now)
    (key : String) : Tracks (attempts ++ [(now, key)]) now := by
  have events : ∀ other, eventsOf (afterAll (attempts ++ [(now, key)])) other =
      SlidingWindows.recent registrationRateWindowSecs now (accepted other attempts) ++
        if (checkRegistrationRate (afterAll attempts) now key).1 && key = other then [now]
        else [] := by
    intro other
    rw [afterAll_concat, check_events tracks.distinct, tracks.prune order]
  have kept : ∀ other, ∀ time ∈ SlidingWindows.recent registrationRateWindowSecs now
      (accepted other attempts), time ≤ last := by
    intro other time member
    rw [← tracks.prune order] at member
    exact tracks.past other time ((List.dropWhile_suffix _).subset member)
  constructor
  · rw [afterAll_concat]
    exact check_distinct tracks.distinct now key
  · intro other
    rw [events, ← tracks.prune order, List.pairwise_append]
    refine ⟨(tracks.ordered other).sublist (List.dropWhile_sublist _), ?_, ?_⟩
    · split
      · exact List.pairwise_singleton _ _
      · exact List.Pairwise.nil
    · intro time member second behind
      rw [tracks.prune order] at member
      have early := kept other time member
      split at behind
      · rw [List.mem_singleton.mp behind]
        exact Nat.le_trans early order
      · exact absurd behind List.not_mem_nil
  · intro other time member
    rw [events] at member
    rcases List.mem_append.mp member with former | added
    · exact Nat.le_trans (kept other time former) order
    · split at added
      · exact Nat.le_of_eq (List.mem_singleton.mp added)
      · exact absurd added List.not_mem_nil
  · intro other later further
    have added : ∀ front : List Nat, SlidingWindows.recent registrationRateWindowSecs later
        (front ++ if (checkRegistrationRate (afterAll attempts) now key).1 && key = other then [now]
          else []) = SlidingWindows.recent registrationRateWindowSecs later front ++
        SlidingWindows.recent registrationRateWindowSecs later
          (if (checkRegistrationRate (afterAll attempts) now key).1 && key = other then [now]
            else []) := fun front => List.filter_append front _
    rw [events, accepted_concat, added, added, recent_recent further]

theorem Tracks.later {last : Nat} (tracks : Tracks attempts last) (order : last ≤ now) :
    Tracks attempts now where
  distinct := tracks.distinct
  ordered := tracks.ordered
  past key time member := Nat.le_trans (tracks.past key time member) order
  recent key after further := tracks.recent key after (Nat.le_trans order further)

def Ordered (attempts : List (Nat × String)) : Prop :=
  attempts.Pairwise fun first second => first.1 ≤ second.1

theorem tracks_of_ordered (ordered : Ordered (attempts ++ [(now, key)])) : Tracks attempts now := by
  induction attempts using List.reverseRecOn generalizing now key with
  | nil => exact tracks_nil now
  | append_singleton attempts attempt ih =>
    obtain ⟨before, _, behind⟩ := List.pairwise_append.mp ordered
    have order := behind attempt (List.mem_append_right _ List.mem_cons_self) (now, key)
      List.mem_cons_self
    exact ((ih before).concat (Nat.le_refl _) attempt.2).later order

/-- An attempt is let through if there is room, and fewer than the limit were in the last hour. -/
theorem passes_iff (ordered : Ordered (attempts ++ [(now, key)])) :
    (checkRegistrationRate (afterAll attempts) now key).1 = true ↔
      ¬ Full (afterAll attempts) now key ∧
        (recent registrationRateWindowSecs now (accepted key attempts)).length <
          maxRegistrationsPerWindow := by
  have tracks := tracks_of_ordered ordered
  rw [check_passes tracks.distinct, tracks.prune (Nat.le_refl now)]

theorem accepted_within (ordered : Ordered attempts) (key : String) :
    Within registrationRateWindowSecs maxRegistrationsPerWindow (accepted key attempts) := by
  induction attempts using List.reverseRecOn with
  | nil => exact within_nil
  | append_singleton attempts attempt ih =>
    have before := ih (List.pairwise_append.mp ordered).1
    rw [accepted_concat]
    split
    · rename_i passed
      rw [Bool.and_eq_true, decide_eq_true_eq] at passed
      obtain ⟨passed, rfl⟩ := passed
      exact before.concat ((passes_iff ordered).mp passed).2
    · rw [List.append_nil]
      exact before

/-! ### One key alone -/

def attemptsOf (key : String) (attempts : List (Nat × String)) : List (Nat × String) :=
  attempts.filter fun attempt => attempt.2 = key

/-- With one key there is always room. -/
theorem alone_room (key : String) (attempts : List (Nat × String)) (now : Nat) :
    ¬ Full (afterAll (attemptsOf key attempts)) now key := by
  have own : ∀ attempts : List (Nat × String), (∀ attempt ∈ attempts, attempt.2 = key) →
      ∀ item ∈ afterAll attempts, item.1 = key := by
    intro attempts all
    induction attempts using List.reverseRecOn with
    | nil => exact fun item member => absurd member List.not_mem_nil
    | append_singleton attempts attempt ih =>
      have before := ih fun attempt member =>
        all attempt (List.mem_append_left _ member)
      have last : attempt.2 = key := all attempt (List.mem_append_right _ List.mem_cons_self)
      have pruned : ∀ item ∈ retain attempt.1 (afterAll attempts), item.1 = key := by
        intro item member
        obtain ⟨former, among, _⟩ := mem_retain.mp member
        exact before (item.1, former) among
      have inserted : ∀ events, ∀ item ∈ Tables.insert (retain attempt.1 (afterAll attempts))
          attempt.2 events, item.1 = key := by
        intro events item member
        rcases Tables.mem_insert.mp member with rfl | ⟨among, _⟩
        · exact last
        · exact pruned item among
      rw [afterAll_concat, checkRegistrationRate]
      dsimp only
      split
      · exact pruned
      · split
        · exact inserted _
        · exact inserted _
  rintro ⟨absent, many⟩
  have empty : retain now (afterAll (attemptsOf key attempts)) = [] := by
    apply List.eq_nil_iff_forall_not_mem.mpr
    rintro ⟨other, events⟩ member
    obtain ⟨former, among, _⟩ := mem_retain.mp member
    have same := own _ (fun attempt kept => of_decide_eq_true (List.mem_filter.mp kept).2) _ among
    have present := Tables.containsKey_iff.mpr ⟨events, member⟩
    rw [show other = key from same, absent] at present
    cases present
  rw [empty] at many
  exact absurd many (by decide)

theorem ordered_own (ordered : Ordered attempts) (key : String) :
    Ordered (attemptsOf key attempts) := ordered.sublist List.filter_sublist

theorem HasRoom.front (room : HasRoom key (attempts ++ [(now, other)])) : HasRoom key attempts :=
  fun before time begins => room before time (begins.trans (List.prefix_append _ _))

/-- While there is room, a key is let through as often as without the others. -/
theorem accepted_own (ordered : Ordered attempts) (room : HasRoom key attempts) :
    accepted key (attemptsOf key attempts) = accepted key attempts := by
  induction attempts using List.reverseRecOn with
  | nil => rfl
  | append_singleton attempts attempt ih =>
    obtain ⟨now, other⟩ := attempt
    have before := ih (List.pairwise_append.mp ordered).1 room.front
    by_cases same : other = key
    · obtain rfl := same
      have own : attemptsOf other (attempts ++ [(now, other)]) =
          attemptsOf other attempts ++ [(now, other)] := by
        simp [attemptsOf]
      have alone := ordered_own ordered other
      rw [own] at alone ⊢
      have equal : (checkRegistrationRate (afterAll (attemptsOf other attempts)) now other).1 =
          (checkRegistrationRate (afterAll attempts) now other).1 := by
        rw [Bool.eq_iff_iff, passes_iff alone, passes_iff ordered, before]
        exact and_congr_left fun _ => iff_of_true (alone_room other attempts now)
          (room attempts now List.prefix_rfl)
      rw [accepted_concat, accepted_concat, before, equal]
    · have own : attemptsOf key (attempts ++ [(now, other)]) = attemptsOf key attempts := by
        simp [attemptsOf, same]
      rw [own, accepted_concat, before]
      simp [same]

/-- For attempts in the order of time: no window of an hour has more than the limit of one key that
are let through, and one is refused only for as many in the hour behind it or for want of room.
While there is room the other keys change nothing. -/
theorem registrations_limited (attempts : List (Nat × String)) (now : Nat) (key : String)
    (ordered : Ordered (attempts ++ [(now, key)])) :
    Within registrationRateWindowSecs maxRegistrationsPerWindow
      (accepted key (attempts ++ [(now, key)])) ∧
    ((checkRegistrationRate (afterAll attempts) now key).1 = false →
      maxRegistrationsPerWindow ≤
          (recent registrationRateWindowSecs now (accepted key attempts)).length ∨
        Full (afterAll attempts) now key) ∧
    (HasRoom key (attempts ++ [(now, key)]) →
      (checkRegistrationRate (afterAll attempts) now key).1 =
        (checkRegistrationRate (afterAll (attemptsOf key attempts)) now key).1) := by
  refine ⟨accepted_within ordered key, ?_, ?_⟩
  · intro refused
    by_contra neither
    have passes := (passes_iff ordered).mpr
      ⟨fun full => neither (Or.inr full), Nat.lt_of_not_le fun many => neither (Or.inl many)⟩
    rw [refused] at passes
    cases passes
  · intro room
    have own : attemptsOf key (attempts ++ [(now, key)]) =
        attemptsOf key attempts ++ [(now, key)] := by
      simp [attemptsOf]
    have alone := ordered_own ordered key
    rw [own] at alone
    have before := accepted_own (List.pairwise_append.mp ordered).1 room.front
    rw [Bool.eq_iff_iff, passes_iff alone, passes_iff ordered, before]
    exact and_congr_left fun _ => iff_of_true (room attempts now List.prefix_rfl)
      (alone_room key attempts now)

theorem registrations_limited_twice :
    Within registrationRateWindowSecs maxRegistrationsPerWindow
      (accepted "peer" [(5, "peer"), (6, "peer")]) :=
  (registrations_limited [(5, "peer")] 6 "peer" (by simp [Ordered])).1

end Plug.RegistrationRate
