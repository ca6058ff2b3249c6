import Plug.ToolListings

/-!
# The stored tools catch up

A listing that was asked for after the last announcement is always under way or has stored its
answer. So the stored tools are an answer to it, or to one asked for as late, as long as no listing
stores after one that was asked for later.
-/

namespace Plug.Listings

variable {Tools : Type}

/-- The number of changes that had been announced when the listing was asked for. -/
def ListingPhase.since : ListingPhase Tools → Option Nat
  | .requested since | .answered since _ | .stored since => some since
  | .notified | .failed => none

/-- The listing is not asked for yet, has failed, or was asked for after the last announcement. -/
def ListingPhase.Recent (phase : ListingPhase Tools) (notifications : Nat) : Prop :=
  ∀ since, phase.since = some since → since = notifications

structure ListingsSound (connection : Connection Tools) : Prop where
  asked : ∀ listing ∈ connection.listings, ∀ since, listing.phase.since = some since →
    since ≤ connection.notifications
  answered : ∀ listing ∈ connection.listings, ∀ since tools,
    listing.phase = .answered since tools → (since, tools) ∈ connection.answers
  last : ∃ listing ∈ connection.listings, listing.phase.Recent connection.notifications
  stored : (∀ listing ∈ connection.listings, ∀ since, listing.phase ≠ .stored since) ∨
    ∃ newest, (newest, connection.tools) ∈ connection.answers ∧
      newest ≤ connection.notifications ∧
      ∀ listing ∈ connection.listings, ∀ since, listing.phase = .stored since → since ≤ newest

/-! ### Each step -/

section Steps

variable {connection next : Connection Tools} {index : Nat} {listing : Listing Tools}
  {phase : ListingPhase Tools}

/-- What a listing does in one step, when listings store in order. -/
inductive Listed (connection : Connection Tools) (index : Nat) (listing : Listing Tools) :
    Connection Tools → Prop
  | request (former : listing.phase = .notified) :
      Listed connection index listing
        (connection.put index listing (.requested connection.notifications))
  | answer (since : Nat) (tools : Tools) (former : listing.phase = .requested since) :
      Listed connection index listing
        { connection.put index listing (.answered since tools) with
          answers := connection.answers ++ [(since, tools)] }
  | fail (since : Nat) (former : listing.phase = .requested since) :
      Listed connection index listing (connection.put index listing .failed)
  | store (since : Nat) (tools : Tools) (former : listing.phase = .answered since tools)
      (order : ∀ other ∈ connection.listings, ∀ earlier, other.phase = .stored earlier →
        earlier ≤ since) :
      Listed connection index listing
        { connection.put index listing (.stored since) with tools := tools }

/-- What a step does, when listings store in order. -/
inductive Stepped (connection : Connection Tools) : Connection Tools → Prop
  | announced :
      Stepped connection
        { connection with
          notifications := connection.notifications + 1
          listings := connection.listings ++ [⟨false, .notified⟩] }
  | probed : Stepped connection { connection with probing := false }
  | listed (index : Nat) (listing : Listing Tools) (next : Connection Tools)
      (found : connection.listings[index]? = some listing)
      (went : Listed connection index listing next) : Stepped connection next

theorem stepped_of {action : ListingAction Tools} (ordered : storesInOrder connection action = true)
    (stepped : listingStep connection action = some next) : Stepped connection next := by
  cases action with
  | onToolListChanged =>
    cases stepped
    exact .announced
  | endProbe =>
    cases stepped
    exact .probed
  | request index =>
    obtain ⟨listing, found, went⟩ := Option.bind_eq_some_iff.mp stepped
    split at went
    · rename_i former
      cases went
      exact .listed index listing _ found (.request former)
    · cases went
  | answer index tools =>
    obtain ⟨listing, found, went⟩ := Option.bind_eq_some_iff.mp stepped
    split at went
    · rename_i since former
      cases went
      exact .listed index listing _ found (.answer since tools former)
    · cases went
  | fail index =>
    obtain ⟨listing, found, went⟩ := Option.bind_eq_some_iff.mp stepped
    split at went
    · rename_i since former
      cases went
      exact .listed index listing _ found (.fail since former)
    · cases went
  | store index =>
    obtain ⟨listing, found, went⟩ := Option.bind_eq_some_iff.mp stepped
    split at went
    · rename_i since tools former
      split at went
      · cases went
      · cases went
        refine .listed index listing _ found (.store since tools former ?_)
        intro other member earlier stored
        rw [storesInOrder, found, Option.all_some, List.all_eq_true] at ordered
        have order := ordered other member
        rw [former, stored] at order
        exact of_decide_eq_true order
    · cases went

/-- A listing that changed, or another one. -/
theorem of_mem_put {other : Listing Tools}
    (member : other ∈ (connection.put index listing phase).listings) :
    other ∈ connection.listings ∨ other.phase = phase := by
  cases List.mem_or_eq_of_mem_set member with
  | inl former => exact Or.inl former
  | inr same =>
    right
    rw [same]

theorem last_put (found : connection.listings[index]? = some listing)
    (kept : listing.phase.Recent connection.notifications → phase.Recent connection.notifications)
    (last : ∃ other ∈ connection.listings, other.phase.Recent connection.notifications) :
    ∃ other ∈ (connection.put index listing phase).listings,
      other.phase.Recent connection.notifications := by
  obtain ⟨other, member, recent⟩ := last
  obtain ⟨place, present⟩ := List.getElem?_of_mem member
  have bound := (List.getElem?_eq_some_iff.mp found).1
  by_cases same : place = index
  · subst same
    obtain rfl := Option.some.inj (found.symm.trans present)
    exact ⟨_, List.mem_set bound _, kept recent⟩
  · refine ⟨other, List.mem_of_getElem? (i := place) ?_, recent⟩
    rw [Connection.put, Runs.getElem?_set_found found, if_neg same]
    exact present

/-- A step of a listing that stores nothing. -/
theorem sound_put (sound : ListingsSound connection)
    (found : connection.listings[index]? = some listing) (answers : List (Nat × Tools))
    (asked : ∀ since, phase.since = some since → since ≤ connection.notifications)
    (kept : listing.phase.Recent connection.notifications → phase.Recent connection.notifications)
    (more : ∀ item ∈ connection.answers, item ∈ answers)
    (answered : ∀ since tools, phase = .answered since tools → (since, tools) ∈ answers)
    (unstored : ∀ since, phase ≠ .stored since) :
    ListingsSound { connection.put index listing phase with answers := answers } := by
  refine ⟨?_, ?_, last_put found kept sound.last, ?_⟩
  · intro other member since own
    cases of_mem_put member with
    | inl former => exact sound.asked other former since own
    | inr same =>
      rw [same] at own
      exact asked since own
  · intro other member since tools own
    cases of_mem_put member with
    | inl former => exact more _ (sound.answered other former since tools own)
    | inr same => exact answered since tools (same.symm.trans own)
  · cases sound.stored with
    | inl none =>
      left
      intro other member since stored
      cases of_mem_put member with
      | inl former => exact none other former since stored
      | inr same => exact unstored since (same.symm.trans stored)
    | inr some =>
      obtain ⟨newest, given, bound, earlier⟩ := some
      right
      refine ⟨newest, more _ given, bound, ?_⟩
      intro other member since stored
      cases of_mem_put member with
      | inl former => exact earlier other former since stored
      | inr same => exact absurd (same.symm.trans stored) (unstored since)

theorem sound_listed (sound : ListingsSound connection)
    (found : connection.listings[index]? = some listing)
    (went : Listed connection index listing next) : ListingsSound next := by
  have member := List.mem_of_getElem? found
  cases went with
  | request former =>
    apply sound_put sound found connection.answers
    · intro since own
      exact Nat.le_of_eq (Option.some.inj own).symm
    · intro _ since own
      exact (Option.some.inj own).symm
    · exact fun _ known => known
    · intro since tools own
      cases own
    · intro since own
      cases own
  | answer since tools former =>
    apply sound_put sound found
    · intro other own
      exact sound.asked listing member other (by rw [former]; exact own)
    · intro recent other own
      exact recent other (by rw [former]; exact own)
    · exact fun _ known => List.mem_append_left _ known
    · intro other answer own
      obtain ⟨rfl, rfl⟩ := ListingPhase.answered.inj own
      exact List.mem_append_right _ (List.mem_singleton_self _)
    · intro other own
      cases own
  | fail since former =>
    apply sound_put sound found connection.answers
    · intro other own
      cases own
    · intro _ other own
      cases own
    · exact fun _ known => known
    · intro other tools own
      cases own
    · intro other own
      cases own
  | store since tools former order =>
    have asked : since ≤ connection.notifications :=
      sound.asked listing member since (by rw [former]; rfl)
    refine ⟨?_, ?_, ?_, Or.inr ⟨since, sound.answered listing member since tools former, asked, ?_⟩⟩
    · intro other changed earlier own
      cases of_mem_put changed with
      | inl present => exact sound.asked other present earlier own
      | inr same =>
        rw [same] at own
        cases own
        exact asked
    · intro other changed earlier answer own
      cases of_mem_put changed with
      | inl present => exact sound.answered other present earlier answer own
      | inr same => cases same.symm.trans own
    · apply last_put found _ sound.last
      intro recent other own
      exact recent other (by rw [former]; exact own)
    · intro other changed earlier stored
      cases of_mem_put changed with
      | inl present => exact order other present earlier stored
      | inr same =>
        obtain rfl := ListingPhase.stored.inj (same.symm.trans stored)
        exact Nat.le_refl _

theorem sound_announced (sound : ListingsSound connection) :
    ListingsSound
      { connection with
        notifications := connection.notifications + 1
        listings := connection.listings ++ [⟨false, .notified⟩] } := by
  have of_mem : ∀ {listing : Listing Tools}, listing ∈ connection.listings ++ [⟨false, .notified⟩] →
      listing ∈ connection.listings ∨ listing.phase = .notified := by
    intro listing member
    cases List.mem_append.mp member with
    | inl former => exact Or.inl former
    | inr added =>
      right
      rw [List.mem_singleton.mp added]
  refine ⟨?_, ?_, ?_, ?_⟩
  · intro listing member since own
    cases of_mem member with
    | inl former => exact Nat.le_succ_of_le (sound.asked listing former since own)
    | inr same =>
      rw [same] at own
      cases own
  · intro listing member since tools own
    cases of_mem member with
    | inl former => exact sound.answered listing former since tools own
    | inr same => cases same.symm.trans own
  · refine ⟨⟨false, .notified⟩, List.mem_append_right _ (List.mem_singleton_self _), ?_⟩
    intro since own
    cases own
  · cases sound.stored with
    | inl none =>
      left
      intro listing member since stored
      cases of_mem member with
      | inl former => exact none listing former since stored
      | inr same => cases same.symm.trans stored
    | inr some =>
      obtain ⟨newest, given, bound, earlier⟩ := some
      right
      refine ⟨newest, given, Nat.le_succ_of_le bound, ?_⟩
      intro listing member since stored
      cases of_mem member with
      | inl former => exact earlier listing former since stored
      | inr same => cases same.symm.trans stored

theorem sound_stepped (sound : ListingsSound connection) (stepped : Stepped connection next) :
    ListingsSound next := by
  cases stepped with
  | announced => exact sound_announced sound
  | probed => exact ⟨sound.asked, sound.answered, sound.last, sound.stored⟩
  | listed index listing _ found went => exact sound_listed sound found went

end Steps

/-! ### Every run -/

theorem sound_start (empty : Tools) (legacy : Bool) :
    ListingsSound (finishUpstreamConnection empty legacy) := by
  have waiting : ∀ listing ∈ (finishUpstreamConnection empty legacy).listings,
      listing.phase = .notified := by
    intro listing member
    rw [List.mem_singleton.mp member]
  refine ⟨?_, ?_, ⟨⟨true, .notified⟩, List.mem_singleton_self _, ?_⟩, Or.inl ?_⟩
  · intro listing member since own
    rw [waiting listing member] at own
    cases own
  · intro listing member since tools own
    cases (waiting listing member).symm.trans own
  · intro since own
    cases own
  · intro listing member since own
    cases (waiting listing member).symm.trans own

/-- When every listing has stored its answer, the stored tools are an answer that the server gave to
a request made after it last announced a change: in every run in which no listing stores after one
that was asked for when more changes had been announced. -/
theorem tools_catch_up (empty : Tools) (legacy : Bool) (trace : List (ListingAction Tools))
    (final : Connection Tools)
    (admitted : Runs.Admitted listingStep
      (fun connection action => storesInOrder connection action = true)
      (finishUpstreamConnection empty legacy) trace)
    (ran : Runs.exec listingStep (finishUpstreamConnection empty legacy) trace = some final)
    (quiescent : Quiescent final) : CaughtUp final := by
  have sound : ListingsSound final := by
    refine Runs.exec_invariant listingStep
      (fun connection action => storesInOrder connection action = true) ListingsSound ?_ trace
      (finishUpstreamConnection empty legacy) final (sound_start empty legacy) admitted ran
    intro connection action next ordered sound stepped
    exact sound_stepped sound (stepped_of ordered stepped)
  obtain ⟨listing, member, recent⟩ := sound.last
  obtain ⟨since, stored⟩ := quiescent listing member
  have latest : since = final.notifications := recent since (by rw [stored]; rfl)
  cases sound.stored with
  | inl none => exact absurd stored (none listing member since)
  | inr some =>
    obtain ⟨newest, given, bound, earlier⟩ := some
    have least : since ≤ newest := earlier listing member since stored
    have same : newest = final.notifications := by omega
    rw [CaughtUp, ← same]
    exact given

/-- The server gains a tool after the first listing. -/
def gainsTool : List (ListingAction (List String)) :=
  [.request 0, .answer 0 ["search"], .endProbe, .store 0, .onToolListChanged, .request 1,
    .answer 1 ["search", "send"], .store 1]

theorem tools_catch_up_gained :
    CaughtUp
      { notifications := 1
        probing := false
        listings := [⟨true, .stored 0⟩, ⟨false, .stored 1⟩]
        tools := ["search", "send"]
        answers := [(0, ["search"]), (1, ["search", "send"])] } := by
  refine tools_catch_up [] true gainsTool _ (by decide) rfl ?_
  intro listing member
  rcases List.mem_pair.mp member with rfl | rfl
  · exact ⟨0, rfl⟩
  · exact ⟨1, rfl⟩

/-- The server gains the tool while the first listing waits for the probe. -/
def gainsToolEarly : List (ListingAction (List String)) :=
  [.request 0, .answer 0 ["search"], .onToolListChanged, .request 1,
    .answer 1 ["search", "send"], .store 1, .endProbe, .store 0]

/-- The first listing stores its answer last, and the new tool is missing. -/
theorem tools_fall_back :
    ¬ ∀ (trace : List (ListingAction (List String))) (final : Connection (List String)),
      Runs.exec listingStep (finishUpstreamConnection [] true) trace = some final →
      Quiescent final → CaughtUp final := by
  intro catchesUp
  have quiet : Quiescent
      { notifications := 1
        probing := false
        listings := [⟨true, .stored 0⟩, ⟨false, .stored 1⟩]
        tools := ["search"]
        answers := [(0, ["search"]), (1, ["search", "send"])] } := by
    intro listing member
    rcases List.mem_pair.mp member with rfl | rfl
    · exact ⟨0, rfl⟩
    · exact ⟨1, rfl⟩
  have missing := catchesUp gainsToolEarly _ rfl quiet
  revert missing
  rw [CaughtUp]
  decide

end Plug.Listings
