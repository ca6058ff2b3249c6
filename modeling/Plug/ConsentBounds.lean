import Plug.OauthSteps

/-!
# The bounds on consents and ceremonies

Three tables go together: the pending consents, the completed ones and the owner's
approval ceremonies. The limits are checked only where a consent is asked for; they
hold in every state because a decision takes its consent out of the one table before
it goes into the other. Ceremonies have no limit of their own: each is for another
pending consent.

A revocation takes the consents of its client and leaves their ceremonies to the next
eviction.
-/

namespace Plug.DownstreamOauth

variable {lib : Passkeys} {env : Environment} {circumstances : Circumstances lib}
variable {system : System lib} {state memory next : DownstreamOauthState lib}

namespace DownstreamOauthState

/-- The client of each consent, pending or completed. -/
def consentClients (state : DownstreamOauthState lib) : List String :=
  state.pendingConsents.map (fun item => item.2.clientId) ++
    state.completedConsents.map fun item => item.2.clientId

/-- The consent of each approval ceremony. -/
def ceremonyConsents (state : DownstreamOauthState lib) : List String :=
  state.ownerAuthenticationCeremonies.map fun item => item.2.consentId

end DownstreamOauthState

/-- The limits, and at most one ceremony for each consent. -/
structure Bookkept (state : DownstreamOauthState lib) : Prop where
  total : state.pendingConsents.length + state.completedConsents.length ≤ maxPendingConsents
  perClient : ∀ clientId, state.consentClients.count clientId ≤ maxPendingConsentsPerClient
  single : state.ceremonyConsents.Nodup

/-- Each ceremony is for a pending consent. -/
def Attended (state : DownstreamOauthState lib) : Prop :=
  ∀ item ∈ state.ownerAuthenticationCeremonies,
    Tables.containsKey state.pendingConsents item.2.consentId = true

/-- The assertions of the source, when the state is evicted at a time or an approval
starts from it. -/
structure Asserted (state : DownstreamOauthState lib) (now : Nat) : Prop where
  evictExpiredOwnerRecords :
    (state.evictExpiredOwnerRecords now).ownerAuthenticationCeremonies.length ≤ maxPendingConsents
  evictExpired :
    (state.evictExpired now).ownerAuthenticationCeremonies.length ≤ maxPendingConsents
  startOwnerApproval : ∀ consentId consent,
    Tables.get (state.evictExpiredOwnerRecords now).pendingConsents consentId = some consent →
      ((state.evictExpiredOwnerRecords now).ownerAuthenticationCeremonies.filter
        fun item => item.2.consentId ≠ consentId).length < maxPendingConsents

/-! ### Taking entries out -/

/-- No table got an entry. -/
structure Reduced (next memory : DownstreamOauthState lib) : Prop where
  pendingConsents : next.pendingConsents.Sublist memory.pendingConsents
  completedConsents : next.completedConsents.Sublist memory.completedConsents
  ceremonies : next.ownerAuthenticationCeremonies.Sublist memory.ownerAuthenticationCeremonies

theorem Reduced.refl (memory : DownstreamOauthState lib) : Reduced memory memory :=
  ⟨List.Sublist.refl _, List.Sublist.refl _, List.Sublist.refl _⟩

theorem Reduced.trans {state next memory : DownstreamOauthState lib} (last : Reduced next state)
    (first : Reduced state memory) : Reduced next memory where
  pendingConsents := last.pendingConsents.trans first.pendingConsents
  completedConsents := last.completedConsents.trans first.completedConsents
  ceremonies := last.ceremonies.trans first.ceremonies

theorem Bookkept.reduced (bookkept : Bookkept memory) (reduced : Reduced next memory) :
    Bookkept next where
  total := Nat.le_trans
    (Nat.add_le_add reduced.pendingConsents.length_le reduced.completedConsents.length_le)
    bookkept.total
  perClient clientId := by
    have fewer : next.consentClients.Sublist memory.consentClients :=
      (reduced.pendingConsents.map _).append (reduced.completedConsents.map _)
    exact Nat.le_trans (fewer.count_le clientId) (bookkept.perClient clientId)
  single := bookkept.single.sublist (reduced.ceremonies.map _)

/-- Pending consents are as they were, and no ceremony is new. -/
theorem Attended.kept (attended : Attended memory)
    (pendingConsents : next.pendingConsents = memory.pendingConsents)
    (ceremonies : next.ownerAuthenticationCeremonies ⊆ memory.ownerAuthenticationCeremonies) :
    Attended next := by
  intro item member
  rw [pendingConsents]
  exact attended item (ceremonies member)

theorem reduced_evictExpiredOwnerRecords (state : DownstreamOauthState lib) (now : Nat) :
    Reduced (state.evictExpiredOwnerRecords now) state where
  pendingConsents := List.Sublist.refl _
  completedConsents := List.Sublist.refl _
  ceremonies := List.filter_sublist.trans List.filter_sublist

/-- An eviction takes the ceremonies whose consent is gone. -/
theorem attended_evictExpiredOwnerRecords (state : DownstreamOauthState lib) (now : Nat) :
    Attended (state.evictExpiredOwnerRecords now) := by
  intro item member
  have live := List.mem_of_mem_filter member
  exact (Bool.and_eq_true_iff.mp (List.mem_filter.mp live).2).2

theorem reduced_evictExpired (state : DownstreamOauthState lib) (now : Nat) :
    Reduced (state.evictExpired now) state := by
  refine (reduced_evictExpiredOwnerRecords _ now).trans ?_
  exact ⟨List.filter_sublist, List.filter_sublist, List.Sublist.refl _⟩

theorem attended_evictExpired (state : DownstreamOauthState lib) (now : Nat) :
    Attended (state.evictExpired now) :=
  attended_evictExpiredOwnerRecords _ now

theorem reduced_expireConsent (state : DownstreamOauthState lib) (consentId : String) :
    Reduced (state.expireConsent consentId) state :=
  ⟨List.filter_sublist, List.Sublist.refl _, List.filter_sublist⟩

theorem Attended.expireConsent (attended : Attended state) (consentId : String) :
    Attended (state.expireConsent consentId) := by
  intro item member
  obtain ⟨present, other⟩ := List.mem_filter.mp member
  refine Tables.containsKey_remove.mpr ⟨?_, attended item present⟩
  simpa using other

theorem reduced_evictCompletedConsents (state : DownstreamOauthState lib) (now : Nat) :
    Reduced (state.evictCompletedConsents now) state :=
  ⟨List.Sublist.refl _, List.filter_sublist, List.Sublist.refl _⟩

/-! ### Entries that go in -/

variable {consentId : String} {consent : PendingConsent}

/-- A pending consent that a decision moves among the completed ones. -/
theorem Bookkept.completed (bookkept : Bookkept memory)
    (pending : (consentId, consent) ∈ memory.pendingConsents) {completed : CompletedConsent}
    (sameClient : completed.clientId = consent.clientId)
    (pendingConsents : next.pendingConsents = Tables.remove memory.pendingConsents consentId)
    (completedConsents : next.completedConsents = Tables.insert memory.completedConsents consentId
      completed)
    (ceremonies : next.ownerAuthenticationCeremonies.Sublist memory.ownerAuthenticationCeremonies) :
    Bookkept next where
  total := by
    have fewer : (Tables.remove memory.pendingConsents consentId).length <
        memory.pendingConsents.length := Tables.length_remove_lt pending
    have rest : (Tables.remove memory.completedConsents consentId).length ≤
        memory.completedConsents.length := List.length_filter_le _ _
    have total := bookkept.total
    rw [pendingConsents, completedConsents, Tables.insert, List.length_cons]
    omega
  perClient clientId := by
    obtain ⟨others, permuted, among⟩ := Tables.subperm_remove pending
    have fewer : (consent.clientId :: (Tables.remove memory.pendingConsents consentId).map
        fun item => item.2.clientId).Subperm
          (memory.pendingConsents.map fun item => item.2.clientId) :=
      ⟨others.map fun item => item.2.clientId, permuted.map _, among.map _⟩
    have rest : ((Tables.remove memory.completedConsents consentId).map
        fun item => item.2.clientId).Sublist
          (memory.completedConsents.map fun item => item.2.clientId) :=
      List.filter_sublist.map _
    have perClient := bookkept.perClient clientId
    have left := fewer.count_le clientId
    have right := rest.count_le clientId
    unfold DownstreamOauthState.consentClients at perClient ⊢
    rw [pendingConsents, completedConsents, Tables.insert, List.map_cons, sameClient]
    simp only [List.count_append, List.count_cons] at perClient left ⊢
    omega
  single := bookkept.single.sublist (ceremonies.map _)

/-- A consent that is asked for, within the limits. -/
theorem Bookkept.requested (bookkept : Bookkept memory)
    (few : memory.pendingConsents.length + memory.completedConsents.length < maxPendingConsents)
    (fewOfClient : memory.consentClients.count consent.clientId < maxPendingConsentsPerClient) :
    Bookkept { memory with
      pendingConsents := Tables.insert memory.pendingConsents consentId consent } where
  total := by
    have rest : (Tables.remove memory.pendingConsents consentId).length ≤
        memory.pendingConsents.length := List.length_filter_le _ _
    have grown : (Tables.insert memory.pendingConsents consentId consent).length +
        memory.completedConsents.length ≤ maxPendingConsents := by
      rw [Tables.insert, List.length_cons]
      omega
    exact grown
  perClient clientId := by
    have rest : ((Tables.remove memory.pendingConsents consentId).map
        fun item => item.2.clientId).Sublist
          (memory.pendingConsents.map fun item => item.2.clientId) :=
      List.filter_sublist.map _
    have fewer := rest.count_le clientId
    have perClient := bookkept.perClient clientId
    unfold DownstreamOauthState.consentClients at perClient fewOfClient ⊢
    rw [Tables.insert, List.map_cons]
    simp only [List.count_append, List.count_cons] at perClient fewOfClient ⊢
    by_cases same : consent.clientId = clientId
    · subst same
      rw [if_pos (beq_self_eq_true _)]
      omega
    · rw [if_neg (by simpa using same)]
      omega
  single := bookkept.single

theorem Attended.requested (attended : Attended memory) (consentId : String)
    (consent : PendingConsent) : Attended { memory with
      pendingConsents := Tables.insert memory.pendingConsents consentId consent } := by
  intro item member
  exact Tables.containsKey_insert.mpr (Or.inr (attended item member))

/-- A ceremony takes the place of all others for its consent. -/
theorem Bookkept.started (bookkept : Bookkept memory) (ceremonyId : String)
    (ceremony : OwnerAuthenticationCeremony lib) : Bookkept { memory with
      ownerAuthenticationCeremonies := Tables.insert
        (memory.ownerAuthenticationCeremonies.filter
          fun item => item.2.consentId ≠ ceremony.consentId) ceremonyId ceremony } where
  total := bookkept.total
  perClient := bookkept.perClient
  single := by
    refine List.nodup_cons.mpr ⟨?_, ?_⟩
    · intro again
      obtain ⟨item, member, same⟩ := List.mem_map.mp again
      have other := (List.mem_filter.mp (Tables.mem_remove.mp member).1).2
      exact absurd same (by simpa using other)
    · refine bookkept.single.sublist (List.Sublist.map _ ?_)
      exact List.filter_sublist.trans List.filter_sublist

theorem Attended.started (attended : Attended memory) (ceremonyId : String)
    {ceremony : OwnerAuthenticationCeremony lib}
    (pending : Tables.containsKey memory.pendingConsents ceremony.consentId = true) :
    Attended { memory with
      ownerAuthenticationCeremonies := Tables.insert
        (memory.ownerAuthenticationCeremonies.filter
          fun item => item.2.consentId ≠ ceremony.consentId) ceremonyId ceremony } := by
  intro item member
  cases Tables.mem_insert.mp member with
  | inl new => exact new ▸ pending
  | inr old => exact attended item (List.mem_of_mem_filter old.1)

/-! ### The assertions -/

/-- Ceremonies are for different pending consents, so there are no more of them. -/
theorem ceremonies_le (bookkept : Bookkept state) (attended : Attended state) :
    state.ownerAuthenticationCeremonies.length ≤ state.pendingConsents.length := by
  have known : state.ceremonyConsents ⊆ state.pendingConsents.map Prod.fst := by
    intro consentId member
    obtain ⟨item, present, rfl⟩ := List.mem_map.mp member
    obtain ⟨consent, pending⟩ := Tables.containsKey_iff.mp (attended item present)
    exact List.mem_map.mpr ⟨_, pending, rfl⟩
  have fewer := (List.subperm_of_subset bookkept.single known).length_le
  simpa only [DownstreamOauthState.ceremonyConsents, List.length_map] using fewer

theorem Bookkept.pendingConsents_le (bookkept : Bookkept state) :
    state.pendingConsents.length ≤ maxPendingConsents :=
  Nat.le_trans (Nat.le_add_right _ _) bookkept.total

/-- The consent that an approval starts for has no other ceremony left. -/
theorem otherCeremonies_lt (bookkept : Bookkept state) (attended : Attended state)
    (pending : (consentId, consent) ∈ state.pendingConsents) :
    (state.ownerAuthenticationCeremonies.filter
      fun item => item.2.consentId ≠ consentId).length < maxPendingConsents := by
  have others := ceremonies_le
    (bookkept.reduced (reduced_expireConsent state consentId)) (attended.expireConsent consentId)
  have fewer : (state.expireConsent consentId).pendingConsents.length <
      state.pendingConsents.length := Tables.length_remove_lt pending
  exact Nat.lt_of_le_of_lt others (Nat.lt_of_lt_of_le fewer bookkept.pendingConsents_le)

theorem Bookkept.asserted (bookkept : Bookkept state) (now : Nat) : Asserted state now where
  evictExpiredOwnerRecords := by
    have evicted := bookkept.reduced (reduced_evictExpiredOwnerRecords state now)
    exact Nat.le_trans (ceremonies_le evicted (attended_evictExpiredOwnerRecords state now))
      evicted.pendingConsents_le
  evictExpired := by
    have evicted := bookkept.reduced (reduced_evictExpired state now)
    exact Nat.le_trans (ceremonies_le evicted (attended_evictExpired state now))
      evicted.pendingConsents_le
  startOwnerApproval _ _ found :=
    otherCeremonies_lt (bookkept.reduced (reduced_evictExpiredOwnerRecords state now))
      (attended_evictExpiredOwnerRecords state now) (Tables.mem_of_get found)

/-! ### The sections -/

def Operation.revokes : Operation lib → Bool
  | .revokeClient _ => true
  | _ => false

/-- Operations other than a revocation also keep the ceremonies attended. -/
structure Keeps (revoking : Bool) (memory next : DownstreamOauthState lib) : Prop where
  bookkept : Bookkept memory → Bookkept next
  attended : revoking = false → Attended memory → Attended next

variable {revoking : Bool}

theorem Keeps.of_eq (pendingConsents : next.pendingConsents = memory.pendingConsents)
    (completedConsents : next.completedConsents = memory.completedConsents)
    (ceremonies : next.ownerAuthenticationCeremonies = memory.ownerAuthenticationCeremonies) :
    Keeps revoking memory next where
  bookkept bookkept := bookkept.reduced
    ⟨pendingConsents ▸ List.Sublist.refl _, completedConsents ▸ List.Sublist.refl _,
      ceremonies ▸ List.Sublist.refl _⟩
  attended _ attended := attended.kept pendingConsents (ceremonies ▸ List.Subset.refl _)

theorem Keeps.andThen (first : Keeps revoking memory state) (last : Keeps revoking state next) :
    Keeps revoking memory next where
  bookkept bookkept := last.bookkept (first.bookkept bookkept)
  attended kind attended := last.attended kind (first.attended kind attended)

theorem keeps_evictExpiredOwnerRecords (memory : DownstreamOauthState lib) (now : Nat) :
    Keeps revoking memory (memory.evictExpiredOwnerRecords now) where
  bookkept bookkept := bookkept.reduced (reduced_evictExpiredOwnerRecords memory now)
  attended _ _ := attended_evictExpiredOwnerRecords memory now

theorem keeps_evictExpired (memory : DownstreamOauthState lib) (now : Nat) :
    Keeps revoking memory (memory.evictExpired now) where
  bookkept bookkept := bookkept.reduced (reduced_evictExpired memory now)
  attended _ _ := attended_evictExpired memory now

theorem keeps_expireConsent (memory : DownstreamOauthState lib) (consentId : String) :
    Keeps revoking memory (memory.expireConsent consentId) where
  bookkept bookkept := bookkept.reduced (reduced_expireConsent memory consentId)
  attended _ attended := attended.expireConsent consentId

theorem keeps_evictCompletedConsents (memory : DownstreamOauthState lib) (now : Nat) :
    Keeps revoking memory (memory.evictCompletedConsents now) where
  bookkept bookkept := bookkept.reduced (reduced_evictCompletedConsents memory now)
  attended _ attended := attended.kept rfl (List.Subset.refl _)

/-- What an answer to a ceremony leaves: it is used up. -/
theorem keeps_answered (memory : DownstreamOauthState lib) (now : Nat) (ceremonyId : String) :
    Keeps revoking memory { memory.evictCompletedConsents now with
      ownerAuthenticationCeremonies :=
        Tables.remove memory.ownerAuthenticationCeremonies ceremonyId } where
  bookkept bookkept := bookkept.reduced
    ⟨List.Sublist.refl _, List.filter_sublist, List.filter_sublist⟩
  attended _ attended := attended.kept rfl (List.filter_subset_self _)

theorem keeps_completed (pending : (consentId, consent) ∈ memory.pendingConsents)
    {completed : CompletedConsent} (sameClient : completed.clientId = consent.clientId)
    (pendingConsents : next.pendingConsents = (memory.expireConsent consentId).pendingConsents)
    (completedConsents : next.completedConsents = Tables.insert memory.completedConsents consentId
      completed)
    (ceremonies : next.ownerAuthenticationCeremonies = (memory.expireConsent
      consentId).ownerAuthenticationCeremonies) :
    Keeps revoking memory next where
  bookkept bookkept := by
    refine bookkept.completed pending sameClient pendingConsents completedConsents ?_
    rw [ceremonies]
    exact (reduced_expireConsent memory consentId).ceremonies
  attended _ attended :=
    (attended.expireConsent consentId).kept pendingConsents (ceremonies ▸ List.Subset.refl _)

/-- What was stored, or what the memory became by an operation. -/
def Commits (revoking : Bool) (system result : System lib) : Prop :=
  ∀ state, Stored result state → Stored system state ∨ Keeps revoking system.memory state

theorem Commits.unchanged : Commits revoking system system :=
  fun _ stored => Or.inl stored

theorem commitState_commits {prepared : System lib} (same : Prepared system prepared)
    (keeps : Keeps revoking system.memory next) {events : List (Event lib)}
    {finish : System lib → Answer × System lib}
    (finished : ∀ committed state, Stored (finish committed).2 state → Stored committed state) :
    Commits revoking system (commitState circumstances prepared next events finish).2 := by
  intro state stored
  have checked : (ensureDurable prepared circumstances.synced).memory = system.memory ∧
      (ensureDurable prepared circumstances.synced).file = system.file ∧
      ((ensureDurable prepared circumstances.synced).durableFile = system.durableFile ∨
        (ensureDurable prepared circumstances.synced).durableFile = system.file) := by
    cases ensureDurable_cases prepared circumstances.synced with
    | inl unchanged =>
      rw [unchanged]
      exact ⟨same.memory, same.file, Or.inl same.durableFile⟩
    | inr settled =>
      rw [settled]
      exact ⟨same.memory, same.file, Or.inr same.file⟩
  obtain ⟨memory, file, durable⟩ := checked
  unfold commitState at stored
  dsimp only at stored
  split at stored
  · exact Or.inl (stored_of_kept memory file durable stored)
  split at stored
  · exact Or.inl (stored_of_kept memory file durable stored)
  · rcases stored with rfl | inFile | inDurable
    · exact Or.inr keeps
    · exact Or.inr (Option.some.inj inFile ▸ keeps)
    · exact Or.inl (stored_of_kept memory file durable (Or.inr (Or.inr inDurable)))
  · rcases finished _ state stored with rfl | inFile | inDurable
    · exact Or.inr keeps
    · exact Or.inr (Option.some.inj inFile ▸ keeps)
    · exact Or.inr (Option.some.inj inDurable ▸ keeps)

/-- A commit with nothing before it and nothing but an answer after it. -/
theorem commit_commits (keeps : Keeps revoking system.memory next) {events : List (Event lib)}
    {answer : Answer} :
    Commits revoking system
      (commitState circumstances system next events fun committed => (answer, committed)).2 :=
  commitState_commits (Prepared.refl system) keeps fun _ _ stored => stored

theorem commitAndFail_commits (keeps : Keeps revoking system.memory next)
    {error : DownstreamOauthError} :
    Commits revoking system (commitAndFail circumstances system next error).2 :=
  commit_commits keeps

theorem createOwnerBootstrap_commits :
    Commits revoking system (createOwnerBootstrap env circumstances system).2 := by
  have evicted : Keeps revoking system.memory
      (system.memory.evictExpiredOwnerRecords circumstances.now) :=
    keeps_evictExpiredOwnerRecords system.memory circumstances.now
  refine commit_commits (evicted.andThen ?_)
  exact Keeps.of_eq rfl rfl rfl

theorem startOwnerRegistration_commits (bootstrap : String) :
    Commits revoking system (startOwnerRegistration env circumstances system bootstrap).2 := by
  unfold startOwnerRegistration
  dsimp only
  split
  · exact Commits.unchanged
  split
  · exact Commits.unchanged
  split
  · exact Commits.unchanged
  · have evicted : Keeps revoking system.memory
        (system.memory.evictExpiredOwnerRecords circumstances.now) :=
      keeps_evictExpiredOwnerRecords system.memory circumstances.now
    refine commit_commits (evicted.andThen ?_)
    exact Keeps.of_eq rfl rfl rfl

theorem finishOwnerRegistration_commits (ceremonyId : String)
    (response : lib.RegistrationResponse) :
    Commits revoking system
      (finishOwnerRegistration env circumstances system ceremonyId response).2 := by
  have taken : ∀ ceremonies, Keeps revoking system.memory
      { system.memory with ownerRegistrationCeremonies := ceremonies } :=
    fun _ => Keeps.of_eq rfl rfl rfl
  unfold finishOwnerRegistration
  split
  · exact Commits.unchanged
  dsimp only
  split
  · exact commitAndFail_commits (taken _)
  split
  · exact commitAndFail_commits (taken _)
  split
  · exact commitAndFail_commits (taken _)
  split
  · exact commitAndFail_commits (taken _)
  split
  · exact commitAndFail_commits (taken _)
  · refine commit_commits ?_
    exact Keeps.of_eq rfl rfl rfl

theorem removeOwnerCredential_commits (credentialId : String) (allowEmpty : Bool) :
    Commits revoking system
      (removeOwnerCredential circumstances system credentialId allowEmpty).2 := by
  unfold removeOwnerCredential
  split
  · exact Commits.unchanged
  split
  · exact Commits.unchanged
  · refine commit_commits ⟨?_, ?_⟩
    · intro bookkept
      exact bookkept.reduced ⟨List.Sublist.refl _, List.Sublist.refl _, List.filter_sublist⟩
    · intro _ attended
      exact attended.kept rfl (List.filter_subset_self _)

theorem startOwnerApproval_commits (consentId : String) :
    Commits revoking system (startOwnerApproval env circumstances system consentId).2 := by
  have evicted : Keeps revoking system.memory
      (system.memory.evictExpiredOwnerRecords circumstances.now) :=
    keeps_evictExpiredOwnerRecords system.memory circumstances.now
  unfold startOwnerApproval
  dsimp only
  split
  · exact Commits.unchanged
  split
  · exact Commits.unchanged
  rename_i consent found
  split
  · exact commitAndFail_commits (evicted.andThen (keeps_expireConsent _ consentId))
  · refine commit_commits (evicted.andThen ⟨?_, ?_⟩)
    · intro bookkept
      exact bookkept.started _ _
    · intro _ attended
      exact attended.started _ (Tables.containsKey_iff.mpr ⟨consent, Tables.mem_of_get found⟩)

theorem finishOwnerApproval_commits (ceremonyId : String)
    (response : lib.AuthenticationResponse) :
    Commits revoking system
      (finishOwnerApproval env circumstances system ceremonyId response).2 := by
  have answered : Keeps revoking system.memory
      { system.memory.evictCompletedConsents circumstances.now with
        ownerAuthenticationCeremonies :=
          Tables.remove system.memory.ownerAuthenticationCeremonies ceremonyId } :=
    keeps_answered system.memory circumstances.now ceremonyId
  unfold finishOwnerApproval
  dsimp only
  split
  · split
    · exact Commits.unchanged
    · exact Commits.unchanged
  rename_i ceremony found
  split
  · exact commitAndFail_commits answered
  split
  · exact commitAndFail_commits answered
  rename_i consent pending
  split
  · exact commitAndFail_commits (answered.andThen (keeps_expireConsent _ ceremony.consentId))
  split
  · exact commitAndFail_commits answered
  split
  · exact commitAndFail_commits answered
  split
  · exact commitAndFail_commits answered
  split
  · exact commitAndFail_commits answered
  split
  · refine commit_commits (answered.andThen ?_)
    exact keeps_completed (Tables.mem_of_get pending) rfl rfl rfl rfl
  · exact commitAndFail_commits answered

theorem denyConsent_commits (consentId csrfToken : String) :
    Commits revoking system (denyConsent env circumstances system consentId csrfToken).2 := by
  unfold denyConsent
  dsimp only
  split
  · exact Commits.unchanged
  split
  · exact Commits.unchanged
  rename_i consent found
  split
  · exact commitAndFail_commits (keeps_expireConsent _ consentId)
  split
  · exact Commits.unchanged
  · have evicted : Keeps revoking system.memory
        (system.memory.evictCompletedConsents circumstances.now) :=
      keeps_evictCompletedConsents system.memory circumstances.now
    refine commit_commits (evicted.andThen ?_)
    exact keeps_completed (Tables.mem_of_get found) rfl rfl rfl rfl

theorem registerClient_commits (request : ClientRegistrationRequest) :
    Commits revoking system (registerClient env circumstances system request).2 := by
  have evicted : Keeps revoking system.memory (system.memory.evictExpired circumstances.now) :=
    keeps_evictExpired system.memory circumstances.now
  unfold registerClient
  dsimp only
  split
  · exact Commits.unchanged
  · refine commitState_commits (prepared_deactivated system _) (evicted.andThen ?_)
      fun _ _ stored => stored
    exact Keeps.of_eq rfl rfl rfl

/-- A revocation takes consents only. -/
theorem revokeClient_commits (clientId : String) :
    Commits true system (revokeClient circumstances system clientId).2 := by
  unfold revokeClient
  split
  · exact Commits.unchanged
  · refine commitState_commits (prepared_deactivated system _) ⟨?_, ?_⟩ ?_
    · intro bookkept
      exact bookkept.reduced ⟨List.filter_sublist, List.filter_sublist, List.Sublist.refl _⟩
    · intro other
      cases other
    · intro committed state stored
      exact stored

theorem validatePublicClient_commits (clientId : String) :
    Commits revoking system (validatePublicClient circumstances system clientId).2 := by
  unfold validatePublicClient
  split
  · split
    · exact Commits.unchanged
    · exact Commits.unchanged
  · exact Commits.unchanged

theorem ensureClientLookup_commits (clientId : String) :
    Commits revoking system (ensureClientLookup env circumstances system clientId).2 := by
  unfold ensureClientLookup
  dsimp only
  split
  · exact Commits.unchanged
  split
  · exact Commits.unchanged
  split
  · split
    · exact Commits.unchanged
    · exact Commits.unchanged
  · split
    · exact Commits.unchanged
    · exact Commits.unchanged

theorem ensureClientStore_commits (clientId : String) (document : ClientMetadataDocument) :
    Commits revoking system (ensureClientStore circumstances system clientId document).2 := by
  have evicted : Keeps revoking system.memory (system.memory.evictExpired circumstances.now) :=
    keeps_evictExpired system.memory circumstances.now
  unfold ensureClientStore
  dsimp only
  split
  · exact Commits.unchanged
  split
  · exact Commits.unchanged
  · refine commitState_commits (prepared_deactivated system _) (evicted.andThen ?_) ?_
    · exact Keeps.of_eq rfl rfl rfl
    · intro committed state stored
      dsimp only at stored
      split at stored
      · exact stored
      · exact stored

theorem beginAuthorization_commits (request : AuthorizationRequest) :
    Commits revoking system (beginAuthorization env circumstances system request).2 := by
  have evicted : Keeps revoking system.memory (system.memory.evictExpired circumstances.now) :=
    keeps_evictExpired system.memory circumstances.now
  unfold beginAuthorization
  dsimp only
  split
  · exact Commits.unchanged
  split
  · exact Commits.unchanged
  split
  · exact Commits.unchanged
  split
  · exact Commits.unchanged
  split
  · exact Commits.unchanged
  rename_i room
  obtain ⟨few, fewOfClient⟩ := not_or.mp room
  split
  · exact Commits.unchanged
  · refine commitState_commits (prepared_deactivated system _) (evicted.andThen ⟨?_, ?_⟩)
      fun _ _ stored => stored
    · intro bookkept
      exact bookkept.requested (Nat.lt_of_not_le few) (Nat.lt_of_not_le fewOfClient)
    · intro _ attended
      exact attended.requested _ _

theorem exchangeAuthorizationCode_commits
    (clientId code redirectUri codeVerifier resource : String) :
    Commits revoking system (exchangeAuthorizationCode env circumstances system clientId code
      redirectUri codeVerifier resource).2 := by
  unfold exchangeAuthorizationCode
  dsimp only
  split
  · exact Commits.unchanged
  split
  · exact Commits.unchanged
  split
  · exact Commits.unchanged
  split
  · exact Commits.unchanged
  · refine commitState_commits (Prepared.refl system) ?_ fun _ _ stored => stored
    exact Keeps.of_eq rfl rfl rfl

theorem keeps_revokeTokenFamily (memory : DownstreamOauthState lib) (familyId : String) :
    Keeps revoking memory (memory.revokeTokenFamily familyId) := by
  unfold DownstreamOauthState.revokeTokenFamily
  split
  · exact Keeps.of_eq rfl rfl rfl
  · exact Keeps.of_eq rfl rfl rfl

theorem presentSpentToken_commits (clientId refreshToken resource : String) :
    Commits revoking system
      (presentSpentToken circumstances system clientId refreshToken resource).2 := by
  unfold presentSpentToken
  dsimp only
  split
  · exact Commits.unchanged
  rename_i consumed found
  have replayed : Commits revoking system
      (commitAndFail circumstances (system.endFamily consumed.familyId)
        (system.memory.revokeTokenFamily consumed.familyId) .invalidGrant).2 := by
    have prepared : Prepared system (system.endFamily consumed.familyId) :=
      ⟨rfl, rfl, rfl, rfl, rfl, rfl, rfl, rfl, rfl⟩
    refine commitState_commits prepared
      (keeps_revokeTokenFamily system.memory consumed.familyId) ?_
    intro committed state stored
    exact stored
  split
  · exact replayed
  split
  · refine commit_commits ?_
    exact Keeps.of_eq rfl rfl rfl
  · exact replayed

theorem exchangeRefreshToken_commits (clientId refreshToken resource : String) :
    Commits revoking system
      (exchangeRefreshToken env circumstances system clientId refreshToken resource).2 := by
  unfold exchangeRefreshToken
  dsimp only
  split
  · exact Commits.unchanged
  split
  · exact presentSpentToken_commits clientId refreshToken resource
  split
  · exact Commits.unchanged
  · refine commitState_commits (Prepared.refl system) ?_ fun _ _ stored => stored
    exact Keeps.of_eq rfl rfl rfl

theorem performSection_commits (env : Environment) (circumstances : Circumstances lib)
    (system : System lib) (task : Operation lib × Stage) :
    Commits task.1.revokes system (performSection env circumstances system task).2 := by
  unfold performSection
  split
  · exact validatePublicClient_commits _
  · exact validatePublicClient_commits _
  · exact ensureClientLookup_commits _
  · exact ensureClientStore_commits _ _
  · exact createOwnerBootstrap_commits
  · exact startOwnerRegistration_commits _
  · exact finishOwnerRegistration_commits _ _
  · exact startOwnerApproval_commits _
  · exact finishOwnerApproval_commits _ _
  · exact denyConsent_commits _ _
  · exact removeOwnerCredential_commits _ _
  · exact registerClient_commits _
  · exact revokeClient_commits _
  · exact beginAuthorization_commits _
  · exact exchangeAuthorizationCode_commits _ _ _ _ _
  · exact exchangeRefreshToken_commits _ _ _
  · exact Commits.unchanged

/-! ### Runs -/

def Action.revokes : Action lib → Bool
  | .call operation _ _ => operation.revokes
  | _ => false

/-- Where the states that a step leaves come from. -/
theorem step_keeps {result : System lib} {action : Action lib}
    (stepped : step env system action = some result) (stored : Stored result state) :
    Stored system state ∨
      (∃ task ∈ system.inFlight, Keeps task.1.revokes system.memory state) ∨
      ∃ now file, (∀ former, file = some former → Stored system former) ∧
        state = startupState now file := by
  cases action with
  | call operation synced rateAllowed =>
    rw [← Option.some.inj stepped] at stored
    cases (call_effect : Effect env system (call env system operation synced rateAllowed).2 _) with
    | idle memory file renamed durable => exact Or.inl (stored_of_kept memory file durable stored)
  | advance index circumstances =>
    obtain ⟨⟨answer, after⟩, advanced, rfl⟩ := Option.map_eq_some_iff.mp stepped
    unfold advance at advanced
    split at advanced
    · cases advanced
    rename_i task found
    cases advanced
    have commits := performSection_commits env circumstances (system.start index circumstances) task
    obtain ⟨inFlight, same⟩ := proceed_eq (performSection env circumstances
      (system.start index circumstances) task).2 task.1 (performSection env circumstances
        (system.start index circumstances) task).1
    rw [same] at stored
    cases commits state stored with
    | inl kept => exact Or.inl kept
    | inr keeps => exact Or.inr (Or.inl ⟨task, List.mem_of_getElem? found, keeps⟩)
  | abandon index =>
    rw [← Option.some.inj stepped] at stored
    exact Or.inl stored
  | validateAccessTokenFor token requiredScopes resource now =>
    rw [← Option.some.inj stepped] at stored
    rcases validate_cases system token requiredScopes resource now with
      ⟨familyEnded, same⟩ | ⟨record, client, claims, familyEnded, _, _, _, _, same⟩
    · rw [same] at stored
      exact Or.inl stored
    · rw [same] at stored
      exact Or.inl stored
  | restart powerLost entryKept now =>
    rw [← Option.some.inj stepped] at stored
    have onDisk : ∀ former, (restart system powerLost entryKept now).file = some former →
        Stored system former := by
      intro former which
      simp only [restart] at which
      split at which
      · exact Or.inr (Or.inr which)
      · exact Or.inr (Or.inl which)
    rcases stored with rfl | inFile | inDurable
    · exact Or.inr (Or.inr ⟨now, _, onDisk, rfl⟩)
    · exact Or.inl (onDisk state inFile)
    · exact Or.inl (onDisk state inDurable)

theorem bookkept_empty : Bookkept ({} : DownstreamOauthState lib) where
  total := Nat.zero_le _
  perClient _ := Nat.zero_le _
  single := List.nodup_nil

theorem bookkept_startupState {file : Option (DownstreamOauthState lib)}
    (held : ∀ former, file = some former → Bookkept former) (now : Nat) :
    Bookkept (startupState now file) := by
  cases file with
  | none => exact bookkept_empty.reduced (Reduced.refl _)
  | some former =>
    have evicted := reduced_evictExpired former now
    exact (held former rfl).reduced
      ⟨evicted.pendingConsents, evicted.completedConsents, evicted.ceremonies⟩

theorem attended_startupState (file : Option (DownstreamOauthState lib)) (now : Nat) :
    Attended (startupState now file) := by
  cases file with
  | none =>
    intro item member
    cases member
  | some former => exact attended_evictExpired former now

/-- The operations in flight after a step were in flight, or the step called them. -/
theorem step_inFlight {result : System lib} {action : Action lib}
    (addressed : InFlightAddressed env system) (stepped : step env system action = some result)
    {task : Operation lib × Stage} (member : task ∈ result.inFlight) :
    (∃ former ∈ system.inFlight, former.1 = task.1) ∨
      ∃ synced rateAllowed, action = .call task.1 synced rateAllowed := by
  have before : task ∈ system.inFlight → (∃ former ∈ system.inFlight, former.1 = task.1) ∨
      ∃ synced rateAllowed, action = .call task.1 synced rateAllowed :=
    fun present => Or.inl ⟨task, present, rfl⟩
  cases action with
  | call operation synced rateAllowed =>
    rw [← Option.some.inj stepped] at member
    have checked : (ensureDurable system synced).inFlight = system.inFlight := by
      cases ensureDurable_cases system synced with
      | inl unchanged => rw [unchanged]
      | inr settled => rw [settled]
    unfold call at member
    dsimp only at member
    split at member
    · exact before (checked ▸ member)
    split at member
    · exact before (checked ▸ member)
    · rcases List.mem_cons.mp member with rfl | present
      · exact Or.inr ⟨synced, rateAllowed, rfl⟩
      · exact before (checked ▸ present)
  | advance index circumstances =>
    obtain ⟨⟨answer, after⟩, advanced, rfl⟩ := Option.map_eq_some_iff.mp stepped
    unfold advance at advanced
    split at advanced
    · cases advanced
    rename_i current found
    cases advanced
    have running := List.mem_of_getElem? found
    have outcome := performSection_outcome env circumstances (system.start index circumstances)
      current (addressed current running)
    have others : task ∈ (performSection env circumstances
        (system.start index circumstances) current).2.inFlight → task ∈ system.inFlight := by
      intro present
      rw [outcome.inFlight] at present
      exact List.mem_of_mem_eraseIdx present
    unfold System.proceed at member
    split at member
    · rcases List.mem_cons.mp member with rfl | present
      · exact Or.inl ⟨current, running, rfl⟩
      · exact before (others present)
    · exact before (others member)
  | abandon index =>
    rw [← Option.some.inj stepped] at member
    exact before (List.mem_of_mem_eraseIdx member)
  | validateAccessTokenFor token requiredScopes resource now =>
    rw [← Option.some.inj stepped] at member
    rcases validate_cases system token requiredScopes resource now with
      ⟨familyEnded, same⟩ | ⟨record, client, claims, familyEnded, _, _, _, _, same⟩
    · rw [same] at member
      exact before member
    · rw [same] at member
      exact before member
  | restart powerLost entryKept now =>
    rw [← Option.some.inj stepped] at member
    cases member

/-- What a run keeps in memory, in the file and in the file that a power loss leaves.
Without a revocation it also keeps the ceremonies attended. -/
structure Orderly (env : Environment) (revoking : Bool) (system : System lib) : Prop where
  addressed : InFlightAddressed env system
  bookkept : ∀ state, Stored system state → Bookkept state
  unrevoked : revoking = false → ∀ task ∈ system.inFlight, task.1.revokes = false
  attended : revoking = false → ∀ state, Stored system state → Attended state

theorem step_orderly {result : System lib} {action : Action lib}
    (kind : revoking = false → action.revokes = false) (orderly : Orderly env revoking system)
    (stepped : step env system action = some result) : Orderly env revoking result where
  addressed := step_addressed orderly.addressed stepped
  bookkept := by
    intro state stored
    rcases step_keeps stepped stored with kept | ⟨task, _, keeps⟩ | ⟨now, file, onDisk, rfl⟩
    · exact orderly.bookkept state kept
    · exact keeps.bookkept (orderly.bookkept system.memory (Or.inl rfl))
    · refine bookkept_startupState ?_ now
      intro former which
      exact orderly.bookkept former (onDisk former which)
  unrevoked := by
    intro within task member
    rcases step_inFlight orderly.addressed stepped member with
      ⟨former, present, same⟩ | ⟨synced, rateAllowed, rfl⟩
    · exact same ▸ orderly.unrevoked within former present
    · exact kind within
  attended := by
    intro within state stored
    rcases step_keeps stepped stored with kept | ⟨task, present, keeps⟩ | ⟨now, file, _, rfl⟩
    · exact orderly.attended within state kept
    · exact keeps.attended (orderly.unrevoked within task present)
        (orderly.attended within system.memory (Or.inl rfl))
    · exact attended_startupState file now

theorem initial_orderly : Orderly env revoking (initial : System lib) where
  addressed _ member := by cases member
  bookkept state stored := by
    rcases stored with rfl | inFile | inDurable
    · exact bookkept_empty
    · cases inFile
    · cases inDurable
  unrevoked _ _ member := by cases member
  attended _ state stored := by
    rcases stored with rfl | inFile | inDurable
    · intro item member
      cases member
    · cases inFile
    · cases inDurable

theorem run_orderly {trace : List (Action lib)} {final : System lib}
    (kind : revoking = false → ∀ action ∈ trace, action.revokes = false)
    (ran : Runs.exec (step env) initial trace = some final) : Orderly env revoking final :=
  Runs.exec_invariant (step env) (fun _ action => revoking = false → action.revokes = false)
    (Orderly env revoking) (fun _ _ _ kind orderly stepped => step_orderly kind orderly stepped)
    trace initial final initial_orderly
    (Runs.Admitted.of_forall (fun action member within => kind within action member) initial) ran

/-- In every state that a run comes to, at any times and with any operations in flight:
the limits hold, no consent has two ceremonies, and no assertion of the source fails.
Each ceremony is for a pending consent, unless the run has a revocation. -/
theorem consents_bounded (env : Environment) (trace : List (Action lib)) (final : System lib)
    (ran : Runs.exec (step env) initial trace = some final) (state : DownstreamOauthState lib)
    (stored : Stored final state) :
    state.pendingConsents.length + state.completedConsents.length ≤ maxPendingConsents ∧
    (∀ clientId, state.consentClients.count clientId ≤ maxPendingConsentsPerClient) ∧
    state.ceremonyConsents.Nodup ∧
    (∀ now, Asserted state now) ∧
    ((∀ action ∈ trace, action.revokes = false) →
      ∀ item ∈ state.ownerAuthenticationCeremonies,
        Tables.containsKey state.pendingConsents item.2.consentId = true) := by
  have orderly : Orderly env true final := run_orderly (by intro other; cases other) ran
  have bookkept := orderly.bookkept state stored
  refine ⟨bookkept.total, bookkept.perClient, bookkept.single, bookkept.asserted, ?_⟩
  intro unrevoked
  have attending : Orderly env false final := run_orderly (fun _ => unrevoked) ran
  exact attending.attended rfl state stored

/-- The owner enrolls a passkey, a client asks for a grant, and an approval starts. -/
def startingApproval : List (Action namedPasskeys) := List.flatten
  [whole .createOwnerBootstrap 0 "secret",
    whole (.startOwnerRegistration "secret") 0 "enrolling",
    whole (.finishOwnerRegistration "enrolling" "key") 0 "enrolled",
    whole sampleRegistration 0 "app",
    whole sampleAuthorization 0 "lookup",
    [.advance 0 (during 0 "consent" .durable)],
    whole (.startOwnerApproval "consent") 0 "ceremony"]

theorem consents_bounded_starting_approval :
    ∃ final, Runs.exec (step sampleEnvironment) initial startingApproval = some final ∧
      final.memory.ceremonyConsents = ["consent"] ∧ Asserted final.memory 600 ∧
      Tables.containsKey final.memory.pendingConsents "consent" = true := by
  have ends : ((Runs.exec (step sampleEnvironment) initial startingApproval).map
      fun final => final.memory.ceremonyConsents) = some ["consent"] := by decide +kernel
  obtain ⟨final, ran, ceremonies⟩ := Option.map_eq_some_iff.mp ends
  obtain ⟨_, _, _, asserted, attended⟩ :=
    consents_bounded sampleEnvironment startingApproval final ran final.memory (Or.inl rfl)
  have unrevoked : startingApproval.all (fun action => !action.revokes) = true := by
    decide +kernel
  have attended := attended fun action member => by
    simpa using List.all_eq_true.mp unrevoked action member
  have present : "consent" ∈ final.memory.ceremonyConsents := by simp [ceremonies]
  obtain ⟨item, member, same⟩ := List.mem_map.mp present
  exact ⟨final, ran, ceremonies, asserted 600, same ▸ attended item member⟩

-- A revocation leaves the ceremony of a consent that it takes.
example : ((Runs.exec (step sampleEnvironment) initial
    (startingApproval ++ whole (.revokeClient "plug_app") 0 "revoking")).map fun final =>
      (final.memory.ceremonyConsents, final.memory.pendingConsents.length)) =
        some (["consent"], 0) := by
  decide +kernel

end Plug.DownstreamOauth
