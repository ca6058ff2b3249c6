import Plug.OauthProvenance

/-!
# Families of refresh tokens

A pair that is renewed stays in the family of the token it was renewed with, and
the spent token is remembered. A spent token that comes back within the leeway gets
a pair of its own, as long as some live token of the family is found. The search
does not look at when that token expires; what makes up for it is that the pair
issued when a token was spent lives as long as the leeway lasts.
-/

namespace Plug.DownstreamOauth

variable {lib : Passkeys} {env : Environment} {circumstances : Circumstances lib}
variable {system : System lib}

/-- The client, the refresh token and the resource that a section renews with. -/
def renewal : Operation lib × Stage → Option (String × String × String)
  | (.exchangeRefreshToken clientId refreshToken resource, .main) =>
    some (clientId, refreshToken, resource)
  | _ => none

theorem renewal_some {task : Operation lib × Stage} {clientId refreshToken resource : String}
    (renews : renewal task = some (clientId, refreshToken, resource)) :
    task = (.exchangeRefreshToken clientId refreshToken resource, .main) := by
  unfold renewal at renews
  split at renews
  · simp only [Option.some.injEq, Prod.mk.injEq] at renews
    obtain ⟨rfl, rfl, rfl⟩ := renews
    rfl
  · cases renews

variable {presented : Option (String × String × String)}

/-- What a committed change does to live and to spent refresh tokens. -/
inductive FamilyChange (value : Nat → String) (now : Nat)
    (presented : Option (String × String × String)) (memory next : DownstreamOauthState lib) :
    Prop where
  | kept (keeps : String × IssuedRefreshToken → Bool)
      (refreshTokens : next.refreshTokens = memory.refreshTokens.filter keeps)
      (upward : ∀ item other, keeps item = true → other.2.familyId = item.2.familyId →
        other.2.clientId = item.2.clientId → item.2.expiresAt ≤ other.2.expiresAt →
          keeps other = true)
      (consumed : next.consumedRefreshTokens ⊆ memory.consumedRefreshTokens) :
      FamilyChange value now presented memory next
  | exchanged (record : IssuedRefreshToken) (familyId : record.familyId = value 0)
      (refreshTokens : next.refreshTokens =
        Tables.insert memory.refreshTokens (value 2) record)
      (consumed : next.consumedRefreshTokens = memory.consumedRefreshTokens) :
      FamilyChange value now presented memory next
  | rotated {token : String} {live : IssuedRefreshToken} (record : IssuedRefreshToken)
      (found : Tables.get memory.refreshTokens token = some live)
      (same : presented = some (live.clientId, token, live.resource))
      (unexpired : now < live.expiresAt) (familyId : record.familyId = live.familyId)
      (expiresAt : record.expiresAt = now + refreshTokenLifetimeSecs)
      (refreshTokens : next.refreshTokens =
        Tables.insert (Tables.remove memory.refreshTokens token) (value 1) record)
      (consumed : ∀ item ∈ next.consumedRefreshTokens, item ∈ memory.consumedRefreshTokens ∨
        item = (token, ⟨live.familyId, live.clientId, now⟩)) :
      FamilyChange value now presented memory next
  | joined {token : String} {live : IssuedRefreshToken} (record : IssuedRefreshToken)
      (found : (token, live) ∈ memory.refreshTokens) (familyId : record.familyId = live.familyId)
      (refreshTokens : next.refreshTokens =
        Tables.insert memory.refreshTokens (value 1) record)
      (consumed : next.consumedRefreshTokens = memory.consumedRefreshTokens) :
      FamilyChange value now presented memory next

variable {value : Nat → String} {now time index : Nat} {memory state : DownstreamOauthState lib}
  {next : System lib} {familyId : String} {answer : Answer} {events : List (Event lib)}
  {action : Action lib} {used : List String}

theorem FamilyChange.of_eq {presented : Option (String × String × String)}
    {next : DownstreamOauthState lib} (refreshTokens : next.refreshTokens = memory.refreshTokens)
    (consumed : next.consumedRefreshTokens = memory.consumedRefreshTokens) :
    FamilyChange value now presented memory next := by
  refine .kept (fun _ => true) ?_ (fun _ _ _ _ _ _ => rfl) ?_
  · rw [refreshTokens]
    simp
  · rw [consumed]
    exact List.Subset.refl _

/-- A client's tokens go together, and of the others those that expired. -/
theorem evictExpired_upward {expired : List String} {item other : String × IssuedRefreshToken}
    (kept : (decide (time < item.2.expiresAt) && decide (item.2.clientId ∉ expired)) = true)
    (sameClient : other.2.clientId = item.2.clientId)
    (later : item.2.expiresAt ≤ other.2.expiresAt) :
    (decide (time < other.2.expiresAt) && decide (other.2.clientId ∉ expired)) = true := by
  simp only [Bool.and_eq_true, decide_eq_true_eq] at kept ⊢
  refine ⟨by omega, ?_⟩
  rw [sameClient]
  exact kept.2

theorem FamilyChange.evictExpired {presented : Option (String × String × String)}
    {next : DownstreamOauthState lib}
    (refreshTokens : next.refreshTokens = (memory.evictExpired time).refreshTokens)
    (consumed : next.consumedRefreshTokens ⊆ memory.consumedRefreshTokens) :
    FamilyChange value now presented memory next := by
  refine .kept _ refreshTokens ?_ consumed
  intro item other kept _ sameClient later
  exact evictExpired_upward kept sameClient later

/-- The sign-in of a family was ended. -/
def Ended (system : System lib) (familyId : String) : Prop :=
  ∃ signIn, Tables.get system.familyEnded familyId = some signIn ∧ signIn.ended = true

theorem Ended.of_eq {system : System lib} (same : next.familyEnded = system.familyEnded)
    (ended : Ended system familyId) : Ended next familyId := by
  rw [Ended, same]
  exact ended

/-- What a section does to families. -/
structure FamilyOutcome (circumstances : Circumstances lib)
    (presented : Option (String × String × String)) (system : System lib)
    (result : Answer × System lib) : Prop where
  memory : result.2.memory = system.memory ∨
    FamilyChange circumstances.value circumstances.now presented system.memory result.2.memory
  ended : ∀ familyId, Ended system familyId → Ended result.2 familyId

theorem FamilyOutcome.unchanged : FamilyOutcome circumstances presented system (answer, system) :=
  ⟨Or.inl rfl, fun _ ended => ended⟩

theorem commitState_family {prepared : System lib} {next : DownstreamOauthState lib}
    {finish : System lib → Answer × System lib}
    (change : FamilyChange circumstances.value circumstances.now presented system.memory next)
    (memory : prepared.memory = system.memory)
    (ended : ∀ familyId, Ended system familyId → Ended prepared familyId)
    (finished : ∀ committed, (finish committed).2.memory = committed.memory)
    (kept : ∀ committed familyId, Ended committed familyId → Ended (finish committed).2 familyId) :
    FamilyOutcome circumstances presented system
      (commitState circumstances prepared next events finish) := by
  have checked : (ensureDurable prepared circumstances.synced).memory = prepared.memory ∧
      (ensureDurable prepared circumstances.synced).familyEnded = prepared.familyEnded := by
    cases ensureDurable_cases prepared circumstances.synced with
    | inl unchanged =>
      rw [unchanged]
      exact ⟨rfl, rfl⟩
    | inr settled =>
      rw [settled]
      exact ⟨rfl, rfl⟩
  obtain ⟨sameMemory, sameFamilies⟩ := checked
  have still : ∀ familyId, Ended system familyId →
      Ended (ensureDurable prepared circumstances.synced) familyId :=
    fun familyId earlier => (ended familyId earlier).of_eq sameFamilies
  unfold commitState
  dsimp only
  split
  · exact ⟨Or.inl (sameMemory.trans memory), still⟩
  · split
    · exact ⟨Or.inl (sameMemory.trans memory), still⟩
    · exact ⟨Or.inr change, still⟩
    · refine ⟨Or.inr ?_, fun familyId earlier => kept _ familyId (still familyId earlier)⟩
      rw [finished]
      exact change

/-- A commit that answers and does nothing else. -/
theorem commit_family {next : DownstreamOauthState lib}
    (change : FamilyChange circumstances.value circumstances.now presented system.memory next) :
    FamilyOutcome circumstances presented system
      (commitState circumstances system next events fun committed => (answer, committed)) :=
  commitState_family change rfl (fun _ ended => ended) (fun _ => rfl) fun _ _ ended => ended

/-- Clients that expired are deactivated first and forgotten afterwards, and a client
may be added. -/
theorem quieted_family {next : DownstreamOauthState lib} {finish : System lib → Answer × System lib}
    {clientIds : List String}
    (change : FamilyChange circumstances.value circumstances.now presented system.memory next)
    (finished : ∀ committed, (finish committed).2.memory = committed.memory)
    (kept : ∀ committed, (finish committed).2.familyEnded = committed.familyEnded) :
    FamilyOutcome circumstances presented system (commitState circumstances
      (system.deactivatePrincipalLifecycles clientIds) next events finish) :=
  commitState_family change rfl (fun _ ended => ended) finished
    fun committed _ ended => ended.of_eq (kept committed)

/-! ### The sections -/

theorem createOwnerBootstrap_family :
    FamilyOutcome circumstances presented system (createOwnerBootstrap env circumstances system) :=
  commit_family (.of_eq rfl rfl)

theorem startOwnerRegistration_family (bootstrap : String) :
    FamilyOutcome circumstances presented system
      (startOwnerRegistration env circumstances system bootstrap) := by
  unfold startOwnerRegistration
  dsimp only
  split
  · exact FamilyOutcome.unchanged
  split
  · exact FamilyOutcome.unchanged
  split
  · exact FamilyOutcome.unchanged
  · exact commit_family (.of_eq rfl rfl)

theorem finishOwnerRegistration_family (ceremonyId : String)
    (response : lib.RegistrationResponse) :
    FamilyOutcome circumstances presented system
      (finishOwnerRegistration env circumstances system ceremonyId response) := by
  unfold finishOwnerRegistration
  split
  · exact FamilyOutcome.unchanged
  dsimp only
  split
  · exact commit_family (.of_eq rfl rfl)
  split
  · exact commit_family (.of_eq rfl rfl)
  split
  · exact commit_family (.of_eq rfl rfl)
  split
  · exact commit_family (.of_eq rfl rfl)
  split
  · exact commit_family (.of_eq rfl rfl)
  · exact commit_family (.of_eq rfl rfl)

theorem removeOwnerCredential_family (credentialId : String) (allowEmpty : Bool) :
    FamilyOutcome circumstances presented system
      (removeOwnerCredential circumstances system credentialId allowEmpty) := by
  unfold removeOwnerCredential
  split
  · exact FamilyOutcome.unchanged
  split
  · exact FamilyOutcome.unchanged
  · exact commit_family (.of_eq rfl rfl)

theorem startOwnerApproval_family (consentId : String) :
    FamilyOutcome circumstances presented system
      (startOwnerApproval env circumstances system consentId) := by
  unfold startOwnerApproval
  dsimp only
  split
  · exact FamilyOutcome.unchanged
  split
  · exact FamilyOutcome.unchanged
  split
  · exact commit_family (.of_eq rfl rfl)
  · exact commit_family (.of_eq rfl rfl)

theorem finishOwnerApproval_family (ceremonyId : String)
    (response : lib.AuthenticationResponse) :
    FamilyOutcome circumstances presented system
      (finishOwnerApproval env circumstances system ceremonyId response) := by
  unfold finishOwnerApproval
  dsimp only
  split
  · split
    · exact FamilyOutcome.unchanged
    · exact FamilyOutcome.unchanged
  split
  · exact commit_family (.of_eq rfl rfl)
  split
  · exact commit_family (.of_eq rfl rfl)
  split
  · exact commit_family (.of_eq rfl rfl)
  split
  · exact commit_family (.of_eq rfl rfl)
  split
  · exact commit_family (.of_eq rfl rfl)
  split
  · exact commit_family (.of_eq rfl rfl)
  split
  · exact commit_family (.of_eq rfl rfl)
  split
  · exact commit_family (.of_eq rfl rfl)
  · exact commit_family (.of_eq rfl rfl)

theorem denyConsent_family (consentId csrfToken : String) :
    FamilyOutcome circumstances presented system
      (denyConsent env circumstances system consentId csrfToken) := by
  unfold denyConsent
  dsimp only
  split
  · exact FamilyOutcome.unchanged
  split
  · exact FamilyOutcome.unchanged
  split
  · exact commit_family (.of_eq rfl rfl)
  split
  · exact FamilyOutcome.unchanged
  · exact commit_family (.of_eq rfl rfl)

theorem registerClient_family (request : ClientRegistrationRequest) :
    FamilyOutcome circumstances presented system
      (registerClient env circumstances system request) := by
  unfold registerClient
  dsimp only
  split
  · exact FamilyOutcome.unchanged
  · exact quieted_family (.evictExpired rfl (List.Subset.refl _)) (fun _ => rfl) fun _ => rfl

theorem ensureClientStore_family (clientId : String) (document : ClientMetadataDocument) :
    FamilyOutcome circumstances presented system
      (ensureClientStore circumstances system clientId document) := by
  unfold ensureClientStore
  dsimp only
  split
  · exact FamilyOutcome.unchanged
  split
  · exact FamilyOutcome.unchanged
  refine quieted_family (.evictExpired rfl (List.Subset.refl _)) ?_ ?_
  · intro committed
    split <;> rfl
  · intro committed
    split <;> rfl

theorem beginAuthorization_family (request : AuthorizationRequest) :
    FamilyOutcome circumstances presented system
      (beginAuthorization env circumstances system request) := by
  unfold beginAuthorization
  dsimp only
  split
  · exact FamilyOutcome.unchanged
  split
  · exact FamilyOutcome.unchanged
  split
  · exact FamilyOutcome.unchanged
  split
  · exact FamilyOutcome.unchanged
  split
  · exact FamilyOutcome.unchanged
  split
  · exact FamilyOutcome.unchanged
  · exact quieted_family (.evictExpired rfl (List.Subset.refl _)) (fun _ => rfl) fun _ => rfl

theorem revokeClient_family (clientId : String) :
    FamilyOutcome circumstances presented system (revokeClient circumstances system clientId) := by
  unfold revokeClient
  split
  · exact FamilyOutcome.unchanged
  refine quieted_family (.kept _ rfl ?_ (List.Subset.refl _)) (fun _ => rfl) fun _ => rfl
  intro item other kept _ sameClient _
  rw [sameClient]
  exact kept

theorem validatePublicClient_family (clientId : String) :
    FamilyOutcome circumstances presented system
      (validatePublicClient circumstances system clientId) := by
  unfold validatePublicClient
  split
  · split <;> exact FamilyOutcome.unchanged
  · exact FamilyOutcome.unchanged

theorem ensureClientLookup_family (clientId : String) :
    FamilyOutcome circumstances presented system
      (ensureClientLookup env circumstances system clientId) := by
  unfold ensureClientLookup
  dsimp only
  split
  · exact FamilyOutcome.unchanged
  split
  · exact FamilyOutcome.unchanged
  split
  · split <;> exact FamilyOutcome.unchanged
  · split <;> exact FamilyOutcome.unchanged

theorem exchangeAuthorizationCode_family
    (clientId code redirectUri codeVerifier resource : String) :
    FamilyOutcome circumstances presented system
      (exchangeAuthorizationCode env circumstances system clientId code redirectUri codeVerifier
        resource) := by
  unfold exchangeAuthorizationCode
  dsimp only
  split
  · exact FamilyOutcome.unchanged
  split
  · exact FamilyOutcome.unchanged
  split
  · exact FamilyOutcome.unchanged
  split
  · exact FamilyOutcome.unchanged
  · exact commitState_family (.exchanged _ rfl rfl rfl) rfl (fun _ ended => ended) (fun _ => rfl)
      fun _ _ ended => ended

/-- Changing a sign-in does not take back that it ended. -/
theorem ended_modify {system : System lib} {name : String} (change : SignIn → SignIn)
    (same : next.familyEnded = Tables.modify system.familyEnded name change)
    (keeps : ∀ signIn, signIn.ended = true → (change signIn).ended = true)
    (ended : Ended system familyId) : Ended next familyId := by
  obtain ⟨signIn, found, marked⟩ := ended
  rw [Ended, same, Tables.get_modify, found]
  split
  · exact ⟨change signIn, rfl, keeps signIn marked⟩
  · exact ⟨signIn, rfl, marked⟩

theorem ended_endFamily {name : String} (ended : Ended system familyId) :
    Ended (system.endFamily name) familyId :=
  ended_modify (fun signIn => { signIn with ended := true }) rfl (fun _ _ => rfl) ended

theorem ended_familyLastsUntil {name : String} (ended : Ended system familyId) :
    Ended (system.familyLastsUntil name time) familyId :=
  ended_modify (fun signIn => { signIn with lastsUntil := max signIn.lastsUntil time }) rfl
    (fun _ marked => marked) ended

theorem replayed_family (familyId : String) :
    FamilyOutcome circumstances presented system (commitAndFail circumstances
      (system.endFamily familyId) (system.memory.revokeTokenFamily familyId) .invalidGrant) := by
  refine commitState_family ?_ rfl (fun _ ended => ended_endFamily ended) (fun _ => rfl)
    fun _ _ ended => ended
  unfold DownstreamOauthState.revokeTokenFamily
  split
  · exact .of_eq rfl rfl
  · refine .kept _ rfl ?_ (List.filter_subset_self _)
    intro item other kept sameFamily _ _
    rw [sameFamily]
    exact kept

theorem presentSpentToken_family (clientId refreshToken resource : String) :
    FamilyOutcome circumstances presented system
      (presentSpentToken circumstances system clientId refreshToken resource) := by
  unfold presentSpentToken
  dsimp only
  split
  · exact FamilyOutcome.unchanged
  split
  · exact replayed_family _
  rename_i live sibling
  split
  · have found : live ∈ system.memory.refreshTokens :=
      Tables.mem_iterate.mp (List.mem_of_find?_eq_some sibling)
    have alike := List.find?_some sibling
    simp only [Bool.and_eq_true, beq_iff_eq] at alike
    exact commit_family (.joined _ found alike.1.1.2.symm rfl rfl)
  · exact replayed_family _

theorem exchangeRefreshToken_family (clientId refreshToken resource : String) :
    FamilyOutcome circumstances (some (clientId, refreshToken, resource)) system
      (exchangeRefreshToken env circumstances system clientId refreshToken resource) := by
  unfold exchangeRefreshToken
  dsimp only
  split
  · exact FamilyOutcome.unchanged
  split
  · exact presentSpentToken_family ..
  rename_i refresh found
  split
  · exact FamilyOutcome.unchanged
  rename_i matching
  simp only [not_or, not_not, Nat.not_le] at matching
  obtain ⟨rfl, rfl, unexpired⟩ := matching
  refine commitState_family (.rotated
      ⟨refresh.clientId, refresh.scopes, refresh.resource,
        circumstances.now + refreshTokenLifetimeSecs, refresh.familyId⟩
      found rfl unexpired rfl rfl rfl ?_) rfl
    (fun _ ended => ended) (fun _ => rfl)
    fun _ _ ended => ended_familyLastsUntil ended
  intro item member
  simp only [DownstreamOauthState.extendClient, DownstreamOauthState.issueTokenPair,
    DownstreamOauthState.pruneConsumedRefreshTokens] at member
  rcases Tables.mem_insert.mp (List.mem_of_mem_filter member) with new | ⟨earlier, _⟩
  · exact Or.inr new
  · exact Or.inl earlier

/-- Every section of every operation. -/
theorem performSection_family (env : Environment) (circumstances : Circumstances lib)
    (system : System lib) (task : Operation lib × Stage) :
    FamilyOutcome circumstances (renewal task) system
      (performSection env circumstances system task) := by
  unfold performSection
  split
  · exact validatePublicClient_family _
  · exact validatePublicClient_family _
  · exact ensureClientLookup_family _
  · exact ensureClientStore_family _ _
  · exact createOwnerBootstrap_family
  · exact startOwnerRegistration_family _
  · exact finishOwnerRegistration_family _ _
  · exact startOwnerApproval_family _
  · exact finishOwnerApproval_family _ _
  · exact denyConsent_family _ _
  · exact removeOwnerCredential_family _ _
  · exact registerClient_family _
  · exact revokeClient_family _
  · exact beginAuthorization_family _
  · exact exchangeAuthorizationCode_family _ _ _ _ _
  · exact exchangeRefreshToken_family _ _ _
  · exact FamilyOutcome.unchanged

/-! ### Stored states -/

theorem advance_family (advanced : advance env circumstances system index = some (answer, next)) :
    ∃ task, system.inFlight[index]? = some task ∧
      FamilyOutcome circumstances (renewal task) system (answer, next) := by
  unfold advance at advanced
  split at advanced
  · cases advanced
  rename_i task found
  have outcome := performSection_family env circumstances (system.start index circumstances) task
  cases advanced
  generalize performSection env circumstances (system.start index circumstances) task = result
    at outcome ⊢
  obtain ⟨inFlight, same⟩ := proceed_eq result.2 task.1 result.1
  refine ⟨task, found, ?_, ?_⟩
  · rw [same]
    exact outcome.memory
  · intro familyId ended
    rw [same]
    exact outcome.ended familyId ended

/-- Where the states a step leaves come from. -/
theorem step_stored (addressed : InFlightAddressed env system)
    (stepped : step env system action = some next) (stored : Stored next state) :
    Stored system state ∨
      (∃ index circumstances task, action = .advance index circumstances ∧
        system.inFlight[index]? = some task ∧ FamilyChange circumstances.value
          circumstances.now (renewal task) system.memory state) ∨
      ∃ former now, (former = {} ∨ Stored system former) ∧
        state = (former.evictExpired now).pruneConsumedRefreshTokens now := by
  have effect := step_effect addressed stepped
  cases effect with
  | idle memory file renamed durable log used granted lifecycles principalLifecycles =>
    exact Or.inl (stored_of_kept memory file durable stored)
  | @sectioned index circumstances answer used leases commit =>
    obtain ⟨⟨answer, after⟩, advanced, rfl⟩ := Option.map_eq_some_iff.mp stepped
    have settled : state = after.memory → Stored system state ∨
        (∃ otherIndex other task, Action.advance index circumstances = .advance otherIndex other ∧
          system.inFlight[otherIndex]? = some task ∧
          FamilyChange other.value other.now (renewal task) system.memory state) := by
      rintro rfl
      obtain ⟨task, found, outcome⟩ := advance_family advanced
      cases outcome.memory with
      | inl same => exact Or.inl (Or.inl same)
      | inr change => exact Or.inr ⟨index, circumstances, task, rfl, found, change⟩
    rw [← or_assoc]
    left
    cases commit with
    | unattempted memory file renamed durable log =>
      exact Or.inl (stored_of_kept memory file durable stored)
    | failed memory file renamed durable log =>
      exact Or.inl (stored_of_kept memory file durable stored)
    | uncertain change memory file renamed durable log =>
      rcases stored with same | inFile | inDurable
      · exact settled same
      · exact settled ((Option.some.inj (file.symm.trans inFile)).symm.trans memory.symm)
      · rcases durable with equal | equal
        · exact Or.inl (Or.inr (Or.inr (equal ▸ inDurable)))
        · exact Or.inl (Or.inr (Or.inl (equal ▸ inDurable)))
    | durable change memory file renamed durable log expelled =>
      rcases stored with same | inFile | inDurable
      · exact settled same
      · exact settled ((Option.some.inj (file.symm.trans inFile)).symm.trans memory.symm)
      · exact settled ((Option.some.inj (durable.symm.trans inDurable)).symm.trans memory.symm)
  | validated found present clientId lifecycle familyEnded same =>
    subst same
    exact Or.inl stored
  | restarted file same =>
    have onDisk : ∀ former, next.file = some former → Stored system former := by
      intro former which
      cases file with
      | inl equal => exact Or.inr (Or.inl (equal.symm.trans which))
      | inr equal => exact Or.inr (Or.inr (equal.symm.trans which))
    rcases stored with rfl | inFile | inDurable
    · right
      right
      have loaded : ∃ now, next.memory = startupState now next.file := by
        rw [same]
        exact ⟨_, rfl⟩
      obtain ⟨now, loaded⟩ := loaded
      cases which : next.file with
      | none =>
        rw [which] at loaded
        exact ⟨{}, now, Or.inl rfl, loaded⟩
      | some former =>
        rw [which] at loaded
        exact ⟨former, now, Or.inr (onDisk former which), loaded⟩
    · exact Or.inl (onDisk state inFile)
    · have durable : next.durableFile = next.file := by
        rw [same]
        rfl
      exact Or.inl (onDisk state (durable ▸ inDurable))

/-- Refresh tokens and families have generated names. -/
structure Generated (state : DownstreamOauthState lib) (used : List String) : Prop where
  tokens : ∀ token record, (token, record) ∈ state.refreshTokens → token ∈ used
  single : ∀ token record other, (token, record) ∈ state.refreshTokens →
    (token, other) ∈ state.refreshTokens → record = other
  families : ∀ token record, (token, record) ∈ state.refreshTokens → record.familyId ∈ used
  spentFamilies : ∀ token spent, (token, spent) ∈ state.consumedRefreshTokens →
    spent.familyId ∈ used

theorem Generated.mono {more : List String} (generated : Generated state used)
    (subset : used ⊆ more) : Generated state more where
  tokens token record member := subset (generated.tokens token record member)
  single := generated.single
  families token record member := subset (generated.families token record member)
  spentFamilies token spent member := subset (generated.spentFamilies token spent member)

theorem Generated.within {former : DownstreamOauthState lib} (generated : Generated former used)
    (refreshTokens : state.refreshTokens ⊆ former.refreshTokens)
    (consumed : state.consumedRefreshTokens ⊆ former.consumedRefreshTokens) :
    Generated state used where
  tokens token record member := generated.tokens token record (refreshTokens member)
  single token record other member otherMember :=
    generated.single token record other (refreshTokens member) (refreshTokens otherMember)
  families token record member := generated.families token record (refreshTokens member)
  spentFamilies token spent member := generated.spentFamilies token spent (consumed member)

theorem generated_change {next : DownstreamOauthState lib} (generated : Generated memory used)
    (change : FamilyChange value now presented memory next) :
    Generated next (usedWith value used) := by
  have known := generated.mono (List.subset_append_right [value 0, value 1, value 2] used)
  -- A pair adds one token; what was spent is settled case by case.
  have inserted : ∀ base token record, base ⊆ memory.refreshTokens →
      next.refreshTokens = Tables.insert base token record → token ∈ usedWith value used →
      record.familyId ∈ usedWith value used →
      (∀ name spent, (name, spent) ∈ next.consumedRefreshTokens →
        spent.familyId ∈ usedWith value used) → Generated next (usedWith value used) := by
    intro base token record kept same newToken newFamily spentFamilies
    have cases : ∀ name stored, (name, stored) ∈ next.refreshTokens →
        (name = token ∧ stored = record) ∨
          ((name, stored) ∈ memory.refreshTokens ∧ name ≠ token) := by
      intro name stored member
      rw [same] at member
      rcases Tables.mem_insert.mp member with new | ⟨earlier, differs⟩
      · exact Or.inl (Prod.mk.inj new)
      · exact Or.inr ⟨kept earlier, differs⟩
    refine ⟨?_, ?_, ?_, spentFamilies⟩
    · intro name stored member
      rcases cases name stored member with ⟨rfl, rfl⟩ | ⟨earlier, _⟩
      · exact newToken
      · exact known.tokens name stored earlier
    · intro name stored other member otherMember
      rcases cases name stored member with ⟨rfl, rfl⟩ | ⟨earlier, differs⟩
      · rcases cases _ other otherMember with ⟨_, rfl⟩ | ⟨_, differs⟩
        · rfl
        · exact (differs rfl).elim
      · rcases cases _ other otherMember with ⟨new, _⟩ | ⟨otherEarlier, _⟩
        · exact (differs new).elim
        · exact known.single name stored other earlier otherEarlier
    · intro name stored member
      rcases cases name stored member with ⟨rfl, rfl⟩ | ⟨earlier, _⟩
      · exact newFamily
      · exact known.families name stored earlier
  cases change with
  | kept keeps refreshTokens upward consumed =>
    exact known.within (refreshTokens ▸ List.filter_subset_self _) consumed
  | exchanged record familyId refreshTokens consumed =>
    refine inserted _ _ _ (List.Subset.refl _) refreshTokens (by simp [usedWith])
      (by simp [usedWith, familyId]) ?_
    rw [consumed]
    exact known.spentFamilies
  | rotated record found same unexpired familyId expiresAt refreshTokens consumed =>
    have family := known.families _ _ (Tables.mem_of_get found)
    refine inserted _ _ _ (List.filter_subset_self _) refreshTokens (by simp [usedWith])
      (familyId ▸ family) ?_
    intro name spent member
    cases consumed _ member with
    | inl earlier => exact known.spentFamilies name spent earlier
    | inr new =>
      obtain ⟨-, rfl⟩ := Prod.mk.inj new
      exact family
  | joined record found familyId refreshTokens consumed =>
    refine inserted _ _ _ (List.Subset.refl _) refreshTokens (by simp [usedWith])
      (familyId ▸ known.families _ _ found) ?_
    rw [consumed]
    exact known.spentFamilies

theorem advance_used (addressed : InFlightAddressed env system)
    (advanced : advance env circumstances system index = some (answer, next)) :
    next.used = usedWith circumstances.value system.used := by
  unfold advance at advanced
  split at advanced
  · cases advanced
  rename_i task found
  have outcome := performSection_outcome env circumstances (system.start index circumstances)
    task (addressed task (List.mem_of_getElem? found))
  cases advanced
  obtain ⟨inFlight, same⟩ := proceed_eq (performSection env circumstances
    (system.start index circumstances) task).2 task.1 (performSection env circumstances
    (system.start index circumstances) task).1
  rw [same]
  exact outcome.used

theorem step_used (addressed : InFlightAddressed env system)
    (stepped : step env system action = some next) : system.used ⊆ next.used := by
  cases step_effect addressed stepped with
  | idle memory file renamed durable log used granted lifecycles principalLifecycles =>
    rw [used]
    exact List.Subset.refl _
  | sectioned used leases commit =>
    rw [used]
    exact List.subset_append_right _ _
  | validated found present clientId lifecycle familyEnded same =>
    subst same
    exact List.Subset.refl _
  | restarted file same =>
    subst same
    exact List.Subset.refl _

theorem step_generated (addressed : InFlightAddressed env system)
    (generated : ∀ state, Stored system state → Generated state system.used)
    (stepped : step env system action = some next) :
    ∀ state, Stored next state → Generated state next.used := by
  intro state stored
  have grown := step_used addressed stepped
  rcases step_stored addressed stepped stored with
    kept | ⟨index, circumstances, task, rfl, found, change⟩ | ⟨former, now, origin, rfl⟩
  · exact (generated state kept).mono grown
  · obtain ⟨⟨answer, after⟩, advanced, rfl⟩ := Option.map_eq_some_iff.mp stepped
    rw [advance_used addressed advanced]
    exact generated_change (generated system.memory (Or.inl rfl)) change
  · have known : Generated former system.used := by
      rcases origin with rfl | kept
      · constructor <;> simp
      · exact generated former kept
    exact (known.within (List.filter_subset_self _) (List.filter_subset_self _)).mono grown

/-! ### Renewal -/

/-- While a family has live tokens, one of them lives on for as long as a spent token
of the family may come back. -/
def Renewable (state : DownstreamOauthState lib) : Prop :=
  ∀ token spent, (token, spent) ∈ state.consumedRefreshTokens →
    ∀ live ∈ state.refreshTokens, live.2.familyId = spent.familyId →
      ∃ other ∈ state.refreshTokens, other.2.familyId = spent.familyId ∧
        spent.consumedAt + refreshTokenLifetimeSecs ≤ other.2.expiresAt

/-- The refresh tokens of a family belong to one client. -/
def OneClient (state : DownstreamOauthState lib) : Prop :=
  ∀ item ∈ state.refreshTokens, ∀ other ∈ state.refreshTokens,
    other.2.familyId = item.2.familyId → other.2.clientId = item.2.clientId

theorem oneClient_of_provenance {log : List (Event lib)} (sourced : Sourced state log)
    (issued : Issued env log used) : OneClient state := by
  intro item member other otherMember sameFamily
  obtain ⟨access, refresh, paired⟩ := sourced.refreshTokens item.1 item.2 member
  obtain ⟨otherAccess, otherRefresh, otherPaired⟩ :=
    sourced.refreshTokens other.1 other.2 otherMember
  rw [sameFamily] at otherPaired
  exact congrArg Grant.clientId (issued.families _ _ _ _ _ _ _ otherPaired paired)

/-- No spent token of the family of a live one was spent later than now. -/
def spentBefore (state : DownstreamOauthState lib) (familyId : String) (now : Nat) : Bool :=
  state.consumedRefreshTokens.all fun item =>
    item.2.familyId != familyId || decide (item.2.consumedAt ≤ now)

/-- What is left of a family has its longest-lived token. -/
theorem Renewable.kept {former : DownstreamOauthState lib} (renewable : Renewable former)
    (oneClient : OneClient former) {keeps : String × IssuedRefreshToken → Bool}
    (refreshTokens : state.refreshTokens = former.refreshTokens.filter keeps)
    (upward : ∀ item other, keeps item = true → other.2.familyId = item.2.familyId →
      other.2.clientId = item.2.clientId → item.2.expiresAt ≤ other.2.expiresAt → keeps other =
      true) (consumed : state.consumedRefreshTokens ⊆ former.consumedRefreshTokens) :
    Renewable state := by
  intro name spent spentMember live member sameFamily
  rw [refreshTokens] at member ⊢
  obtain ⟨present, keepsLive⟩ := List.mem_filter.mp member
  obtain ⟨other, otherPresent, otherFamily, late⟩ :=
    renewable name spent (consumed spentMember) live present sameFamily
  -- Either the token that was found earlier stays, or a later one does.
  by_cases later : live.2.expiresAt ≤ other.2.expiresAt
  · have family : other.2.familyId = live.2.familyId := otherFamily.trans sameFamily.symm
    have stays := upward live other keepsLive family
      (oneClient live present other otherPresent family) later
    exact ⟨other, List.mem_filter.mpr ⟨otherPresent, stays⟩, otherFamily, late⟩
  · exact ⟨live, member, sameFamily, by omega⟩

theorem renewable_change {next : DownstreamOauthState lib} (fresh : FreshIn value used)
    (generated : Generated memory used) (oneClient : OneClient memory)
    (renewable : Renewable memory)
    (ordered : ∀ token live, Tables.get memory.refreshTokens token = some live → presented = some
      (live.clientId, token, live.resource) → now < live.expiresAt → spentBefore memory
      live.familyId now = true) (change : FamilyChange value now presented memory next) :
    Renewable next := by
  cases change with
  | kept keeps refreshTokens upward consumed =>
    exact renewable.kept oneClient refreshTokens upward consumed
  | exchanged record familyId refreshTokens consumed =>
    intro name spent spentMember live member sameFamily
    rw [consumed] at spentMember
    rw [refreshTokens] at member ⊢
    have old : live ∈ memory.refreshTokens := by
      rcases Tables.mem_insert.mp member with rfl | ⟨earlier, _⟩
      · have known := generated.spentFamilies name spent spentMember
        rw [← sameFamily, familyId] at known
        exact (fresh.first known).elim
      · exact earlier
    obtain ⟨other, otherPresent, otherFamily, late⟩ :=
      renewable name spent spentMember live old sameFamily
    refine ⟨other, Tables.mem_insert.mpr (Or.inr ⟨otherPresent, ?_⟩), otherFamily, late⟩
    intro same
    exact fresh.third (same ▸ generated.tokens other.1 other.2 otherPresent)
  | @rotated token rotatedLive record found same unexpired familyId expiresAt refreshTokens
      consumed =>
    intro name spent spentMember live member sameFamily
    rw [refreshTokens] at member ⊢
    by_cases rotatedFamily : spent.familyId = rotatedLive.familyId
    · -- The new token outlives every token of its family that was spent until now.
      have early : spent.consumedAt ≤ now := by
        cases consumed _ spentMember with
        | inl earlier =>
          have all := List.all_eq_true.mp (ordered token rotatedLive found same unexpired) _ earlier
          simpa [rotatedFamily] using all
        | inr new =>
          obtain ⟨-, rfl⟩ := Prod.mk.inj new
          exact Nat.le_refl now
      refine ⟨(value 1, record), Tables.mem_insert.mpr (Or.inl rfl),
        familyId.trans rotatedFamily.symm, ?_⟩
      dsimp only
      omega
    · have earlier : (name, spent) ∈ memory.consumedRefreshTokens := by
        cases consumed _ spentMember with
        | inl earlier => exact earlier
        | inr new =>
          obtain ⟨-, rfl⟩ := Prod.mk.inj new
          exact (rotatedFamily rfl).elim
      have old : live ∈ memory.refreshTokens := by
        rcases Tables.mem_insert.mp member with rfl | ⟨kept, _⟩
        · exact (rotatedFamily (sameFamily.symm.trans familyId)).elim
        · exact (Tables.mem_remove.mp kept).1
      obtain ⟨other, otherPresent, otherFamily, late⟩ :=
        renewable name spent earlier live old sameFamily
      refine ⟨other, Tables.mem_insert.mpr (Or.inr ⟨Tables.mem_remove.mpr ⟨otherPresent, ?_⟩, ?_⟩),
        otherFamily, late⟩
      · intro taken
        have record := generated.single token other.2 rotatedLive (taken ▸ otherPresent)
          (Tables.mem_of_get found)
        exact rotatedFamily (otherFamily.symm.trans (congrArg _ record))
      · intro clash
        exact fresh.second (clash ▸ generated.tokens other.1 other.2 otherPresent)
  | @joined token liveSibling record found familyId refreshTokens consumed =>
    intro name spent spentMember live member sameFamily
    rw [consumed] at spentMember
    rw [refreshTokens] at member ⊢
    have old : ∃ sibling ∈ memory.refreshTokens, sibling.2.familyId = spent.familyId := by
      rcases Tables.mem_insert.mp member with rfl | ⟨earlier, _⟩
      · exact ⟨(token, liveSibling), found, familyId.symm.trans sameFamily⟩
      · exact ⟨live, earlier, sameFamily⟩
    obtain ⟨sibling, present, siblingFamily⟩ := old
    obtain ⟨other, otherPresent, otherFamily, late⟩ :=
      renewable name spent spentMember sibling present siblingFamily
    refine ⟨other, Tables.mem_insert.mpr (Or.inr ⟨otherPresent, ?_⟩), otherFamily, late⟩
    intro clash
    exact fresh.second (clash ▸ generated.tokens other.1 other.2 otherPresent)

/-- A renewal comes no earlier than the times at which tokens of its family were
spent, and a spent token does not come back in the very second in which the leeway
and the last pair of its family end together. -/
def renewsInTime (system : System lib) : Action lib → Bool
  | .advance index circumstances =>
    match system.inFlight[index]? with
    | some (.exchangeRefreshToken clientId refreshToken resource, .main) =>
      match Tables.get system.memory.refreshTokens refreshToken with
      | some live =>
        decide (live.clientId ≠ clientId ∨ live.resource ≠ resource ∨
          live.expiresAt ≤ circumstances.now) ||
          spentBefore system.memory live.familyId circumstances.now
      | none =>
        match Tables.get system.memory.consumedRefreshTokens refreshToken with
        | some spent =>
          decide (spent.clientId ≠ clientId) ||
          decide (circumstances.now ≠ spent.consumedAt + refreshReuseLeewaySecs) ||
          system.memory.refreshTokens.any fun item => item.2.familyId == spent.familyId &&
            decide (spent.consumedAt + refreshTokenLifetimeSecs < item.2.expiresAt)
        | none => true
    | _ => true
  | _ => true

/-- What is carried along runs in which renewals come in time. -/
structure Renewing (env : Environment) (system : System lib) : Prop where
  regular : Regular env (fun (state : DownstreamOauthState lib) log used =>
    Sourced state log ∧ Issued env log used) system
  generated : ∀ state, Stored system state → Generated state system.used
  renewable : ∀ state, Stored system state → Renewable state

theorem Renewing.oneClient (renewing : Renewing env system) (stored : Stored system state) :
    OneClient state := by
  obtain ⟨sourced, issued⟩ := renewing.regular.held state stored
  exact oneClient_of_provenance sourced issued

/-- A renewal in time comes after what was spent. -/
theorem spentBefore_of_renewsInTime {task : Operation lib × Stage}
    (found : system.inFlight[index]? = some task)
    (inTime : renewsInTime system (.advance index circumstances) = true) {token : String}
    {live : IssuedRefreshToken} (present : Tables.get system.memory.refreshTokens token = some live)
    (same : renewal task = some (live.clientId, token, live.resource))
    (unexpired : circumstances.now < live.expiresAt) :
    spentBefore system.memory live.familyId circumstances.now = true := by
  rw [renewal_some same] at found
  have either : live.expiresAt ≤ circumstances.now ∨
      spentBefore system.memory live.familyId circumstances.now = true := by
    simpa [renewsInTime, found, present] using inTime
  exact either.resolve_left (Nat.not_le.mpr unexpired)

theorem step_renewing (fresh : freshValues system action = true)
    (inTime : renewsInTime system action = true) (renewing : Renewing env system)
    (stepped : step env system action = some next) :
    Renewing env next where
  regular := step_regular (provenance_carried env) fresh renewing.regular stepped
  generated := step_generated renewing.regular.addressed renewing.generated stepped
  renewable := by
    intro state stored
    rcases step_stored renewing.regular.addressed stepped stored with
      kept | ⟨index, circumstances, task, rfl, found, change⟩ | ⟨former, now, origin, rfl⟩
    · exact renewing.renewable state kept
    · have memory : Stored system system.memory := Or.inl rfl
      refine renewable_change (freshIn_of_freshValues fresh)
        (renewing.generated _ memory) (renewing.oneClient memory)
        (renewing.renewable _ memory) ?_ change
      intro token live present same unexpired
      exact spentBefore_of_renewsInTime found inTime present same unexpired
    · have held : Renewable former ∧ OneClient former := by
        rcases origin with rfl | kept
        · constructor
          · intro token spent member
            cases member
          · intro item member
            cases member
        · exact ⟨renewing.renewable former kept, renewing.oneClient kept⟩
      refine held.1.kept held.2 rfl ?_ (List.filter_subset_self _)
      intro item other stays _ sameClient later
      exact evictExpired_upward stays sameClient later

/-! ### What a renewal issues -/

/-- The pairs that a section logs are of families with a property. -/
def Issues (property : String → Prop) (system next : System lib) : Prop :=
  ∃ newer, next.log = newer ++ system.log ∧
    ∀ access refresh grant familyId, .issuedPair access refresh grant familyId ∈ newer →
      property familyId

theorem Issues.nothing {property : String → Prop} : Issues property system system :=
  ⟨[], rfl, by simp⟩

/-- A commit logs its events and what it came to. -/
theorem commitState_issues {property : String → Prop} {prepared : System lib}
    {finish : System lib → Answer × System lib} (same : prepared.log = system.log)
    (issued : ∀ access refresh grant familyId, .issuedPair access refresh grant familyId ∈ events →
      property familyId) (finished : ∀ committed, (finish committed).2.log = committed.log) :
    Issues property system (commitState circumstances prepared state events finish).2 := by
  have checked : (ensureDurable prepared circumstances.synced).log = system.log := by
    cases ensureDurable_cases prepared circumstances.synced with
    | inl unchanged =>
      rw [unchanged]
      exact same
    | inr settled =>
      rw [settled]
      exact same
  have logged : ∀ outcome access refresh grant familyId,
      .issuedPair access refresh grant familyId ∈ events ++ [Event.persisted outcome] →
        property familyId := by
    intro outcome access refresh grant familyId member
    cases List.mem_append.mp member with
    | inl own => exact issued access refresh grant familyId own
    | inr last =>
      simp at last
  unfold commitState
  dsimp only
  split
  · exact ⟨[], checked, by simp⟩
  · split
    · refine ⟨[.persisted .failed], ?_, by simp⟩
      rw [checked]
      rfl
    · refine ⟨events ++ [.persisted .uncertain], ?_, logged .uncertain⟩
      rw [checked]
      simp
    · refine ⟨events ++ [.persisted .durable], ?_, logged .durable⟩
      rw [finished, checked]
      simp

/-- A renewal with a live token, or with one that was spent within the leeway and
has a live sibling. -/
def Renews (circumstances : Circumstances lib) (state : DownstreamOauthState lib)
    (clientId refreshToken familyId : String) : Prop :=
  (∃ live, Tables.get state.refreshTokens refreshToken = some live ∧
    live.familyId = familyId ∧ circumstances.now < live.expiresAt) ∨
  ∃ spent sibling, Tables.get state.refreshTokens refreshToken = none ∧
    Tables.get state.consumedRefreshTokens refreshToken = some spent ∧
    spent.familyId = familyId ∧ spent.clientId = clientId ∧
    circumstances.now - spent.consumedAt ≤ refreshReuseLeewaySecs ∧
    sibling ∈ state.refreshTokens ∧ sibling.2.familyId = familyId

theorem exchangeRefreshToken_issues (clientId refreshToken resource : String) :
    Issues (Renews circumstances system.memory clientId refreshToken) system
      (exchangeRefreshToken env circumstances system clientId refreshToken resource).2 := by
  unfold exchangeRefreshToken
  dsimp only
  split
  · exact Issues.nothing
  split
  · rename_i absent
    unfold presentSpentToken
    dsimp only
    split
    · exact Issues.nothing
    rename_i spent found
    split
    · exact commitState_issues rfl (by simp) fun _ => rfl
    rename_i sibling search
    split
    · rename_i recent
      refine commitState_issues rfl ?_ fun _ => rfl
      intro access refresh grant familyId member
      obtain ⟨-, -, -, rfl⟩ : access = circumstances.value 0 ∧ refresh = circumstances.value 1 ∧
        grant = ⟨clientId, sibling.2.scopes, resource⟩ ∧ familyId = spent.familyId := by
          simpa using member
      have present : sibling ∈ system.memory.refreshTokens :=
        Tables.mem_iterate.mp (List.mem_of_find?_eq_some search)
      have alike := List.find?_some search
      simp only [Bool.and_eq_true, beq_iff_eq] at alike
      exact Or.inr ⟨spent, sibling, absent, found, rfl, recent.1, recent.2, present, alike.1.1.2⟩
    · exact commitState_issues rfl (by simp) fun _ => rfl
  · rename_i live found
    split
    · exact Issues.nothing
    rename_i matching
    simp only [not_or, not_not, Nat.not_le] at matching
    refine commitState_issues rfl ?_ fun _ => rfl
    intro access refresh grant familyId member
    obtain ⟨-, -, -, rfl⟩ : access = circumstances.value 0 ∧ refresh = circumstances.value 1 ∧
      grant = ⟨clientId, live.scopes, resource⟩ ∧ familyId = live.familyId := by
        simpa using member
    exact Or.inl ⟨live, found, rfl, matching.2.2⟩

/-- A renewal in time is of a family that has a token that did not expire. -/
theorem Renews.unexpired {clientId refreshToken resource : String}
    (renewable : Renewable system.memory)
    (found : system.inFlight[index]? = some (.exchangeRefreshToken clientId refreshToken resource,
      .main)) (inTime : renewsInTime system (.advance index circumstances) = true)
    (renews : Renews circumstances system.memory clientId refreshToken familyId) :
    ∃ live ∈ system.memory.refreshTokens,
      live.2.familyId = familyId ∧ circumstances.now < live.2.expiresAt := by
  rcases renews with ⟨live, present, sameFamily, unexpired⟩ |
    ⟨spent, sibling, absent, present, rfl, rfl, recent, sibling, siblingFamily⟩
  · exact ⟨(refreshToken, live), Tables.mem_of_get present, sameFamily, unexpired⟩
  · have inTime : circumstances.now ≠ spent.consumedAt + refreshReuseLeewaySecs ∨
        ∃ token live, (token, live) ∈ system.memory.refreshTokens ∧
          live.familyId = spent.familyId ∧
          spent.consumedAt + refreshTokenLifetimeSecs < live.expiresAt := by
      simpa [renewsInTime, found, absent, present] using inTime
    have same : refreshReuseLeewaySecs = refreshTokenLifetimeSecs := rfl
    rcases inTime with early | ⟨token, live, member, sameFamily, later⟩
    · obtain ⟨other, otherPresent, otherFamily, late⟩ :=
        renewable refreshToken spent (Tables.mem_of_get present) _ sibling siblingFamily
      exact ⟨other, otherPresent, otherFamily, by omega⟩
    · exact ⟨(token, live), member, sameFamily, by dsimp only; omega⟩

theorem advance_renews {clientId refreshToken resource : String}
    (found : system.inFlight[index]? = some (.exchangeRefreshToken clientId refreshToken resource,
      .main)) (advanced : advance env circumstances system index = some (answer, next)) :
    Issues (Renews circumstances system.memory clientId refreshToken) system next := by
  unfold advance at advanced
  rw [found] at advanced
  cases advanced
  obtain ⟨inFlight, same⟩ := proceed_eq
    (exchangeRefreshToken env circumstances (system.start index circumstances) clientId
      refreshToken resource).2 (.exchangeRefreshToken clientId refreshToken resource)
    (exchangeRefreshToken env circumstances (system.start index circumstances) clientId
      refreshToken resource).1
  have issues := @exchangeRefreshToken_issues lib env circumstances
    (system.start index circumstances) clientId refreshToken resource
  rw [Issues, performSection, same]
  exact issues

/-- The family of a refresh token, live or spent. -/
def OfFamily (state : DownstreamOauthState lib) (refreshToken familyId : String) : Prop :=
  (∃ live, Tables.get state.refreshTokens refreshToken = some live ∧
    live.familyId = familyId) ∨
  ∃ spent, Tables.get state.consumedRefreshTokens refreshToken = some spent ∧
    spent.familyId = familyId

/-- In every run whose renewals come in time, a renewal issues a pair only for the
family of the token it was called with, and only while that family has a refresh token
that did not expire. -/
theorem renewal_needs_live_family (env : Environment) (trace : List (Action lib))
    (final next : System lib)
    (admitted : Runs.Admitted (step env) (fun system action =>
      freshValues system action = true ∧ renewsInTime system action = true) initial trace)
    (ran : Runs.exec (step env) initial trace = some final) (index : Nat)
    (circumstances : Circumstances lib) (clientId refreshToken resource : String)
    (found : final.inFlight[index]? =
      some (.exchangeRefreshToken clientId refreshToken resource, .main))
    (inTime : renewsInTime final (.advance index circumstances) = true) (answer : Answer)
    (advanced : advance env circumstances final index = some (answer, next)) :
    Issues (fun familyId => OfFamily final.memory refreshToken familyId ∧
      ∃ live ∈ final.memory.refreshTokens,
        live.2.familyId = familyId ∧ circumstances.now < live.2.expiresAt) final next := by
  have base : Renewing env (initial : System lib) := by
    refine ⟨initial_regular ⟨sourced_empty [], by constructor <;> simp⟩, ?_, ?_⟩
    · intro state stored
      rcases stored with rfl | inFile | inDurable
      · constructor <;> simp [initial]
      · cases inFile
      · cases inDurable
    · intro state stored
      rcases stored with rfl | inFile | inDurable
      · intro token spent member
        cases member
      · cases inFile
      · cases inDurable
  have renewing := Runs.exec_invariant (step env)
    (fun system action => freshValues system action = true ∧ renewsInTime system action = true)
    (Renewing env)
    (fun _ _ _ admits held stepped => step_renewing admits.1 admits.2 held stepped)
    trace initial final base admitted ran
  obtain ⟨newer, logged, issued⟩ := advance_renews found advanced
  refine ⟨newer, logged, ?_⟩
  intro access refresh grant familyId member
  have renews := issued access refresh grant familyId member
  refine ⟨?_, renews.unexpired (renewing.renewable _ (Or.inl rfl)) found inTime⟩
  rcases renews with ⟨live, present, sameFamily, _⟩ | ⟨spent, _, _, present, sameFamily, _⟩
  · exact Or.inl ⟨live, present, sameFamily⟩
  · exact Or.inr ⟨spent, present, sameFamily⟩

/-- A token is renewed at time 10, and the spent one comes back at `time`. -/
def spentReturns (time : Nat) : List (Action namedPasskeys) := List.flatten
  [signingIn,
    whole (.exchangeRefreshToken "plug_app" "family2" "https://plug.example/mcp") 10 "check",
    [.advance 0 (during 10 "renewed" .durable)],
    whole (.exchangeRefreshToken "plug_app" "family2" "https://plug.example/mcp") time "again"]

/-- The families of the pairs that were issued. -/
def pairFamilies (log : List (Event lib)) : List String :=
  log.filterMap fun event => event.pair.map fun pair => pair.2.2

/-- What comes of the token that came back: the pairs issued before and after, and the
expiry times of the live tokens. -/
def renewalAt (time : Nat) : Option (List String × List String × List Nat) :=
  (Runs.exec (step sampleEnvironment) initial (spentReturns time)).bind fun final =>
    (advance sampleEnvironment (during time "late" .durable) final 0).map fun result =>
      (pairFamilies final.log, pairFamilies result.2.log,
        final.memory.refreshTokens.map fun item => item.2.expiresAt)

theorem renewalAt_some {before after : List String} {expiries : List Nat}
    (renewed : renewalAt time = some (before, after, expiries)) :
    ∃ final answer next, Runs.exec (step sampleEnvironment) initial (spentReturns time) =
        some final ∧
      advance sampleEnvironment (during time "late" .durable) final 0 = some (answer, next) ∧
      pairFamilies final.log = before ∧ pairFamilies next.log = after ∧
      final.memory.refreshTokens.map (fun item => item.2.expiresAt) = expiries := by
  obtain ⟨final, ran, renewed⟩ := Option.bind_eq_some_iff.mp renewed
  obtain ⟨⟨answer, next⟩, advanced, renewed⟩ := Option.map_eq_some_iff.mp renewed
  simp only [Prod.mk.injEq] at renewed
  exact ⟨final, answer, next, ran, advanced, renewed⟩

theorem renewal_needs_live_family_returning :
    ∃ final, Runs.exec (step sampleEnvironment) initial (spentReturns 20) = some final ∧
      ∃ live ∈ final.memory.refreshTokens,
        live.2.familyId = "family" ∧ 20 < live.2.expiresAt := by
  have renewed : renewalAt 20 = some (["family", "family"], ["family", "family", "family"],
      [10 + refreshTokenLifetimeSecs]) := by decide +kernel
  obtain ⟨final, answer, next, ran, advanced, before, after, -⟩ := renewalAt_some renewed
  have ready : ((Runs.exec (step sampleEnvironment) initial (spentReturns 20)).bind fun final =>
      final.inFlight[0]?.map fun task => (renewal task,
        renewsInTime final (.advance 0 (during 20 "late" .durable)))) =
      some (some ("plug_app", "family2", "https://plug.example/mcp"), true) := by decide +kernel
  rw [ran] at ready
  obtain ⟨task, found, ready⟩ := Option.map_eq_some_iff.mp ready
  obtain ⟨renews, inTime⟩ := Prod.mk.inj ready
  rw [renewal_some renews] at found
  obtain ⟨newer, logged, issued⟩ := renewal_needs_live_family sampleEnvironment (spentReturns 20)
    final next (by decide +kernel) ran 0 (during 20 "late" .durable) "plug_app" "family2"
    "https://plug.example/mcp" found inTime answer advanced
  have new : pairFamilies newer = ["family"] := by
    rw [logged, pairFamilies, List.filterMap_append] at after
    exact List.append_cancel_right (after.trans (by rw [pairFamilies] at before; rw [before]; rfl))
  obtain ⟨event, member, family⟩ := List.mem_filterMap.mp (new ▸ List.mem_singleton_self "family")
  obtain ⟨⟨accessToken, grant, familyId⟩, pair, rfl⟩ := Option.map_eq_some_iff.mp family
  obtain ⟨refreshToken, rfl⟩ := Event.pair_some pair
  exact ⟨final, ran, (issued _ _ _ _ member).2⟩

/-- In the last second of the leeway a spent token brings a pair although every token
of its family has expired. -/
theorem expired_family_renewed :
    ∃ final answer next,
      Runs.exec (step sampleEnvironment) initial
        (spentReturns (10 + refreshTokenLifetimeSecs)) = some final ∧
      advance sampleEnvironment (during (10 + refreshTokenLifetimeSecs) "late" .durable) final 0 =
        some (answer, next) ∧
      pairFamilies next.log = "family" :: pairFamilies final.log ∧
      ∀ live ∈ final.memory.refreshTokens,
        ¬ 10 + refreshTokenLifetimeSecs < live.2.expiresAt := by
  have renewed : renewalAt (10 + refreshTokenLifetimeSecs) = some (["family", "family"],
      ["family", "family", "family"], [10 + refreshTokenLifetimeSecs]) := by decide +kernel
  obtain ⟨final, answer, next, ran, advanced, before, after, expiries⟩ := renewalAt_some renewed
  refine ⟨final, answer, next, ran, advanced, by rw [before, after], ?_⟩
  intro live member unexpired
  have expiry : live.2.expiresAt ∈ [10 + refreshTokenLifetimeSecs] :=
    expiries ▸ List.mem_map.mpr ⟨live, member, rfl⟩
  rw [List.mem_singleton.mp expiry] at unexpired
  exact Nat.lt_irrefl _ unexpired

end Plug.DownstreamOauth
