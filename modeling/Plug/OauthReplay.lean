import Plug.OauthFamilies

/-!
# Replayed refresh tokens

A spent token that is presented by another client, too late, or when its family has
no live token left, ends its family. The family is taken out of the state in a
commit, and the sign-in is marked as ended before it. The mark exists only for
families under which a token was checked in this process, and only checks read it:
when the commit fails before the rename, live tokens of the family stay in memory and
can be renewed, and without a mark its access tokens stay valid.
-/

namespace Plug.DownstreamOauth

variable {lib : Passkeys} {env : Environment} {circumstances : Circumstances lib}
variable {system : System lib}

/-- The family that presenting a refresh token ends. -/
def replayedFamily (env : Environment) (circumstances : Circumstances lib)
    (state : DownstreamOauthState lib) (clientId refreshToken resource : String) :
    Option String :=
  if resource ≠ env.resource then none
  else match Tables.get state.refreshTokens refreshToken with
  | some _ => none
  | none =>
    match Tables.get state.consumedRefreshTokens refreshToken with
    | none => none
    | some spent =>
      let siblings := state.refreshTokens.filter fun live =>
        decide (spent.familyId ≠ "") && live.2.familyId == spent.familyId &&
          live.2.clientId == clientId && live.2.resource == resource
      if siblings ≠ [] ∧ spent.clientId = clientId ∧
          circumstances.now - spent.consumedAt ≤ refreshReuseLeewaySecs then none
      else some spent.familyId

theorem exchangeRefreshToken_replayed {clientId refreshToken resource familyId : String}
    (replayed : replayedFamily env circumstances system.memory clientId refreshToken resource =
      some familyId) :
    (∃ spent, (refreshToken, spent) ∈ system.memory.consumedRefreshTokens ∧
      spent.familyId = familyId) ∧
    exchangeRefreshToken env circumstances system clientId refreshToken resource =
      commitAndFail circumstances (system.endFamily familyId)
        (system.memory.revokeTokenFamily familyId) .invalidGrant := by
  unfold replayedFamily at replayed
  split at replayed
  · cases replayed
  rename_i sameResource
  split at replayed
  · cases replayed
  rename_i absent
  split at replayed
  · cases replayed
  rename_i spent found
  dsimp only at replayed
  split at replayed
  · cases replayed
  rename_i refused
  cases replayed
  refine ⟨⟨spent, Tables.mem_of_get found, rfl⟩, ?_⟩
  unfold exchangeRefreshToken
  dsimp only
  rw [if_neg sameResource, absent]
  dsimp only
  unfold presentSpentToken
  dsimp only
  rw [found]
  dsimp only
  split
  · rfl
  · rename_i live sibling
    rw [if_neg]
    intro recent
    refine refused ⟨?_, recent⟩
    intro none
    have member : live ∈ system.memory.refreshTokens :=
      Tables.mem_iterate.mp (List.mem_of_find?_eq_some sibling)
    have kept := List.mem_filter.mpr ⟨member, List.find?_some sibling⟩
    rw [none] at kept
    cases kept

/-- Nothing of the family can be renewed, and no check accepts its access tokens. -/
structure Over (system : System lib) (familyId : String) : Prop where
  refreshTokens : ∀ token record, (token, record) ∈ system.memory.refreshTokens →
    record.familyId ≠ familyId
  accessTokens : ∀ token record, (token, record) ∈ system.memory.accessTokens →
    record.familyId = familyId → Ended system familyId

/-- A replay gets its commit past the rename, or finds no live refresh token of the
family in memory and either its sign-in or no access token of it. -/
def endsFamily (circumstances : Circumstances lib) (system : System lib) (familyId : String) :
    Bool :=
  ((!system.durabilityDegraded || circumstances.synced) &&
    decide (circumstances.persist ≠ .failed)) ||
  ((system.memory.refreshTokens.all fun item => item.2.familyId != familyId) &&
    (Tables.containsKey system.familyEnded familyId ||
      system.memory.accessTokens.all fun item => item.2.familyId != familyId))

/-- Where a commit that fails leaves memory. -/
theorem commitAndFail_cases (prepared : System lib) (state : DownstreamOauthState lib)
    (error : DownstreamOauthError) :
    ((commitAndFail circumstances prepared state error).2.memory = state ∨
      (commitAndFail circumstances prepared state error).2.memory = prepared.memory ∧
        ¬ ((!prepared.durabilityDegraded || circumstances.synced) &&
          decide (circumstances.persist ≠ .failed)) = true) ∧
    (commitAndFail circumstances prepared state error).2.familyEnded = prepared.familyEnded := by
  unfold commitAndFail commitState ensureDurable
  dsimp only
  cases degraded : prepared.durabilityDegraded <;> cases circumstances.synced <;>
    cases circumstances.persist <;> simp [degraded]

theorem ended_of_containsKey {familyId : String}
    (tracked : Tables.containsKey system.familyEnded familyId = true) :
    Ended (system.endFamily familyId) familyId := by
  obtain ⟨signIn, member⟩ := Tables.containsKey_iff.mp tracked
  rw [Ended, System.endFamily, Tables.get_modify, if_pos rfl]
  cases found : Tables.get system.familyEnded familyId with
  | none => exact (Tables.get_eq_none.mp found signIn member).elim
  | some present => exact ⟨{ present with ended := true }, rfl, rfl⟩

theorem revokeTokenFamily_gone (state : DownstreamOauthState lib) {familyId : String}
    (named : familyId ≠ "") :
    (∀ token record, (token, record) ∈ (state.revokeTokenFamily familyId).refreshTokens →
      record.familyId ≠ familyId) ∧
    ∀ token record, (token, record) ∈ (state.revokeTokenFamily familyId).accessTokens →
      record.familyId ≠ familyId := by
  unfold DownstreamOauthState.revokeTokenFamily
  rw [if_neg named]
  constructor
  · intro token record member
    simpa using (List.mem_filter.mp member).2
  · intro token record member
    simpa using (List.mem_filter.mp member).2

/-- After a replay that meets the condition the family is over. -/
theorem replay_over {familyId : String} (named : familyId ≠ "")
    (ends : endsFamily circumstances system familyId = true) :
    Over (commitAndFail circumstances (system.endFamily familyId)
      (system.memory.revokeTokenFamily familyId) .invalidGrant).2 familyId := by
  obtain ⟨memory, families⟩ := @commitAndFail_cases lib circumstances
    (system.endFamily familyId) (system.memory.revokeTokenFamily familyId) .invalidGrant
  rcases memory with saved | ⟨kept, unsaved⟩
  · obtain ⟨refreshTokens, accessTokens⟩ := revokeTokenFamily_gone system.memory named
    constructor
    · rw [saved]
      exact refreshTokens
    · rw [saved]
      intro token record member sameFamily
      exact (accessTokens token record member sameFamily).elim
  · have ends := (Bool.or_eq_true_iff.mp ends).resolve_left unsaved
    obtain ⟨noRefresh, tracked⟩ := Bool.and_eq_true_iff.mp ends
    constructor
    · intro token record member
      rw [kept] at member
      simpa using List.all_eq_true.mp noRefresh (token, record) member
    · intro token record member sameFamily
      cases Bool.or_eq_true_iff.mp tracked with
      | inl tracked => exact (ended_of_containsKey tracked).of_eq families
      | inr noAccess =>
        rw [kept] at member
        have apart := List.all_eq_true.mp noAccess (token, record) member
        simp [sameFamily] at apart

/-- A replay that meets the condition leaves its family over and issues nothing. -/
theorem advance_replay {next : System lib} {index : Nat} {answer : Answer}
    {clientId refreshToken resource familyId : String}
    (found : system.inFlight[index]? =
      some (.exchangeRefreshToken clientId refreshToken resource, .main))
    (replayed : replayedFamily env circumstances system.memory clientId refreshToken resource =
      some familyId)
    (named : familyId ≠ "") (ends : endsFamily circumstances system familyId = true)
    (advanced : advance env circumstances system index = some (answer, next)) :
    Over next familyId ∧ Issues (fun issued => issued ≠ familyId) system next := by
  obtain ⟨_, replays⟩ := @exchangeRefreshToken_replayed lib env circumstances
    (system.start index circumstances) clientId refreshToken resource familyId replayed
  unfold advance at advanced
  rw [found] at advanced
  cases advanced
  have gone := @replay_over lib circumstances (system.start index circumstances) familyId
    named ends
  have issues : Issues (fun issued => issued ≠ familyId) system
      (commitAndFail circumstances ((system.start index circumstances).endFamily familyId)
        ((system.start index circumstances).memory.revokeTokenFamily familyId)
        .invalidGrant).2 :=
    commitState_issues rfl (by simp) fun _ => rfl
  rw [performSection, replays]
  generalize commitAndFail circumstances ((system.start index circumstances).endFamily familyId)
    ((system.start index circumstances).memory.revokeTokenFamily familyId)
    .invalidGrant = result at gone issues ⊢
  obtain ⟨inFlight, same⟩ := proceed_eq result.2
    (.exchangeRefreshToken clientId refreshToken resource) result.1
  rw [same]
  exact ⟨⟨gone.refreshTokens, gone.accessTokens⟩, issues⟩

/-! ### Later steps -/

/-- A family without live refresh tokens gets no tokens. -/
theorem change_over {value : Nat → String} {memory next : DownstreamOauthState lib}
    {events later : List (Event lib)} (change : Change env value memory next events later)
    {familyId : String} (old : value 0 ≠ familyId)
    (gone : ∀ token record, (token, record) ∈ memory.refreshTokens →
      record.familyId ≠ familyId) :
    (∀ token record, (token, record) ∈ next.refreshTokens → record.familyId ≠ familyId) ∧
    (∀ token record, (token, record) ∈ next.accessTokens → record.familyId = familyId →
      (token, record) ∈ memory.accessTokens) ∧
    ∀ access refresh grant, .issuedPair access refresh grant familyId ∉ later ++ events := by
  have shrunk : ∀ {base : DownstreamOauthState lib}, Within base memory →
      (∀ token record, (token, record) ∈ base.refreshTokens → record.familyId ≠ familyId) ∧
      ∀ token record, (token, record) ∈ base.accessTokens → record.familyId = familyId →
        (token, record) ∈ memory.accessTokens := by
    intro base within
    exact ⟨fun token record member => gone token record (within.refreshTokens member),
      fun token record member _ => within.accessTokens member⟩
  -- A pair is of a new family or of one that has a live token.
  have issued : ∀ {base : DownstreamOauthState lib} {order : String → Nat} {clientId : String}
      {scopes : List String} {resource newFamily : String} {now : Nat}
      {accessToken refreshToken : String}, Within base memory → newFamily ≠ familyId →
      (∀ token record, (token, record) ∈ (base.issueTokenPair order clientId scopes resource
        newFamily now accessToken refreshToken).refreshTokens → record.familyId ≠ familyId) ∧
      ∀ token record, (token, record) ∈ (base.issueTokenPair order clientId scopes resource
        newFamily now accessToken refreshToken).accessTokens → record.familyId = familyId →
        (token, record) ∈ memory.accessTokens := by
    intro base order clientId scopes resource newFamily now accessToken refreshToken within apart
    constructor
    · intro token record member
      cases mem_issueTokenPair_refresh member with
      | inl earlier => exact (shrunk within).1 token record earlier
      | inr new =>
        obtain ⟨-, rfl⟩ := Prod.mk.inj new
        exact apart
    · intro token record member sameFamily
      cases mem_issueTokenPair_access member with
      | inl earlier => exact (shrunk within).2 token record earlier sameFamily
      | inr new =>
        obtain ⟨-, rfl⟩ := Prod.mk.inj new
        exact (apart sameFamily).elim
  cases change with
  | exchanged within found gone order now =>
    obtain ⟨refreshTokens, accessTokens⟩ := issued within old
    refine ⟨refreshTokens, accessTokens, ?_⟩
    intro access refresh grant member
    simp only [List.cons_append, List.nil_append, List.mem_cons, List.not_mem_nil, or_false,
      reduceCtorEq, Event.issuedPair.injEq, false_or] at member
    exact old member.2.2.2.symm
  | renewed within found order now =>
    have apart := gone _ _ found
    obtain ⟨refreshTokens, accessTokens⟩ := issued within apart
    refine ⟨refreshTokens, accessTokens, ?_⟩
    intro access refresh grant member
    simp only [List.nil_append, List.mem_cons, List.not_mem_nil, or_false,
      Event.issuedPair.injEq] at member
    exact apart member.2.2.2.symm
  | shrunk within => exact ⟨(shrunk within).1, (shrunk within).2, by simp⟩
  | enrolled within credentialId credential =>
    exact ⟨(shrunk within).1, (shrunk within).2, by simp⟩
  | registered within client => exact ⟨(shrunk within).1, (shrunk within).2, by simp⟩
  | stored within clientId client address allowed =>
    exact ⟨(shrunk within).1, (shrunk within).2, by simp⟩
  | requested within consent present configured =>
    exact ⟨(shrunk within).1, (shrunk within).2, by simp⟩
  | coded within pending owned verified expiresAt =>
    exact ⟨(shrunk within).1, (shrunk within).2, by simp⟩
  | revoked clientId present =>
    have within := within_removeClientMaterial memory clientId
    exact ⟨(shrunk within).1, (shrunk within).2, by simp⟩

/-- A check keeps the sign-ins that ended. -/
theorem validate_ended {token : String} {requiredScopes : List String} {resource : String}
    {now : Nat} {familyId : String} (ended : Ended system familyId) :
    Ended (validateAccessTokenFor system token requiredScopes resource now).2 familyId := by
  have tracked : ∀ record, Ended (system.trackFamily record) familyId := by
    intro record
    obtain ⟨signIn, found, marked⟩ := ended
    by_cases same : familyId = record.familyId
    · subst same
      rw [Ended, System.trackFamily, Tables.get_insert_self, found]
      exact ⟨_, rfl, marked⟩
    · rw [Ended, System.trackFamily, Tables.get_insert_of_ne same]
      exact ⟨signIn, found, marked⟩
  unfold validateAccessTokenFor
  split
  · exact ended
  split
  · exact ended
  split
  · exact ended
  split
  · exact ended
  split
  · exact ended
  dsimp only
  split
  · split
    · exact ended
    · exact ended.of_eq rfl
  · split
    · exact tracked _
    · exact (tracked _).of_eq rfl

/-- No access token of a family that ended is valid. -/
theorem validate_over {token : String} {requiredScopes : List String} {resource : String}
    {now : Nat} {claims : AccessTokenClaims} {record : IssuedAccessToken}
    (found : Tables.get system.memory.accessTokens token = some record)
    (named : record.familyId ≠ "") (ended : Ended system record.familyId) :
    (validateAccessTokenFor system token requiredScopes resource now).1 ≠ .valid claims := by
  obtain ⟨signIn, present, marked⟩ := ended
  intro valid
  unfold validateAccessTokenFor at valid
  rw [found] at valid
  split at valid
  · cases valid
  dsimp only at valid
  split at valid
  · cases valid
  split at valid
  · cases valid
  split at valid
  · cases valid
  rename_i state _
  have inactive : ∀ generation, Lease.isActive ⟨state, generation, some record.familyId⟩
      (system.trackFamily record) now = false := by
    intro generation
    simp [Lease.isActive, System.trackFamily, present, SignIn.isOver, marked]
  rw [inactive] at valid
  cases valid

/-- A step of this process: anything but a restart. -/
def withinProcess : Action lib → Bool
  | .restart .. => false
  | _ => true

theorem step_ended {next : System lib} {action : Action lib} (within : withinProcess action = true)
    (stepped : step env system action = some next) {familyId : String}
    (ended : Ended system familyId) : Ended next familyId := by
  cases action with
  | call operation synced rateAllowed =>
    rw [← Option.some.inj stepped]
    have checked : (ensureDurable system synced).familyEnded = system.familyEnded := by
      cases ensureDurable_cases system synced with
      | inl unchanged =>
        rw [unchanged]
      | inr settled =>
        rw [settled]
    refine ended.of_eq ?_
    simp only [call]
    split
    · exact checked
    · split <;> exact checked
  | advance index circumstances =>
    obtain ⟨⟨answer, after⟩, advanced, rfl⟩ := Option.map_eq_some_iff.mp stepped
    obtain ⟨task, found, outcome⟩ := advance_family advanced
    exact outcome.ended familyId ended
  | abandon index =>
    rw [← Option.some.inj stepped]
    exact ended
  | validateAccessTokenFor token requiredScopes resource now =>
    rw [← Option.some.inj stepped]
    exact validate_ended ended
  | restart powerLost entryKept now => cases within

/-- A family that is over stays over, and no pair is issued for it. -/
theorem step_over {next : System lib} {action : Action lib} {familyId : String}
    (fresh : freshValues system action = true) (within : withinProcess action = true)
    (addressed : InFlightAddressed env system) (used : familyId ∈ system.used)
    (gone : Over system familyId) (stepped : step env system action = some next) :
    Over next familyId ∧ Issues (fun issued => issued ≠ familyId) system next := by
  have still : ∀ {token record}, (token, record) ∈ system.memory.accessTokens →
      record.familyId = familyId → Ended next familyId :=
    fun member sameFamily => step_ended within stepped (gone.accessTokens _ _ member sameFamily)
  cases step_effect addressed stepped with
  | idle memory file renamed durable log usedKept granted lifecycles principalLifecycles =>
    refine ⟨⟨?_, ?_⟩, [], log, by simp⟩
    · rw [memory]
      exact gone.refreshTokens
    · intro token record member sameFamily
      exact still (memory ▸ member) sameFamily
  | @sectioned index circumstances answer usedMore leases commit =>
    have old : circumstances.value 0 ≠ familyId := by
      intro same
      exact (freshIn_of_freshValues fresh).first (same ▸ used)
    have changed : ∀ {state events later}, Change env circumstances.value system.memory state
        events later → next.memory = state → Over next familyId := by
      intro state events later change memory
      obtain ⟨refreshTokens, accessTokens, _⟩ := change_over change old gone.refreshTokens
      refine ⟨memory ▸ refreshTokens, ?_⟩
      intro token record member sameFamily
      exact still (accessTokens token record (memory ▸ member) sameFamily) sameFamily
    have kept : next.memory = system.memory → Over next familyId := by
      intro memory
      refine ⟨memory ▸ gone.refreshTokens, ?_⟩
      intro token record member sameFamily
      exact still (memory ▸ member) sameFamily
    cases commit with
    | unattempted memory file renamed durable log => exact ⟨kept memory, [], log, by simp⟩
    | failed memory file renamed durable log =>
      exact ⟨kept memory, [.persisted .failed], log, by simp⟩
    | @uncertain state events later change memory file renamed durable log =>
      refine ⟨changed change memory, events ++ [.persisted .uncertain], by rw [log]; simp, ?_⟩
      rintro access refresh grant issued member rfl
      have none := (change_over change old gone.refreshTokens).2.2 access refresh grant
      cases List.mem_append.mp member with
      | inl new => exact none (List.mem_append_right _ new)
      | inr last =>
        simp at last
    | @durable _ state events later change memory file renamed durable log expelled =>
      refine ⟨changed change memory, later ++ events ++ [.persisted .durable],
        by rw [log]; simp, ?_⟩
      rintro access refresh grant issued member rfl
      have none := (change_over change old gone.refreshTokens).2.2 access refresh grant
      cases List.mem_append.mp member with
      | inl new => exact none new
      | inr last =>
        simp at last
  | validated found present clientId lifecycle familyEnded same =>
    have memory : next.memory = system.memory := by rw [same]
    refine ⟨⟨memory ▸ gone.refreshTokens, ?_⟩, [], by rw [same]; rfl, by simp⟩
    intro token record member sameFamily
    exact still (memory ▸ member) sameFamily
  | restarted file same => cases within

theorem Issues.trans {property : String → Prop} {first second third : System lib}
    (earlier : Issues property first second) (later : Issues property second third) :
    Issues property first third := by
  obtain ⟨newer, logged, issued⟩ := earlier
  obtain ⟨newest, loggedLater, issuedLater⟩ := later
  refine ⟨newest ++ newer, by rw [loggedLater, logged, List.append_assoc], ?_⟩
  intro access refresh grant familyId member
  cases List.mem_append.mp member with
  | inl new => exact issuedLater access refresh grant familyId new
  | inr old => exact issued access refresh grant familyId old

/-- Values of `opaque_value` are new, distinct and not empty. -/
def generatedValues (system : System lib) : Action lib → Bool
  | .advance index circumstances =>
    freshValues system (.advance index circumstances) &&
      circumstances.value 0 != "" && circumstances.value 1 != "" && circumstances.value 2 != ""
  | _ => true

theorem fresh_of_generated {action : Action lib}
    (generated : generatedValues system action = true) : freshValues system action = true := by
  cases action with
  | advance index circumstances =>
    simp only [generatedValues, Bool.and_eq_true] at generated
    exact generated.1.1.1
  | _ => rfl

/-- Names that were generated are not empty, and families have such names. -/
structure Named (env : Environment) (system : System lib) : Prop where
  addressed : InFlightAddressed env system
  generated : ∀ state, Stored system state → Generated state system.used
  nonempty : ∀ name ∈ system.used, name ≠ ""

theorem step_named {next : System lib} {action : Action lib}
    (generated : generatedValues system action = true) (named : Named env system)
    (stepped : step env system action = some next) : Named env next where
  addressed := step_addressed named.addressed stepped
  generated := step_generated named.addressed named.generated stepped
  nonempty := by
    intro name member
    cases step_effect named.addressed stepped with
    | idle memory file renamed durable log used granted lifecycles principalLifecycles =>
      exact named.nonempty name (used ▸ member)
    | @sectioned index circumstances answer used leases commit =>
      rw [used] at member
      simp only [generatedValues, Bool.and_eq_true, bne_iff_ne, ne_eq] at generated
      cases List.mem_append.mp member with
      | inl new =>
        simp only [List.mem_cons, List.not_mem_nil, or_false] at new
        rcases new with rfl | rfl | rfl
        · exact generated.1.1.2
        · exact generated.1.2
        · exact generated.2
      | inr old => exact named.nonempty name old
    | validated found present clientId lifecycle familyEnded same =>
      subst same
      exact named.nonempty name member
    | restarted file same =>
      subst same
      exact named.nonempty name member

theorem initial_named : Named env (initial : System lib) := by
  refine ⟨?_, ?_, ?_⟩
  · intro task member
    cases member
  · intro state stored
    rcases stored with rfl | inFile | inDurable
    · constructor <;> simp [initial]
    · cases inFile
    · cases inDurable
  · intro name member
    cases member

/-- In every run: once a refresh token was replayed, and its family was saved as ended
or has nothing left that could be renewed or checked, no access token of the family is
valid in this process and no pair is issued for it. -/
theorem replay_ends_family (env : Environment) (before after : List (Action lib))
    (system next final : System lib)
    (generatedBefore : Runs.Admitted (step env)
      (fun system action => generatedValues system action = true) initial before)
    (ranBefore : Runs.exec (step env) initial before = some system)
    (index : Nat) (circumstances : Circumstances lib)
    (clientId refreshToken resource familyId : String)
    (found : system.inFlight[index]? =
      some (.exchangeRefreshToken clientId refreshToken resource, .main))
    (replayed : replayedFamily env circumstances system.memory clientId refreshToken resource =
      some familyId)
    (ends : endsFamily circumstances system familyId = true) (answer : Answer)
    (advanced : advance env circumstances system index = some (answer, next))
    (generatedAfter : Runs.Admitted (step env) (fun system action =>
      generatedValues system action = true ∧ withinProcess action = true) next after)
    (ranAfter : Runs.exec (step env) next after = some final) :
    (∀ token record, Tables.get final.memory.accessTokens token = some record →
      record.familyId = familyId → ∀ requiredScopes resource now claims,
        (validateAccessTokenFor final token requiredScopes resource now).1 ≠ .valid claims) ∧
    Issues (fun issued => issued ≠ familyId) system final := by
  have named := Runs.exec_invariant (step env)
    (fun system action => generatedValues system action = true) (Named env)
    (fun _ _ _ generated held stepped => step_named generated held stepped)
    before initial system initial_named generatedBefore ranBefore
  obtain ⟨⟨spent, present, sameFamily⟩, _⟩ := exchangeRefreshToken_replayed replayed
  have used : familyId ∈ system.used :=
    sameFamily ▸ (named.generated system.memory (Or.inl rfl)).spentFamilies _ _ present
  have nonempty := named.nonempty familyId used
  have usedNext := advance_used named.addressed advanced
  have addressed := (advance_effect named.addressed advanced).2.1
  obtain ⟨gone, issued⟩ := advance_replay found replayed nonempty ends advanced
  obtain ⟨addressed, used, gone, issues⟩ := Runs.exec_invariant (step env)
    (fun system action => generatedValues system action = true ∧ withinProcess action = true)
    (fun current => InFlightAddressed env current ∧ familyId ∈ current.used ∧
      Over current familyId ∧ Issues (fun issued => issued ≠ familyId) system current)
    (by
      intro current action following admits held stepped
      obtain ⟨addressed, used, gone, issues⟩ := held
      obtain ⟨overNext, issuesNext⟩ := step_over (fresh_of_generated admits.1) admits.2
        addressed used gone stepped
      exact ⟨step_addressed addressed stepped, step_used addressed stepped used, overNext,
        issues.trans issuesNext⟩)
    after next final
    ⟨addressed, usedNext ▸ List.mem_append_right _ used, gone, issued⟩ generatedAfter ranAfter
  refine ⟨?_, issues⟩
  intro token record member family requiredScopes resource now claims
  subst family
  exact validate_over member nonempty
    (gone.accessTokens token record (Tables.mem_of_get member) rfl)

/-- A token is renewed, and another client presents the spent one. -/
def foreignReplay : List (Action namedPasskeys) := List.flatten
  [signingIn,
    whole (.exchangeRefreshToken "plug_app" "family2" "https://plug.example/mcp") 0 "check",
    [.advance 0 (during 0 "renewed" .durable)],
    whole sampleRegistration 0 "eve",
    whole (.exchangeRefreshToken "plug_eve" "family2" "https://plug.example/mcp") 0 "again"]

/-- The replay of `foreignReplay`: what is in flight, the family it ends and whether it
meets the condition. -/
def replayWith (persist : PersistOutcome) :
    Option (Option (String × String × String) × Option String × Bool) :=
  (Runs.exec (step sampleEnvironment) initial foreignReplay).bind fun system =>
    (system.inFlight[0]?).map fun task =>
      (renewal task,
        replayedFamily sampleEnvironment (during 0 "replay" persist) system.memory "plug_eve"
          "family2" "https://plug.example/mcp",
        endsFamily (during 0 "replay" persist) system "family")

theorem replayWith_some {persist : PersistOutcome} {ends : Bool}
    (replays : replayWith persist = some (some ("plug_eve", "family2",
      "https://plug.example/mcp"), some "family", ends)) :
    ∃ system answer next,
      Runs.exec (step sampleEnvironment) initial foreignReplay = some system ∧
      system.inFlight[0]? = some (.exchangeRefreshToken "plug_eve" "family2"
        "https://plug.example/mcp", .main) ∧
      replayedFamily sampleEnvironment (during 0 "replay" persist) system.memory "plug_eve"
        "family2" "https://plug.example/mcp" = some "family" ∧
      endsFamily (during 0 "replay" persist) system "family" = ends ∧
      advance sampleEnvironment (during 0 "replay" persist) system 0 = some (answer, next) := by
  obtain ⟨system, ran, replays⟩ := Option.bind_eq_some_iff.mp replays
  obtain ⟨task, found, replays⟩ := Option.map_eq_some_iff.mp replays
  simp only [Prod.mk.injEq] at replays
  obtain ⟨renews, replayed, ends⟩ := replays
  rw [renewal_some renews] at found
  have advanced : ∃ result, advance sampleEnvironment (during 0 "replay" persist) system 0 =
      some result := by
    unfold advance
    rw [found]
    exact ⟨_, rfl⟩
  obtain ⟨⟨answer, next⟩, advanced⟩ := advanced
  exact ⟨system, answer, next, ran, found, replayed, ends, advanced⟩

/-- The client of the family tries to renew after the replay. -/
def renewingAgain : List (Action namedPasskeys) := List.flatten
  [whole (.exchangeRefreshToken "plug_app" "renewed1" "https://plug.example/mcp") 0 "last",
    [.advance 0 (during 0 "none" .durable)]]

theorem replay_ends_family_saved :
    ∃ system final,
      Runs.exec (step sampleEnvironment) initial foreignReplay = some system ∧
      Issues (fun issued => issued ≠ "family") system final := by
  have replays : replayWith .durable = some (some ("plug_eve", "family2",
      "https://plug.example/mcp"), some "family", true) := by decide +kernel
  obtain ⟨system, answer, next, ran, found, replayed, ends, advanced⟩ := replayWith_some replays
  have later : ((Runs.exec (step sampleEnvironment) initial foreignReplay).bind fun system =>
      (advance sampleEnvironment (during 0 "replay" .durable) system 0).bind fun result =>
        (Runs.exec (step sampleEnvironment) result.2 renewingAgain).map fun _ =>
          decide (Runs.Admitted (step sampleEnvironment) (fun system action =>
            generatedValues system action = true ∧ withinProcess action = true) result.2
            renewingAgain)) = some true := by decide +kernel
  rw [ran, Option.bind_some, advanced, Option.bind_some] at later
  obtain ⟨final, ranAfter, admitted⟩ := Option.map_eq_some_iff.mp later
  exact ⟨system, final, ran, (replay_ends_family sampleEnvironment foreignReplay renewingAgain
    system next final (by decide +kernel) ran 0 (during 0 "replay" .durable) "plug_eve" "family2"
    "https://plug.example/mcp" "family" found replayed ends answer advanced
    (of_decide_eq_true admitted) ranAfter).2⟩

/-- A replay whose commit fails leaves the access token of the family valid. -/
theorem failed_replay_leaves_token_valid :
    ∃ system answer next,
      Runs.exec (step sampleEnvironment) initial foreignReplay = some system ∧
      system.inFlight[0]? = some (.exchangeRefreshToken "plug_eve" "family2"
        "https://plug.example/mcp", .main) ∧
      replayedFamily sampleEnvironment (during 0 "replay" .failed) system.memory "plug_eve"
        "family2" "https://plug.example/mcp" = some "family" ∧
      advance sampleEnvironment (during 0 "replay" .failed) system 0 = some (answer, next) ∧
      ∃ record claims, Tables.get next.memory.accessTokens "renewed" = some record ∧
        record.familyId = "family" ∧
        (validateAccessTokenFor next "renewed" ["mcp"] "https://plug.example/mcp" 0).1 =
          .valid claims := by
  have replays : replayWith .failed = some (some ("plug_eve", "family2",
      "https://plug.example/mcp"), some "family", false) := by decide +kernel
  obtain ⟨system, answer, next, ran, found, replayed, -, advanced⟩ := replayWith_some replays
  refine ⟨system, answer, next, ran, found, replayed, advanced, ?_⟩
  have checked : ((Runs.exec (step sampleEnvironment) initial foreignReplay).bind fun system =>
      (advance sampleEnvironment (during 0 "replay" .failed) system 0).bind fun result =>
        (Tables.get result.2.memory.accessTokens "renewed").map fun record =>
          (record.familyId, match (validateAccessTokenFor result.2 "renewed" ["mcp"]
            "https://plug.example/mcp" 0).1 with
            | .valid _ => true
            | _ => false)) = some ("family", true) := by decide +kernel
  rw [ran, Option.bind_some, advanced, Option.bind_some] at checked
  obtain ⟨record, present, checked⟩ := Option.map_eq_some_iff.mp checked
  obtain ⟨family, valid⟩ := Prod.mk.inj checked
  split at valid
  · rename_i claims accepted
    exact ⟨record, claims, present, family, accepted⟩
  · cases valid

end Plug.DownstreamOauth
