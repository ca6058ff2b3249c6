import Plug.OauthSteps

/-!
# Provenance of grants

A code is made from a pending consent when an owner's assertion verifies, a pair
from a code, and later pairs from a live refresh token of the family. Each step
copies the client, the scopes and the resource of the record before it, so all
of them are those of one approved consent.
-/

namespace Plug.DownstreamOauth

variable {lib : Passkeys} {env : Environment}

/-- A consent request for this grant was approved: an assertion made with an
enrolled passkey was verified for it. -/
def Approved (log : List (Event lib)) (grant : Grant) : Prop :=
  ∃ consentId credentialId authentication response passkey counter,
    .requested consentId grant ∈ log ∧
      .approved consentId credentialId authentication response passkey ∈ log ∧
      .enrolled credentialId ∈ log ∧
      lib.finishAuthentication authentication response passkey = some (true, counter)

theorem Approved.mono {log longer : List (Event lib)} (subset : log ⊆ longer) {grant : Grant}
    (approved : Approved log grant) : Approved longer grant := by
  obtain ⟨consentId, credentialId, authentication, response, passkey, counter, requested,
    agreed, enrolled, verified⟩ := approved
  exact ⟨consentId, credentialId, authentication, response, passkey, counter,
    subset requested, subset agreed, subset enrolled, verified⟩

/-- What the records of a state were made from. -/
structure Sourced (state : DownstreamOauthState lib) (log : List (Event lib)) : Prop where
  consents : ∀ id consent, (id, consent) ∈ state.pendingConsents →
    .requested id consent.grant ∈ log
  credentials : ∀ id credential, (id, credential) ∈ state.ownerCredentials → .enrolled id ∈ log
  codes : ∀ code pending, (code, pending) ∈ state.pendingCodes → Approved log pending.grant
  accessTokens : ∀ token record, (token, record) ∈ state.accessTokens →
    ∃ access refresh, .issuedPair access refresh record.grant record.familyId ∈ log
  refreshTokens : ∀ token record, (token, record) ∈ state.refreshTokens →
    ∃ access refresh, .issuedPair access refresh record.grant record.familyId ∈ log

theorem Sourced.mono {state : DownstreamOauthState lib} {log longer : List (Event lib)}
    (sourced : Sourced state log) (subset : log ⊆ longer) : Sourced state longer where
  consents id consent member := subset (sourced.consents id consent member)
  credentials id credential member := subset (sourced.credentials id credential member)
  codes code pending member := (sourced.codes code pending member).mono subset
  accessTokens token record member := by
    obtain ⟨access, refresh, issued⟩ := sourced.accessTokens token record member
    exact ⟨access, refresh, subset issued⟩
  refreshTokens token record member := by
    obtain ⟨access, refresh, issued⟩ := sourced.refreshTokens token record member
    exact ⟨access, refresh, subset issued⟩

theorem Sourced.within {next memory : DownstreamOauthState lib} {log : List (Event lib)}
    (sourced : Sourced memory log) (within : Within next memory) : Sourced next log where
  consents id consent member := sourced.consents id consent (within.pendingConsents member)
  credentials id credential member := by
    obtain ⟨former, present⟩ := within.ownerCredentials id credential member
    exact sourced.credentials id former present
  codes code pending member := sourced.codes code pending (within.pendingCodes member)
  accessTokens token record member :=
    sourced.accessTokens token record (within.accessTokens member)
  refreshTokens token record member :=
    sourced.refreshTokens token record (within.refreshTokens member)

theorem sourced_empty (log : List (Event lib)) : Sourced {} log := by
  constructor <;> simp

/-- What was issued is approved, and a family is one grant. -/
structure Issued (env : Environment) (log : List (Event lib)) (used : List String) : Prop where
  requests : ∀ id grant, .requested id grant ∈ log →
    id ∈ used ∧ ∀ scope ∈ grant.scopes, scope ∈ env.oauthScopes
  distinct : ∀ id grant other, .requested id grant ∈ log → .requested id other ∈ log →
    grant = other
  pairs : ∀ access refresh grant familyId, .issuedPair access refresh grant familyId ∈ log →
    Approved log grant ∧ familyId ∈ used
  families : ∀ access refresh grant otherAccess otherRefresh other familyId,
    .issuedPair access refresh grant familyId ∈ log →
    .issuedPair otherAccess otherRefresh other familyId ∈ log → grant = other

/-- Events that neither request nor issue anything. -/
def Event.incidental : Event lib → Prop
  | .requested .. | .issuedPair .. => False
  | _ => True

theorem Issued.incidental {log : List (Event lib)} {used : List String}
    (issued : Issued env log used) {more : List (Event lib)}
    (incidental : ∀ event ∈ more, event.incidental) : Issued env (more ++ log) used := by
  have requested : ∀ id grant, .requested id grant ∈ more ++ log →
      .requested id grant ∈ log := by
    intro id grant member
    exact (List.mem_append.mp member).resolve_left fun new => incidental _ new
  have paired : ∀ access refresh grant familyId,
      .issuedPair access refresh grant familyId ∈ more ++ log →
        .issuedPair access refresh grant familyId ∈ log := by
    intro access refresh grant familyId member
    exact (List.mem_append.mp member).resolve_left fun new => incidental _ new
  refine ⟨?_, ?_, ?_, ?_⟩
  · intro id grant member
    exact issued.requests id grant (requested id grant member)
  · intro id grant other member otherMember
    exact issued.distinct id grant other (requested id grant member)
      (requested id other otherMember)
  · intro access refresh grant familyId member
    obtain ⟨approved, known⟩ := issued.pairs _ _ _ _ (paired _ _ _ _ member)
    exact ⟨approved.mono (List.subset_append_right more log), known⟩
  · intro access refresh grant otherAccess otherRefresh other familyId member otherMember
    exact issued.families _ _ _ _ _ _ _ (paired _ _ _ _ member) (paired _ _ _ _ otherMember)

theorem Issued.spent {log : List (Event lib)} {used : List String} (issued : Issued env log used)
    (value : Nat → String) : Issued env log (usedWith value used) where
  requests id grant member := by
    obtain ⟨known, configured⟩ := issued.requests id grant member
    exact ⟨List.mem_append_right _ known, configured⟩
  distinct := issued.distinct
  pairs access refresh grant familyId member := by
    obtain ⟨approved, known⟩ := issued.pairs access refresh grant familyId member
    exact ⟨approved, List.mem_append_right _ known⟩
  families := issued.families

/-- A new request, under a new id. -/
theorem Issued.request {log : List (Event lib)} {used : List String}
    (issued : Issued env log used) {value : Nat → String} (fresh : FreshIn value used)
    {grant : Grant} (configured : ∀ scope ∈ grant.scopes, scope ∈ env.oauthScopes) :
    Issued env (.requested (value 0) grant :: log) (usedWith value used) := by
  have known := issued.spent value
  have unknown : ∀ other, .requested (value 0) other ∉ log :=
    fun other member => fresh.first (issued.requests _ _ member).1
  refine ⟨?_, ?_, ?_, ?_⟩
  · intro id other member
    cases List.mem_cons.mp member with
    | inl new =>
      obtain ⟨rfl, rfl⟩ := Event.requested.inj new
      exact ⟨List.mem_cons_self .., configured⟩
    | inr member => exact known.requests id other member
  · intro id first second member otherMember
    rcases List.mem_cons.mp member with new | member <;>
      rcases List.mem_cons.mp otherMember with otherNew | otherMember
    · rw [(Event.requested.inj new).2, (Event.requested.inj otherNew).2]
    · rw [(Event.requested.inj new).1] at otherMember
      exact (unknown _ otherMember).elim
    · rw [(Event.requested.inj otherNew).1] at member
      exact (unknown _ member).elim
    · exact issued.distinct id first second member otherMember
  · intro access refresh other familyId member
    have member : .issuedPair access refresh other familyId ∈ log := by simpa using member
    obtain ⟨approved, used⟩ := known.pairs access refresh other familyId member
    exact ⟨approved.mono (List.subset_cons_self ..), used⟩
  · intro access refresh first otherAccess otherRefresh second familyId member otherMember
    refine issued.families access refresh first otherAccess otherRefresh second familyId ?_ ?_
    · simpa using member
    · simpa using otherMember

/-- A new pair, in a new family or with the grant of its family. -/
theorem Issued.pair {log : List (Event lib)} {used : List String} (issued : Issued env log used)
    {value : Nat → String} {access refresh familyId : String} {grant : Grant}
    (approved : Approved log grant) (known : familyId ∈ usedWith value used)
    (family : ∀ otherAccess otherRefresh other,
      .issuedPair otherAccess otherRefresh other familyId ∈ log → other = grant) :
    Issued env (.issuedPair access refresh grant familyId :: log) (usedWith value used) := by
  have before := issued.spent value
  refine ⟨?_, ?_, ?_, ?_⟩
  · intro id other member
    exact before.requests id other (by simpa using member)
  · intro id first second member otherMember
    exact issued.distinct id first second (by simpa using member) (by simpa using otherMember)
  · intro otherAccess otherRefresh other otherFamily member
    cases List.mem_cons.mp member with
    | inl new =>
      obtain ⟨_, _, rfl, rfl⟩ := Event.issuedPair.inj new
      exact ⟨approved.mono (List.subset_cons_self ..), known⟩
    | inr member =>
      obtain ⟨otherApproved, otherKnown⟩ := before.pairs _ _ _ _ member
      exact ⟨otherApproved.mono (List.subset_cons_self ..), otherKnown⟩
  · intro firstAccess firstRefresh first secondAccess secondRefresh second otherFamily member
      otherMember
    rcases List.mem_cons.mp member with new | earlier <;>
      rcases List.mem_cons.mp otherMember with otherNew | otherEarlier
    · rw [(Event.issuedPair.inj new).2.2.1, (Event.issuedPair.inj otherNew).2.2.1]
    · obtain ⟨_, _, rfl, rfl⟩ := Event.issuedPair.inj new
      exact (family _ _ _ otherEarlier).symm
    · obtain ⟨_, _, rfl, rfl⟩ := Event.issuedPair.inj otherNew
      exact family _ _ _ earlier
    · exact issued.families _ _ _ _ _ _ _ earlier otherEarlier

section Changes

variable {value : Nat → String} {memory next : DownstreamOauthState lib}
variable {events later log : List (Event lib)} {used : List String}

/-- What a change issues has the grant of the record it is made from. -/
theorem change_issued (fresh : FreshIn value used) (sourced : Sourced memory log)
    (issued : Issued env log used) (change : Change env value memory next events later) :
    Issued env (events ++ log) (usedWith value used) := by
  cases change with
  | shrunk within => exact issued.spent value
  | enrolled within credentialId credential =>
    exact (issued.spent value).incidental (by simp [Event.incidental])
  | registered within client => exact issued.spent value
  | stored within clientId client address allowed => exact issued.spent value
  | requested within consent present configured => exact issued.request fresh configured
  | coded within pending owned verified expiresAt =>
    exact (issued.spent value).incidental (by simp [Event.incidental])
  | exchanged within found gone order now =>
    refine issued.pair (sourced.codes _ _ found) (List.mem_cons_self ..) ?_
    intro access refresh other earlier
    exact (fresh.first (issued.pairs _ _ _ _ earlier).2).elim
  | renewed within found order now =>
    obtain ⟨access, refresh, earlier⟩ := sourced.refreshTokens _ _ found
    obtain ⟨approved, known⟩ := issued.pairs _ _ _ _ earlier
    refine issued.pair approved (List.mem_append_right _ known) ?_
    intro otherAccess otherRefresh other otherEarlier
    exact issued.families _ _ _ _ _ _ _ otherEarlier earlier
  | revoked clientId present => exact issued.spent value

/-- The pair that was issued is where its two tokens come from. -/
theorem sourced_issueTokenPair {base : DownstreamOauthState lib} {order : String → Nat}
    {clientId : String} {scopes : List String} {resource familyId : String} {now : Nat}
    {access refresh : String} (sourced : Sourced base log) :
    Sourced (base.issueTokenPair order clientId scopes resource familyId now access refresh)
      (.issuedPair access refresh ⟨clientId, scopes, resource⟩ familyId :: log) := by
  have before := sourced.mono
    (List.subset_cons_self (Event.issuedPair access refresh ⟨clientId, scopes, resource⟩ familyId)
      log)
  refine ⟨before.consents, before.credentials, before.codes, ?_, ?_⟩
  · intro token record member
    cases mem_issueTokenPair_access member with
    | inl kept => exact before.accessTokens token record kept
    | inr new =>
      obtain ⟨_, rfl⟩ := Prod.mk.inj new
      exact ⟨access, refresh, List.mem_cons_self ..⟩
  · intro token record member
    cases mem_issueTokenPair_refresh member with
    | inl kept => exact before.refreshTokens token record kept
    | inr new =>
      obtain ⟨_, rfl⟩ := Prod.mk.inj new
      exact ⟨access, refresh, List.mem_cons_self ..⟩

/-- The records of a changed state come from what was logged. -/
theorem change_sourced (sourced : Sourced memory log)
    (change : Change env value memory next events later) : Sourced next (events ++ log) := by
  cases change with
  | shrunk within => exact sourced.within within
  | enrolled within credentialId credential =>
    have before := (sourced.within within).mono
      (List.subset_cons_self (Event.enrolled credentialId) log)
    refine ⟨before.consents, ?_, before.codes, before.accessTokens, before.refreshTokens⟩
    intro id stored member
    rcases Tables.mem_insert.mp member with new | ⟨kept, _⟩
    · obtain ⟨rfl, _⟩ := Prod.mk.inj new
      exact List.mem_cons_self ..
    · exact before.credentials id stored kept
  | registered within client =>
    have before := sourced.within within
    exact ⟨before.consents, before.credentials, before.codes, before.accessTokens,
      before.refreshTokens⟩
  | stored within clientId client address allowed =>
    have before := sourced.within within
    exact ⟨before.consents, before.credentials, before.codes, before.accessTokens,
      before.refreshTokens⟩
  | requested within consent present configured =>
    have before := (sourced.within within).mono
      (List.subset_cons_self (Event.requested (value 0) consent.grant) log)
    refine ⟨?_, before.credentials, before.codes, before.accessTokens, before.refreshTokens⟩
    intro id stored member
    rcases Tables.mem_insert.mp member with new | ⟨kept, _⟩
    · cases new
      exact List.mem_cons_self ..
    · exact before.consents id stored kept
  | @coded base within consentId consent pending credentialId credential owned authentication
      response counter verified expiresAt =>
    have subset := List.subset_append_right
      [Event.issuedCode (value 0) consent.clientId,
        .approved consentId credentialId authentication response credential.passkey] log
    have before := (sourced.within within).mono subset
    refine ⟨before.consents, before.credentials, ?_, before.accessTokens, before.refreshTokens⟩
    intro code stored member
    rcases Tables.mem_insert.mp member with new | ⟨kept, _⟩
    · obtain ⟨_, rfl⟩ := Prod.mk.inj new
      refine ⟨consentId, credentialId, authentication, response, credential.passkey, counter,
        subset (sourced.consents _ _ pending), ?_, subset (sourced.credentials _ _ owned),
        verified⟩
      simp
    · exact before.codes code stored kept
  | exchanged within found gone order now => exact sourced_issueTokenPair (sourced.within within)
  | renewed within found order now => exact sourced_issueTokenPair (sourced.within within)
  | revoked clientId present =>
    have before := sourced.within (within_removeClientMaterial memory clientId)
    exact ⟨before.consents, before.credentials, before.codes, before.accessTokens,
      before.refreshTokens⟩

/-- What follows a durable commit requests and issues nothing. -/
theorem change_later_incidental (change : Change env value memory next events later) :
    ∀ event ∈ later, event.incidental := by
  cases change <;> simp [Event.incidental]

end Changes

theorem provenance_carried (env : Environment) :
    Carried env fun (state : DownstreamOauthState lib) log used =>
      Sourced state log ∧ Issued env log used where
  empty state log used _ held := ⟨sourced_empty log, held.2⟩
  within next memory log used within held := ⟨held.1.within within, held.2⟩
  spent state log used value held := ⟨held.1, held.2.spent value⟩
  persisted state log used outcome held :=
    ⟨held.1.mono (List.subset_cons_self ..),
      @Issued.incidental _ _ _ _ held.2 [.persisted outcome] (by simp [Event.incidental])⟩
  announced value memory next events later log used fresh held change state stored :=
    ⟨stored.1.mono (List.subset_append_right ..), change_issued fresh held.1 held.2 change⟩
  changed value memory next events later log used fresh held change := by
    have issued := change_issued fresh held.1 held.2 change
    have sourced := change_sourced held.1 change
    exact ⟨⟨sourced, issued⟩, fun _ => ⟨sourced.mono (List.subset_append_right ..),
      issued.incidental (change_later_incidental change)⟩⟩

/-- The grants of the stored tokens, each with its family. -/
def DownstreamOauthState.tokenGrants (state : DownstreamOauthState lib) :
    List (String × Grant) :=
  state.accessTokens.map (fun item => (item.2.familyId, item.2.grant)) ++
    state.refreshTokens.map fun item => (item.2.familyId, item.2.grant)

theorem Sourced.tokenGrants {state : DownstreamOauthState lib} {log : List (Event lib)}
    (sourced : Sourced state log) {familyId : String} {grant : Grant}
    (member : (familyId, grant) ∈ state.tokenGrants) :
    ∃ access refresh, .issuedPair access refresh grant familyId ∈ log := by
  cases List.mem_append.mp member with
  | inl member =>
    obtain ⟨item, present, same⟩ := List.mem_map.mp member
    cases same
    exact sourced.accessTokens item.1 item.2 present
  | inr member =>
    obtain ⟨item, present, same⟩ := List.mem_map.mp member
    cases same
    exact sourced.refreshTokens item.1 item.2 present

/-- In every reachable state, in memory and on disk, every code and token has the
grant of one approved consent request, its scopes are configured, and the tokens
of a family share their grant. -/
theorem grants_approved (env : Environment) (trace : List (Action lib)) (final : System lib)
    (fresh : Runs.Admitted (step env) (fun system action => freshValues system action = true)
      initial trace)
    (ran : Runs.exec (step env) initial trace = some final) :
    (∀ id grant other, .requested id grant ∈ final.log → .requested id other ∈ final.log →
      grant = other) ∧
    ∀ state, Stored final state →
      (∀ code pending, (code, pending) ∈ state.pendingCodes →
        Approved final.log pending.grant ∧ ∀ scope ∈ pending.scopes, scope ∈ env.oauthScopes) ∧
      (∀ familyId grant, (familyId, grant) ∈ state.tokenGrants →
        Approved final.log grant ∧ ∀ scope ∈ grant.scopes, scope ∈ env.oauthScopes) ∧
      ∀ familyId grant other, (familyId, grant) ∈ state.tokenGrants →
        (familyId, other) ∈ state.tokenGrants → grant = other := by
  have base : Sourced ({} : DownstreamOauthState lib) [] ∧ Issued env ([] : List (Event lib)) [] :=
    ⟨sourced_empty [], by constructor <;> simp⟩
  have held := (run_regular (provenance_carried env) base fresh ran).held
  have issued := (held final.memory (Or.inl rfl)).2
  have configured : ∀ grant, Approved final.log grant →
      ∀ scope ∈ grant.scopes, scope ∈ env.oauthScopes := by
    intro grant approved
    obtain ⟨consentId, _, _, _, _, _, requested, _⟩ := approved
    exact (issued.requests consentId grant requested).2
  refine ⟨issued.distinct, ?_⟩
  intro state stored
  have sourced := (held state stored).1
  refine ⟨?_, ?_, ?_⟩
  · intro code pending member
    have approved := sourced.codes code pending member
    exact ⟨approved, configured _ approved⟩
  · intro familyId grant member
    obtain ⟨access, refresh, paired⟩ := sourced.tokenGrants member
    have approved := (issued.pairs _ _ _ _ paired).1
    exact ⟨approved, configured _ approved⟩
  · intro familyId grant other member otherMember
    obtain ⟨access, refresh, paired⟩ := sourced.tokenGrants member
    obtain ⟨otherAccess, otherRefresh, otherPaired⟩ := sourced.tokenGrants otherMember
    exact issued.families _ _ _ _ _ _ _ paired otherPaired

/-- The grant that `signingIn` asks for. -/
def sampleGrant : Grant :=
  ⟨"plug_app", ["mcp"], "https://plug.example/mcp"⟩

theorem grants_approved_signing_in :
    ∃ final, Runs.exec (step sampleEnvironment) initial signingIn = some final ∧
      final.memory.tokenGrants = [("family", sampleGrant), ("family", sampleGrant)] ∧
      Approved final.log sampleGrant := by
  have ends : ((Runs.exec (step sampleEnvironment) initial signingIn).map
      fun final => final.memory.tokenGrants) =
        some [("family", sampleGrant), ("family", sampleGrant)] := by decide +kernel
  obtain ⟨final, ran, grants⟩ := Option.map_eq_some_iff.mp ends
  have approved := (grants_approved sampleEnvironment signingIn final (by decide +kernel) ran).2
    final.memory (Or.inl rfl)
  exact ⟨final, ran, grants, (approved.2.1 "family" sampleGrant (by simp [grants])).1⟩

end Plug.DownstreamOauth
