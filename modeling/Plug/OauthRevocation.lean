import Plug.OauthSteps

/-!
# Revocation of a client

A revoked client is out of every table of every state a run may go on from, and
its id is kept among the revoked ones. No operation puts an id back: a
registration makes a new one, and a metadata document is not stored for a revoked
one. Leases end with the lifecycle they share, which is deactivated before it
leaves the map.
-/

namespace Plug.DownstreamOauth

variable {lib : Passkeys} {env : Environment}

/-- Where a client id can come from. -/
def Known (env : Environment) (used : List String) (clientId : String) : Prop :=
  env.metadataUrl clientId = true ∨ ∃ value ∈ used, clientId = "plug_" ++ value

variable {clientId : String} {system : System lib}

theorem Known.spent {used : List String} (known : Known env used clientId) (value : Nat → String) :
    Known env (usedWith value used) clientId := by
  rcases known with address | ⟨generated, member, same⟩
  · exact Or.inl address
  · exact Or.inr ⟨generated, List.mem_append_right _ member, same⟩

/-- A generated id was not known before. -/
theorem Known.ne_generated {used : List String} (known : Known env used clientId)
    {value : Nat → String} (fresh : FreshIn value used) : clientId ≠ "plug_" ++ value 0 := by
  rintro rfl
  rcases known with address | ⟨generated, member, same⟩
  · rw [env.generated_no_url] at address
    cases address
  · exact fresh.first ((String.append_right_inj "plug_").mp same ▸ member)

/-- Nothing of the client is left, and its id is revoked. -/
structure Barred (clientId : String) (state : DownstreamOauthState lib) : Prop where
  revoked : clientId ∈ state.revokedClientIds
  clients : ∀ client, (clientId, client) ∉ state.clients
  consents : ∀ id consent, (id, consent) ∈ state.pendingConsents → consent.clientId ≠ clientId
  codes : ∀ code pending, (code, pending) ∈ state.pendingCodes → pending.clientId ≠ clientId
  accessTokens : ∀ token record, (token, record) ∈ state.accessTokens →
    record.clientId ≠ clientId
  refreshTokens : ∀ token record, (token, record) ∈ state.refreshTokens →
    record.clientId ≠ clientId

theorem Barred.within {next memory : DownstreamOauthState lib} (barred : Barred clientId memory)
    (within : Within next memory) : Barred clientId next where
  revoked := within.revokedClientIds ▸ barred.revoked
  clients client member := by
    obtain ⟨former, present⟩ := within.clients clientId client member
    exact barred.clients former present
  consents id consent member := barred.consents id consent (within.pendingConsents member)
  codes code pending member := barred.codes code pending (within.pendingCodes member)
  accessTokens token record member := barred.accessTokens token record (within.accessTokens member)
  refreshTokens token record member :=
    barred.refreshTokens token record (within.refreshTokens member)

/-- The event issues a code or a pair to the client. -/
def Event.issuesTo (clientId : String) : Event lib → Prop
  | .issuedCode _ recipient => recipient = clientId
  | .issuedPair _ _ grant _ => grant.clientId = clientId
  | _ => False

/-- Once a client is revoked nothing is issued to it. -/
def Final : List (Event lib) → Prop
  | [] => True
  | event :: rest => (∀ clientId, .revoked clientId ∈ rest → ¬ event.issuesTo clientId) ∧ Final rest

/-- What a stored state says about revoked clients and about tokens. -/
structure Withdrawn (env : Environment) (state : DownstreamOauthState lib)
    (log : List (Event lib)) (used : List String) : Prop where
  clients : ∀ id client, (id, client) ∈ state.clients → Known env used id
  revoked : ∀ id ∈ state.revokedClientIds, Known env used id
  barred : ∀ clientId, .revoked clientId ∈ log → Barred clientId state
  recorded : ∀ token record, (token, record) ∈ state.accessTokens →
    ∃ refresh familyId, .issuedPair token refresh record.grant familyId ∈ log

/-- An access token is issued once, and nothing is issued to a revoked client. -/
structure Ledger (log : List (Event lib)) (used : List String) : Prop where
  tokens : ∀ access refresh grant familyId, .issuedPair access refresh grant familyId ∈ log →
    access ∈ used
  distinct : ∀ access refresh grant familyId otherRefresh other otherFamily,
    .issuedPair access refresh grant familyId ∈ log →
    .issuedPair access otherRefresh other otherFamily ∈ log → grant = other
  durable : ∀ clientId, .revoked clientId ∈ log → .persisted .durable ∈ log
  final : Final log

theorem Withdrawn.within {next memory : DownstreamOauthState lib} {log : List (Event lib)}
    {used : List String} (withdrawn : Withdrawn env memory log used)
    (within : Within next memory) : Withdrawn env next log used where
  clients id client member := by
    obtain ⟨former, present⟩ := within.clients id client member
    exact withdrawn.clients id former present
  revoked id member := withdrawn.revoked id (within.revokedClientIds ▸ member)
  barred clientId logged := (withdrawn.barred clientId logged).within within
  recorded token record member := withdrawn.recorded token record (within.accessTokens member)

/-- More events, none of which is a revocation. -/
theorem Withdrawn.logged {state : DownstreamOauthState lib} {log more : List (Event lib)}
    {used : List String} (withdrawn : Withdrawn env state log used)
    (others : ∀ clientId, .revoked clientId ∉ more) : Withdrawn env state (more ++ log) used where
  clients := withdrawn.clients
  revoked := withdrawn.revoked
  barred clientId logged :=
    withdrawn.barred clientId ((List.mem_append.mp logged).resolve_left (others clientId))
  recorded token record member := by
    obtain ⟨refresh, familyId, issued⟩ := withdrawn.recorded token record member
    exact ⟨refresh, familyId, List.mem_append_right more issued⟩

theorem Withdrawn.spent {state : DownstreamOauthState lib} {log : List (Event lib)}
    {used : List String} (withdrawn : Withdrawn env state log used) (value : Nat → String) :
    Withdrawn env state log (usedWith value used) where
  clients id client member := (withdrawn.clients id client member).spent value
  revoked id member := (withdrawn.revoked id member).spent value
  barred := withdrawn.barred
  recorded := withdrawn.recorded

theorem Ledger.spent {log : List (Event lib)} {used : List String} (ledger : Ledger log used)
    (value : Nat → String) : Ledger log (usedWith value used) where
  tokens access refresh grant familyId issued :=
    List.mem_append_right _ (ledger.tokens access refresh grant familyId issued)
  distinct := ledger.distinct
  durable := ledger.durable
  final := ledger.final

/-- An event that issues no pair, and no code to a revoked client. A revocation
follows a durable commit. -/
theorem Ledger.cons {log : List (Event lib)} {used : List String} (ledger : Ledger log used)
    {event : Event lib} (unpaired : ∀ access refresh grant familyId,
      event ≠ .issuedPair access refresh grant familyId)
    (durable : ∀ clientId, event = .revoked clientId → .persisted .durable ∈ log)
    (harmless : ∀ clientId, .revoked clientId ∈ log → ¬ event.issuesTo clientId) :
    Ledger (event :: log) used where
  tokens access refresh grant familyId issued := by
    refine ledger.tokens access refresh grant familyId ?_
    exact (List.mem_cons.mp issued).resolve_left fun same => unpaired _ _ _ _ same.symm
  distinct access refresh grant familyId otherRefresh other otherFamily issued otherIssued := by
    refine ledger.distinct access refresh grant familyId otherRefresh other otherFamily ?_ ?_
    · exact (List.mem_cons.mp issued).resolve_left fun same => unpaired _ _ _ _ same.symm
    · exact (List.mem_cons.mp otherIssued).resolve_left fun same => unpaired _ _ _ _ same.symm
  durable clientId logged := by
    cases List.mem_cons.mp logged with
    | inl new => exact List.mem_cons_of_mem event (durable clientId new.symm)
    | inr earlier => exact List.mem_cons_of_mem event (ledger.durable clientId earlier)
  final := ⟨harmless, ledger.final⟩

/-- A pair with a new access token. -/
theorem Ledger.pair {log : List (Event lib)} {used : List String} {value : Nat → String}
    (ledger : Ledger log used) {access refresh familyId : String} {grant : Grant}
    (fresh : access ∉ used) (known : access ∈ usedWith value used)
    (allowed : ∀ clientId, .revoked clientId ∈ log → grant.clientId ≠ clientId) :
    Ledger (.issuedPair access refresh grant familyId :: log) (usedWith value used) where
  tokens otherAccess otherRefresh other otherFamily issued := by
    cases List.mem_cons.mp issued with
    | inl new =>
      rw [(Event.issuedPair.inj new).1]
      exact known
    | inr earlier => exact List.mem_append_right _ (ledger.tokens _ _ _ _ earlier)
  distinct first firstRefresh grant firstFamily secondRefresh other secondFamily issued
      otherIssued := by
    rcases List.mem_cons.mp issued with new | earlier <;>
      rcases List.mem_cons.mp otherIssued with otherNew | otherEarlier
    · rw [(Event.issuedPair.inj new).2.2.1, (Event.issuedPair.inj otherNew).2.2.1]
    · rw [(Event.issuedPair.inj new).1] at otherEarlier
      exact (fresh (ledger.tokens _ _ _ _ otherEarlier)).elim
    · rw [(Event.issuedPair.inj otherNew).1] at earlier
      exact (fresh (ledger.tokens _ _ _ _ earlier)).elim
    · exact ledger.distinct _ _ _ _ _ _ _ earlier otherEarlier
  durable clientId logged := by
    refine List.mem_cons_of_mem _ (ledger.durable clientId ?_)
    simpa using logged
  final := ⟨allowed, ledger.final⟩

section Changes

variable {value : Nat → String} {memory next : DownstreamOauthState lib}
variable {events later log : List (Event lib)} {used : List String}

/-- Only what follows a durable commit records a revocation. -/
theorem change_events_no_revocation (change : Change env value memory next events later) :
    ∀ clientId, .revoked clientId ∉ events := by
  cases change <;> simp

/-- A change issues to clients that still have a record, so to no revoked one. -/
theorem change_ledger (fresh : FreshIn value used) (withdrawn : Withdrawn env memory log used)
    (ledger : Ledger log used) (change : Change env value memory next events later) :
    Ledger (events ++ log) (usedWith value used) := by
  cases change with
  | shrunk within => exact ledger.spent value
  | enrolled within credentialId credential =>
    exact (ledger.spent value).cons nofun nofun fun _ _ issued => issued
  | registered within client => exact ledger.spent value
  | stored within clientId client address allowed => exact ledger.spent value
  | requested within consent present configured =>
    exact (ledger.spent value).cons nofun nofun fun _ _ issued => issued
  | coded within pending owned verified expiresAt =>
    refine Ledger.cons ?_ nofun nofun ?_
    · exact (ledger.spent value).cons nofun nofun fun _ _ issued => issued
    intro clientId logged issued
    have logged : .revoked clientId ∈ log := by simpa using logged
    exact (withdrawn.barred clientId logged).consents _ _ pending issued
  | exchanged within found gone order now =>
    refine ledger.pair fresh.second (by simp [usedWith]) ?_
    intro clientId logged
    exact (withdrawn.barred clientId logged).codes _ _ found
  | renewed within found order now =>
    refine ledger.pair fresh.first (by simp [usedWith]) ?_
    intro clientId logged
    exact (withdrawn.barred clientId logged).refreshTokens _ _ found
  | revoked clientId present => exact ledger.spent value

/-- The state after a change has nothing of a client that was revoked before. -/
theorem change_barred (fresh : FreshIn value used) (withdrawn : Withdrawn env memory log used)
    (change : Change env value memory next events later) (logged : .revoked clientId ∈ log) :
    Barred clientId next := by
  have before := withdrawn.barred clientId logged
  have known := withdrawn.revoked clientId before.revoked
  cases change with
  | shrunk within => exact before.within within
  | enrolled within credentialId credential =>
    have kept := before.within within
    exact ⟨kept.revoked, kept.clients, kept.consents, kept.codes, kept.accessTokens,
      kept.refreshTokens⟩
  | registered within client =>
    have kept := before.within within
    refine ⟨kept.revoked, ?_, kept.consents, kept.codes, kept.accessTokens, kept.refreshTokens⟩
    intro other member
    rcases Tables.mem_insert.mp member with new | ⟨present, _⟩
    · exact known.ne_generated fresh (Prod.mk.inj new).1
    · exact kept.clients other present
  | stored within storedId client address allowed =>
    have kept := before.within within
    refine ⟨kept.revoked, ?_, kept.consents, kept.codes, kept.accessTokens, kept.refreshTokens⟩
    intro other member
    rcases Tables.mem_insert.mp member with new | ⟨present, _⟩
    · exact allowed ((Prod.mk.inj new).1 ▸ before.revoked)
    · exact kept.clients other present
  | requested within consent present configured =>
    have kept := before.within within
    refine ⟨kept.revoked, kept.clients, ?_, kept.codes, kept.accessTokens, kept.refreshTokens⟩
    intro id stored member
    rcases Tables.mem_insert.mp member with new | ⟨earlier, _⟩
    · rw [(Prod.mk.inj new).2]
      intro same
      exact before.clients _ (same ▸ present)
    · exact kept.consents id stored earlier
  | coded within pending owned verified expiresAt =>
    have kept := before.within within
    refine ⟨kept.revoked, kept.clients, kept.consents, ?_, kept.accessTokens,
      kept.refreshTokens⟩
    intro code stored member
    rcases Tables.mem_insert.mp member with new | ⟨earlier, _⟩
    · rw [(Prod.mk.inj new).2]
      exact before.consents _ _ pending
    · exact kept.codes code stored earlier
  | exchanged within found gone order now =>
    have kept := before.within within
    refine ⟨kept.revoked, kept.clients, kept.consents, kept.codes, ?_, ?_⟩
    · intro token record member
      cases mem_issueTokenPair_access member with
      | inl earlier => exact kept.accessTokens token record earlier
      | inr new =>
        rw [(Prod.mk.inj new).2]
        exact before.codes _ _ found
    · intro token record member
      cases mem_issueTokenPair_refresh member with
      | inl earlier => exact kept.refreshTokens token record earlier
      | inr new =>
        rw [(Prod.mk.inj new).2]
        exact before.codes _ _ found
  | renewed within found order now =>
    have kept := before.within within
    refine ⟨kept.revoked, kept.clients, kept.consents, kept.codes, ?_, ?_⟩
    · intro token record member
      cases mem_issueTokenPair_access member with
      | inl earlier => exact kept.accessTokens token record earlier
      | inr new =>
        rw [(Prod.mk.inj new).2]
        exact before.refreshTokens _ _ found
    · intro token record member
      cases mem_issueTokenPair_refresh member with
      | inl earlier => exact kept.refreshTokens token record earlier
      | inr new =>
        have former := before.refreshTokens _ _ found
        rw [(Prod.mk.inj new).2]
        exact former
  | revoked revokedId present =>
    have kept := before.within (within_removeClientMaterial memory revokedId)
    refine ⟨?_, kept.clients, kept.consents, kept.codes, kept.accessTokens,
      kept.refreshTokens⟩
    by_cases same : clientId = revokedId
    · exact same ▸ List.mem_cons_self ..
    · refine List.mem_cons_of_mem _ (List.mem_filter.mpr ⟨before.revoked, ?_⟩)
      simpa using same

/-- The client that is revoked is out of the state at once. -/
theorem removed_barred (clientId : String) (state : DownstreamOauthState lib) :
    Barred clientId { state.removeClientMaterial clientId with
      revokedClientIds := clientId :: state.revokedClientIds.filter (· ≠ clientId) } where
  revoked := List.mem_cons_self ..
  clients client member := by
    simp [DownstreamOauthState.removeClientMaterial] at member
  consents id consent member := by
    simpa using (List.mem_filter.mp member).2
  codes code pending member := by
    simpa using (List.mem_filter.mp member).2
  accessTokens token record member := by
    simpa using (List.mem_filter.mp member).2
  refreshTokens token record member := by
    simpa using (List.mem_filter.mp member).2

/-- Client ids in the state after a change are known. -/
theorem change_known (withdrawn : Withdrawn env memory log used)
    (change : Change env value memory next events later) :
    (∀ id client, (id, client) ∈ next.clients → Known env (usedWith value used) id) ∧
      ∀ id ∈ next.revokedClientIds, Known env (usedWith value used) id := by
  have before := withdrawn.spent value
  cases change with
  | shrunk within => exact ⟨(before.within within).clients, (before.within within).revoked⟩
  | enrolled within credentialId credential =>
    exact ⟨(before.within within).clients, (before.within within).revoked⟩
  | registered within client =>
    have kept := before.within within
    refine ⟨?_, kept.revoked⟩
    intro id other member
    rcases Tables.mem_insert.mp member with new | ⟨present, _⟩
    · rw [(Prod.mk.inj new).1]
      exact Or.inr ⟨value 0, List.mem_cons_self .., rfl⟩
    · exact kept.clients id other present
  | stored within storedId client address allowed =>
    have kept := before.within within
    refine ⟨?_, kept.revoked⟩
    intro id other member
    rcases Tables.mem_insert.mp member with new | ⟨present, _⟩
    · rw [(Prod.mk.inj new).1]
      exact Or.inl address
    · exact kept.clients id other present
  | requested within consent present configured =>
    exact ⟨(before.within within).clients, (before.within within).revoked⟩
  | coded within pending owned verified expiresAt =>
    exact ⟨(before.within within).clients, (before.within within).revoked⟩
  | exchanged within found gone order now =>
    exact ⟨(before.within within).clients, (before.within within).revoked⟩
  | renewed within found order now =>
    exact ⟨(before.within within).clients, (before.within within).revoked⟩
  | revoked revokedId present =>
    have kept := before.within (within_removeClientMaterial memory revokedId)
    refine ⟨kept.clients, ?_⟩
    intro id member
    rcases List.mem_cons.mp member with rfl | member
    · exact before.clients _ _ present
    · exact before.revoked id (List.mem_of_mem_filter member)

/-- Every access token after a change was issued. -/
theorem change_recorded (withdrawn : Withdrawn env memory log used)
    (change : Change env value memory next events later) :
    ∀ token record, (token, record) ∈ next.accessTokens →
      ∃ refresh familyId, .issuedPair token refresh record.grant familyId ∈ events ++ log := by
  have within : ∀ base, Within base memory → ∀ token record, (token, record) ∈ base.accessTokens →
      ∃ refresh familyId, .issuedPair token refresh record.grant familyId ∈ events ++ log := by
    intro base kept token record member
    obtain ⟨refresh, familyId, issued⟩ :=
      withdrawn.recorded token record (kept.accessTokens member)
    exact ⟨refresh, familyId, List.mem_append_right events issued⟩
  intro token record member
  cases change with
  | shrunk kept => exact within _ kept token record member
  | enrolled kept credentialId credential => exact within _ kept token record member
  | registered kept client => exact within _ kept token record member
  | stored kept storedId client address allowed => exact within _ kept token record member
  | requested kept consent present configured => exact within _ kept token record member
  | coded kept pending owned verified expiresAt => exact within _ kept token record member
  | exchanged kept found gone order now =>
    cases mem_issueTokenPair_access member with
    | inl earlier => exact within _ kept token record earlier
    | inr new =>
      cases new
      exact ⟨_, _, List.mem_cons_self ..⟩
  | renewed kept found order now =>
    cases mem_issueTokenPair_access member with
    | inl earlier => exact within _ kept token record earlier
    | inr new =>
      cases new
      exact ⟨_, _, List.mem_cons_self ..⟩
  | revoked revokedId present =>
    exact within _ (within_removeClientMaterial memory revokedId) token record member

theorem change_withdrawn (fresh : FreshIn value used) (withdrawn : Withdrawn env memory log used)
    (change : Change env value memory next events later) :
    Withdrawn env next (events ++ log) (usedWith value used) where
  clients := (change_known withdrawn change).1
  revoked := (change_known withdrawn change).2
  barred clientId logged := by
    refine change_barred fresh withdrawn change ?_
    exact (List.mem_append.mp logged).resolve_left (change_events_no_revocation change clientId)
  recorded := change_recorded withdrawn change

/-- A durable commit may log the revocation it carried out. -/
theorem change_revoked (change : Change env value memory next events later)
    (logged : .revoked clientId ∈ later) : Barred clientId next := by
  cases change with
  | revoked revokedId present =>
    have same : clientId = revokedId := by simpa using logged
    subst same
    exact removed_barred clientId memory
  | exchanged within found gone order now => simp at logged
  | _ => cases logged

/-- What follows a durable commit issues nothing. -/
theorem change_later_ledger (change : Change env value memory next events later)
    (ledger : Ledger log used) (durable : .persisted .durable ∈ log) :
    Ledger (later ++ log) used := by
  cases change with
  | exchanged within found gone order now =>
    exact ledger.cons nofun nofun fun _ _ issued => issued
  | revoked clientId present =>
    exact ledger.cons nofun (fun _ _ => durable) fun _ _ issued => issued
  | _ => exact ledger

end Changes

/-- The property of stored states that the argument carries along a run. -/
def WithdrawnLedger (env : Environment) (state : DownstreamOauthState lib)
    (log : List (Event lib)) (used : List String) : Prop :=
  Withdrawn env state log used ∧ Ledger log used

theorem withdrawal_carried (env : Environment) :
    Carried env (WithdrawnLedger env : DownstreamOauthState lib → _) where
  empty state log used fileless held := by
    refine ⟨⟨by simp, by simp, ?_, by simp⟩, held.2⟩
    intro clientId logged
    exact (fileless (held.2.durable clientId logged)).elim
  within next memory log used within held := ⟨held.1.within within, held.2⟩
  spent state log used value held := ⟨held.1.spent value, held.2.spent value⟩
  persisted state log used outcome held :=
    ⟨@Withdrawn.logged _ _ _ _ [.persisted outcome] _ held.1 (by simp),
      held.2.cons nofun nofun fun _ _ issued => issued⟩
  announced value memory next events later log used fresh held change state stored :=
    ⟨(stored.1.spent value).logged (change_events_no_revocation change),
      change_ledger fresh held.1 held.2 change⟩
  changed value memory next events later log used fresh held change := by
    have withdrawn := change_withdrawn fresh held.1 change
    have ledger := change_ledger fresh held.1 held.2 change
    refine ⟨⟨withdrawn, ledger⟩, fun durable => ⟨?_, change_later_ledger change ledger
      (List.mem_append_right events durable)⟩⟩
    refine ⟨withdrawn.clients, withdrawn.revoked, ?_, ?_⟩
    · intro clientId logged
      cases List.mem_append.mp logged with
      | inl new => exact change_revoked change new
      | inr earlier => exact withdrawn.barred clientId earlier
    · intro token record member
      obtain ⟨refresh, familyId, issued⟩ := withdrawn.recorded token record member
      exact ⟨refresh, familyId, List.mem_append_right later issued⟩

/-- A lease that was handed out shares the lifecycle of its client, or a
deactivated one; a revoked client has none. -/
structure LeasesKept (env : Environment) (system : System lib) : Prop where
  linked : ∀ clientId index, Tables.get system.principalLifecycles clientId = some index →
    index < system.lifecycles.length
  known : ∀ clientId index, Tables.get system.principalLifecycles clientId = some index →
    Known env system.used clientId
  held : ∀ claims ∈ system.granted,
    Tables.get system.principalLifecycles claims.clientId =
        some claims.principalLifecycle.state ∨
      Quiet system claims.principalLifecycle.state
  gone : ∀ clientId, .revoked clientId ∈ system.log →
    Tables.get system.principalLifecycles clientId = none

/-- A revocation in the log is an earlier one, or its client just left the map. -/
theorem commit_revocation {next : System lib} {value : Nat → String} {answer : Answer}
    (commit : Commit env value system next answer) (logged : .revoked clientId ∈ next.log) :
    .revoked clientId ∈ system.log ∨
      Tables.get next.principalLifecycles clientId = none := by
  cases commit with
  | unattempted memory file renamed durable log => exact Or.inl (log ▸ logged)
  | failed memory file renamed durable log =>
    rw [log] at logged
    exact Or.inl (by simpa using logged)
  | uncertain change memory file renamed durable log =>
    rw [log] at logged
    have earlier := (List.mem_append.mp logged).resolve_left
      (change_events_no_revocation change clientId)
    exact Or.inl (by simpa using earlier)
  | durable change memory file renamed durable log expelled =>
    rw [log] at logged
    cases List.mem_append.mp logged with
    | inl new => exact Or.inr (expelled clientId new)
    | inr logged =>
      have earlier := (List.mem_append.mp logged).resolve_left
        (change_events_no_revocation change clientId)
      exact Or.inl (by simpa using earlier)

theorem section_leasesKept {next : System lib} {value : Nat → String} {answer : Answer}
    (kept : LeasesKept env system) (fresh : FreshIn value system.used)
    (withdrawn : Withdrawn env next.memory next.log next.used)
    (used : next.used = usedWith value system.used) (move : LeasesMove value system next)
    (commit : Commit env value system next answer) : LeasesKept env next where
  linked := move.linked kept.linked
  known clientId index found := by
    rcases move.introduced clientId index found with ⟨former, earlier⟩ | ⟨client, stored⟩
    · rw [used]
      exact (kept.known clientId former earlier).spent value
    · exact withdrawn.clients clientId client stored
  held claims member := by
    rw [move.granted] at member
    cases kept.held claims member with
    | inl found =>
      have bound := kept.linked _ _ found
      rcases move.held _ _ found bound with stays | quieted | generated
      · exact Or.inl stays
      · exact Or.inr quieted
      · exact ((kept.known _ _ found).ne_generated fresh generated).elim
    | inr quiet => exact Or.inr (move.quiet _ quiet)
  gone clientId logged := by
    cases commit_revocation commit logged with
    | inl earlier =>
      cases found : Tables.get next.principalLifecycles clientId with
      | none => rfl
      | some index =>
        rcases move.introduced clientId index found with ⟨former, present⟩ | ⟨client, stored⟩
        · rw [kept.gone clientId earlier] at present
          cases present
        · exact ((withdrawn.barred clientId logged).clients client stored).elim
    | inr gone => exact gone

/-- After a start the map has the clients of the state that was read. -/
theorem restart_lifecycle {powerLost entryKept : Bool} {now : Nat} {index : Nat}
    (found : Tables.get (restart system powerLost entryKept now).principalLifecycles clientId = some
      index) :
    (∃ client, (clientId, client) ∈ (restart system powerLost entryKept now).memory.clients) ∧
      index < (restart system powerLost entryKept now).lifecycles.length := by
  obtain ⟨⟨⟨id, client⟩, position⟩, member, same⟩ := List.mem_map.mp (Tables.mem_of_get found)
  cases same
  have present := List.mk_mem_zipIdx_iff_getElem?.mp member
  obtain ⟨bound, _⟩ := List.getElem?_eq_some_iff.mp present
  refine ⟨⟨client, List.mem_of_getElem? present⟩, ?_⟩
  simpa [restart] using bound

theorem step_leasesKept {next : System lib} {action : Action lib}
    (regular : Regular env (WithdrawnLedger env) system) (kept : LeasesKept env system)
    (fresh : freshValues system action = true) (stepped : step env system action = some next) :
    LeasesKept env next := by
  have after := step_regular (withdrawal_carried env) fresh regular stepped
  have withdrawn := (after.held next.memory (Or.inl rfl)).1
  cases step_effect regular.addressed stepped with
  | idle memory file renamed durable log used granted lifecycles principalLifecycles =>
    refine ⟨?_, ?_, ?_, ?_⟩
    · rw [lifecycles, principalLifecycles]
      exact kept.linked
    · rw [used, principalLifecycles]
      exact kept.known
    · rw [granted, principalLifecycles]
      intro claims member
      rw [Quiet, lifecycles]
      exact kept.held claims member
    · rw [log, principalLifecycles]
      exact kept.gone
  | sectioned used leases commit =>
    exact section_leasesKept kept (freshIn_of_freshValues fresh) withdrawn used leases commit
  | validated found present clientId lifecycle familyEnded same =>
    subst same
    refine ⟨kept.linked, kept.known, ?_, kept.gone⟩
    intro claims member
    rcases List.mem_cons.mp member with rfl | member
    · exact Or.inl lifecycle
    · exact kept.held claims member
  | restarted file same =>
    subst same
    refine ⟨?_, ?_, ?_, ?_⟩
    · intro clientId index found
      exact (restart_lifecycle found).2
    · intro clientId index found
      obtain ⟨client, present⟩ := (restart_lifecycle found).1
      exact withdrawn.clients clientId client present
    · intro claims member
      cases member
    · intro clientId logged
      cases found : Tables.get (restart system _ _ _).principalLifecycles clientId with
      | none => rfl
      | some index =>
        obtain ⟨client, present⟩ := (restart_lifecycle found).1
        exact ((withdrawn.barred clientId logged).clients client present).elim

/-- A lease of a revoked client is not active. -/
theorem LeasesKept.inactive (kept : LeasesKept env system) {claims : AccessTokenClaims}
    (member : claims ∈ system.granted) (logged : .revoked claims.clientId ∈ system.log)
    (now : Nat) : claims.principalLifecycle.isActive system now = false := by
  rcases kept.held claims member with found | ⟨lifecycle, present, quiet⟩
  · rw [kept.gone claims.clientId logged] at found
    cases found
  · simp [Lease.isActive, present, quiet]

/-- A valid result is for the record of the token. -/
theorem validate_valid {token : String} {requiredScopes : List String} {resource : String}
    {now : Nat} {claims : AccessTokenClaims}
    (valid : (validateAccessTokenFor system token requiredScopes resource now).1 = .valid claims) :
    ∃ record, (token, record) ∈ system.memory.accessTokens := by
  cases found : Tables.get system.memory.accessTokens token with
  | some record => exact ⟨record, Tables.mem_of_get found⟩
  | none =>
    unfold validateAccessTokenFor at valid
    rw [found] at valid
    split at valid <;> cases valid

/-- After `revoke_client` returned `Ok(true)` for a client, in every run with any
operations in flight and any restarts: nothing is issued to it, no token issued to
it is valid, and no lease handed out for it is active. -/
theorem revocation_final (env : Environment) (trace : List (Action lib)) (final : System lib)
    (fresh : Runs.Admitted (step env) (fun system action => freshValues system action = true)
      initial trace)
    (ran : Runs.exec (step env) initial trace = some final) :
    Final final.log ∧
    ∀ clientId, .revoked clientId ∈ final.log →
      (∀ access refresh grant familyId, .issuedPair access refresh grant familyId ∈ final.log →
        grant.clientId = clientId → ∀ requiredScopes resource now claims,
          (validateAccessTokenFor final access requiredScopes resource now).1 ≠ .valid claims) ∧
      ∀ claims ∈ final.granted, claims.clientId = clientId →
        ∀ now, claims.principalLifecycle.isActive final now = false := by
  have base : WithdrawnLedger env ({} : DownstreamOauthState lib) [] [] := by
    refine ⟨⟨?_, ?_, ?_, ?_⟩, ⟨?_, ?_, ?_, trivial⟩⟩ <;> simp
  obtain ⟨regular, kept⟩ := Runs.exec_invariant (step env)
    (fun system action => freshValues system action = true)
    (fun system => Regular env (WithdrawnLedger env) system ∧ LeasesKept env system)
    (fun _ _ _ fresh held stepped =>
      ⟨step_regular (withdrawal_carried env) fresh held.1 stepped,
        step_leasesKept held.1 held.2 fresh stepped⟩)
    trace initial final
    ⟨initial_regular base, by constructor <;> simp [initial, Tables.get]⟩ fresh ran
  obtain ⟨withdrawn, ledger⟩ := regular.held final.memory (Or.inl rfl)
  refine ⟨ledger.final, ?_⟩
  intro clientId logged
  constructor
  · intro access refresh grant familyId issued recipient requiredScopes resource now claims valid
    obtain ⟨record, present⟩ := validate_valid valid
    obtain ⟨otherRefresh, otherFamily, recorded⟩ := withdrawn.recorded access record present
    have same : grant = record.grant :=
      ledger.distinct _ _ _ _ _ _ _ issued recorded
    refine (withdrawn.barred clientId logged).accessTokens access record present ?_
    rw [← recipient, same]
    rfl
  · intro claims member recipient now
    exact kept.inactive member (recipient ▸ logged) now

/-- A lease is handed out and a refresh is between its sections when the client is
revoked. -/
def revokedMidway : List (Action namedPasskeys) := List.flatten
  [signingIn,
    [.validateAccessTokenFor "family1" ["mcp"] "https://plug.example/mcp" 0],
    whole (.exchangeRefreshToken "plug_app" "family2" "https://plug.example/mcp") 0 "refresh",
    [.call (.revokeClient "plug_app") true true, .advance 0 (during 0 "revoke" .durable),
      .advance 0 (during 0 "pair" .durable)]]

theorem revocation_final_midway :
    ∃ final claims, Runs.exec (step sampleEnvironment) initial revokedMidway = some final ∧
      .revoked "plug_app" ∈ final.log ∧ claims ∈ final.granted ∧
      claims.principalLifecycle.isActive final 0 = false ∧
      ∀ claims, (validateAccessTokenFor final "family1" [] "https://plug.example/mcp" 0).1 ≠
        .valid claims := by
  have ends : ((Runs.exec (step sampleEnvironment) initial revokedMidway).map fun final =>
      (final.granted.map AccessTokenClaims.clientId,
        final.log.filterMap (fun event => match event with
          | .revoked clientId => some clientId
          | _ => none),
        final.log.filterMap (fun event =>
          event.pair.map fun pair => (pair.1, pair.2.1.clientId)))) =
      some (["plug_app"], ["plug_app"], [("family1", "plug_app")]) := by
    decide +kernel
  obtain ⟨final, ran, projected⟩ := Option.map_eq_some_iff.mp ends
  simp only [Prod.mk.injEq] at projected
  obtain ⟨granted, revocations, issues⟩ := projected
  obtain ⟨claims, member, recipient⟩ :=
    List.mem_map.mp (granted ▸ List.mem_singleton_self "plug_app")
  have revoked : .revoked "plug_app" ∈ final.log := by
    obtain ⟨event, logged, found⟩ :=
      List.mem_filterMap.mp (revocations ▸ List.mem_singleton_self "plug_app")
    split at found
    · rw [← Option.some.inj found]
      exact logged
    · cases found
  obtain ⟨tokens, leases⟩ := (revocation_final sampleEnvironment revokedMidway final
    (by decide +kernel) ran).2 "plug_app" revoked
  refine ⟨final, claims, ran, revoked, member, leases claims member recipient 0, ?_⟩
  obtain ⟨event, logged, found⟩ :=
    List.mem_filterMap.mp (issues ▸ List.mem_singleton_self ("family1", "plug_app"))
  obtain ⟨⟨accessToken, grant, familyId⟩, pair, same⟩ := Option.map_eq_some_iff.mp found
  obtain ⟨rfl, holder⟩ := Prod.mk.inj same
  obtain ⟨refreshToken, rfl⟩ := Event.pair_some pair
  exact tokens _ _ _ _ logged holder _ _ _

end Plug.DownstreamOauth
