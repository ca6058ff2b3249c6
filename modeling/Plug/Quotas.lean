import Plug.Runs
import Plug.Tallies

/-!
# Admission quotas

`AdmissionQuotas` counts the units of the live leases, for each resource and for each principal
and resource. `try_acquire` checks both counts against their limits and adds to both; dropping
a lease takes its units off both. Every operation holds the lock of the counts.

The sums are checked with saturation and stored without it. At a limit of `usize::MAX` the
check passes for sums that do not fit, and the counts that are stored wrap around.
-/

namespace Plug.Quotas

open Tallies

def usizeMax : Nat := 18446744073709551615

/-- The outcome of a refused acquisition. -/
inductive ProtocolOutcome where
  | quotaExceeded
deriving DecidableEq

inductive QuotaResource where
  | tasks
  | queuedTaskCreations
  | listeners
  | upstreamSubscriptions
  | continuations
  | continuationBytes
  | concurrentModernRequests
deriving DecidableEq

structure AdmissionQuotaConfig where
  tasks : Nat
  queuedTaskCreations : Nat
  listeners : Nat
  upstreamSubscriptions : Nat
  continuations : Nat
  continuationBytes : Nat
  concurrentModernRequests : Nat
  perPrincipalDivisor : Nat
deriving DecidableEq

def AdmissionQuotaConfig.default : AdmissionQuotaConfig where
  tasks := 1024
  queuedTaskCreations := 128
  listeners := 2048
  upstreamSubscriptions := 1024
  continuations := 512
  continuationBytes := 16 * 1024 * 1024
  concurrentModernRequests := 512
  perPrincipalDivisor := 8

def AdmissionQuotaConfig.limit (config : AdmissionQuotaConfig) : QuotaResource → Nat
  | .tasks => config.tasks
  | .queuedTaskCreations => config.queuedTaskCreations
  | .listeners => config.listeners
  | .upstreamSubscriptions => config.upstreamSubscriptions
  | .continuations => config.continuations
  | .continuationBytes => config.continuationBytes
  | .concurrentModernRequests => config.concurrentModernRequests

def AdmissionQuotaConfig.perPrincipalLimit (config : AdmissionQuotaConfig)
    (resource : QuotaResource) : Nat :=
  max (config.limit resource / max config.perPrincipalDivisor 1) 1

variable {Principal : Type} [DecidableEq Principal]

structure QuotaCounts (Principal : Type) where
  global : Tally QuotaResource
  principals : Tally (Principal × QuotaResource)

def QuotaCounts.default : QuotaCounts Principal := ⟨∅, ∅⟩

structure QuotaLease (Principal : Type) where
  principal : Principal
  resource : QuotaResource
  units : Nat
deriving DecidableEq

def saturatingAdd (counted units : Nat) : Nat := min (counted + units) usizeMax

/-- Addition of a build without overflow checks. -/
def wrappingAdd (counted units : Nat) : Nat := (counted + units) % (usizeMax + 1)

/-- The answer, and the counts after it. -/
def tryAcquire (config : AdmissionQuotaConfig) (counts : QuotaCounts Principal)
    (principal : Principal) (resource : QuotaResource) (units : Nat) :
    Except ProtocolOutcome (QuotaLease Principal) × QuotaCounts Principal :=
  let global := count counts.global resource
  let principalKey := (principal, resource)
  let principalCount := count counts.principals principalKey
  if config.limit resource < saturatingAdd global units ∨
      config.perPrincipalLimit resource < saturatingAdd principalCount units then
    (.error .quotaExceeded, counts)
  else
    (.ok ⟨principal, resource, units⟩,
      { global := counts.global.insert resource (wrappingAdd global units)
        principals := counts.principals.insert principalKey
          (wrappingAdd principalCount units) })

/-- What dropping a lease does to the counts. -/
def QuotaLease.drop (lease : QuotaLease Principal) (counts : QuotaCounts Principal) :
    QuotaCounts Principal where
  global := release counts.global lease.resource lease.units
  principals := release counts.principals (lease.principal, lease.resource) lease.units

/-! ### Runs -/

structure System (Principal : Type) where
  counts : QuotaCounts Principal
  leases : List (QuotaLease Principal)

def System.new : System Principal := ⟨.default, []⟩

inductive Act (Principal : Type) where
  | tryAcquire (principal : Principal) (resource : QuotaResource) (units : Nat)
  | drop (index : Nat)

def step (config : AdmissionQuotaConfig) (state : System Principal) :
    Act Principal → Option (System Principal)
  | .tryAcquire principal resource units =>
    match tryAcquire config state.counts principal resource units with
    | (.ok lease, counts) => some ⟨counts, lease :: state.leases⟩
    | (.error _, counts) => some { state with counts := counts }
  | .drop index =>
    (state.leases[index]?).map fun lease =>
      ⟨lease.drop state.counts, state.leases.eraseIdx index⟩

/-- An acquisition whose sum fits, or would be refused if it did not. -/
def sumFits (config : AdmissionQuotaConfig) (state : System Principal) : Act Principal → Bool
  | .tryAcquire _ resource units =>
    decide (config.limit resource < usizeMax ∨
      count state.counts.global resource + units ≤ usizeMax)
  | .drop _ => true

/-! ### What is counted -/

def QuotaLease.globally (lease : QuotaLease Principal) : QuotaResource × Nat :=
  (lease.resource, lease.units)

def QuotaLease.byPrincipal (lease : QuotaLease Principal) :
    (Principal × QuotaResource) × Nat :=
  ((lease.principal, lease.resource), lease.units)

/-- The units of the live leases of a resource. -/
def leased (leases : List (QuotaLease Principal)) (resource : QuotaResource) : Nat :=
  ((leases.filter fun lease => lease.resource = resource).map QuotaLease.units).sum

structure Conserved (config : AdmissionQuotaConfig) (state : System Principal) : Prop where
  global : Counts state.counts.global (state.leases.map QuotaLease.globally)
  principals : Counts state.counts.principals (state.leases.map QuotaLease.byPrincipal)
  globalLimit : ∀ resource, count state.counts.global resource ≤ config.limit resource
  principalLimit : ∀ principal resource,
    count state.counts.principals (principal, resource) ≤ config.perPrincipalLimit resource

variable {config : AdmissionQuotaConfig} {state : System Principal}

omit [DecidableEq Principal] in
theorem weight_globally (leases : List (QuotaLease Principal)) (resource : QuotaResource) :
    weight (leases.map QuotaLease.globally) (fun other => decide (other = resource)) =
      leased leases resource := by
  induction leases with
  | nil => rfl
  | cons lease rest ih =>
    rw [List.map_cons, weight_cons, ih]
    by_cases matching : lease.resource = resource
    · simp [leased, QuotaLease.globally, matching]
    · simp [leased, QuotaLease.globally, matching]

omit [DecidableEq Principal] in
/-- The principals' shares of a resource make up all of it. -/
theorem weight_byPrincipal (leases : List (QuotaLease Principal)) (resource : QuotaResource) :
    weight (leases.map QuotaLease.byPrincipal) (fun key => decide (key.2 = resource)) =
      weight (leases.map QuotaLease.globally) (fun other => decide (other = resource)) := by
  unfold weight
  rw [List.map_map, List.map_map]
  rfl

/-- A principal's share of a resource is part of it. -/
theorem principal_le_global (conserved : Conserved config state) (principal : Principal)
    (resource : QuotaResource) : count state.counts.principals (principal, resource) ≤
      count state.counts.global resource := by
  have whole := conserved.principals.total_eq fun key => decide (key.2 = resource)
  rw [total_split _ (principal, resource), weight_byPrincipal, ← conserved.global.count_eq]
    at whole
  simp only [decide_true, if_true] at whole
  omega

theorem wrappingAdd_eq {counted units : Nat} (fits : counted + units ≤ usizeMax) :
    wrappingAdd counted units = counted + units :=
  Nat.mod_eq_of_lt (Nat.lt_succ_of_le fits)

/-- An acquisition that passes the checks stays within both limits when its sum fits. -/
theorem granted_within {limit counted units : Nat} (granted : ¬ limit < saturatingAdd counted units)
    (fits : limit < usizeMax ∨ counted + units ≤ usizeMax) :
    counted + units ≤ usizeMax ∧ counted + units ≤ limit := by
  unfold saturatingAdd at granted
  omega

/-- An acquisition is refused and changes nothing, or passes both checks and is added to both
counts. -/
theorem tryAcquire_cases (config : AdmissionQuotaConfig) (counts : QuotaCounts Principal)
    (principal : Principal) (resource : QuotaResource) (units : Nat) :
    tryAcquire config counts principal resource units = (.error .quotaExceeded, counts) ∨
    (¬ config.limit resource < saturatingAdd (count counts.global resource) units ∧
      ¬ config.perPrincipalLimit resource <
        saturatingAdd (count counts.principals (principal, resource)) units ∧
      tryAcquire config counts principal resource units =
        (.ok ⟨principal, resource, units⟩,
          { global := counts.global.insert resource
              (wrappingAdd (count counts.global resource) units)
            principals := counts.principals.insert (principal, resource)
              (wrappingAdd (count counts.principals (principal, resource)) units) })) := by
  unfold tryAcquire
  dsimp only
  split
  · exact Or.inl rfl
  · rename_i granted
    rw [not_or] at granted
    exact Or.inr ⟨granted.1, granted.2, rfl⟩

theorem refused_unchanged (config : AdmissionQuotaConfig) (counts : QuotaCounts Principal)
    (principal : Principal) (resource : QuotaResource) (units : Nat) {outcome : ProtocolOutcome}
    (refused : (tryAcquire config counts principal resource units).1 = .error outcome) :
    (tryAcquire config counts principal resource units).2 = counts := by
  rcases tryAcquire_cases config counts principal resource units with same | ⟨_, _, same⟩
  · rw [same]
  · rw [same] at refused
    cases refused

theorem conserved_new : Conserved config (System.new : System Principal) where
  global := Counts.empty
  principals := Counts.empty
  globalLimit _ := Nat.zero_le _
  principalLimit _ _ := Nat.zero_le _

theorem Conserved.tryAcquire (conserved : Conserved config state) (principal : Principal)
    (resource : QuotaResource) (units : Nat)
    (fits : config.limit resource < usizeMax ∨
      count state.counts.global resource + units ≤ usizeMax)
    {next : System Principal}
    (stepped : step config state (.tryAcquire principal resource units) = some next) :
    Conserved config next := by
  simp only [step] at stepped
  rcases tryAcquire_cases config state.counts principal resource units with
    same | ⟨globalGranted, principalGranted, same⟩
  · rw [same] at stepped
    cases stepped
    exact conserved
  · rw [same] at stepped
    cases stepped
    obtain ⟨globalFits, globalWithin⟩ := granted_within globalGranted fits
    have part := principal_le_global conserved principal resource
    have principalFits :
        count state.counts.principals (principal, resource) + units ≤ usizeMax := by omega
    have principalWithin := (granted_within principalGranted (Or.inr principalFits)).2
    rw [wrappingAdd_eq globalFits, wrappingAdd_eq principalFits]
    refine ⟨conserved.global.insert resource units,
      conserved.principals.insert (principal, resource) units, ?_, ?_⟩
    · intro other
      by_cases own : other = resource
      · subst own
        rw [count_insert_self]
        exact globalWithin
      · rw [count_insert_of_ne own]
        exact conserved.globalLimit other
    · intro holder other
      by_cases own : (holder, other) = (principal, resource)
      · cases own
        rw [count_insert_self]
        exact principalWithin
      · rw [count_insert_of_ne own]
        exact conserved.principalLimit holder other

omit [DecidableEq Principal] in
theorem released_le {Key : Type} [DecidableEq Key] {tally : Tally Key} {key other : Key}
    {units : Nat} {held : List (Key × Nat)} (counts : Counts tally ((key, units) :: held)) :
    count (release tally key units) other ≤ count tally other := by
  rw [counts.release.count_eq, counts.count_eq, weight_cons]
  exact Nat.le_add_left _ _

theorem Conserved.drop (conserved : Conserved config state) {index : Nat}
    {lease : QuotaLease Principal} (found : state.leases[index]? = some lease) :
    Conserved config ⟨lease.drop state.counts, state.leases.eraseIdx index⟩ := by
  have order := (Runs.eraseIdx_perm found).symm
  have global := conserved.global.perm (order.map QuotaLease.globally)
  have principals := conserved.principals.perm (order.map QuotaLease.byPrincipal)
  refine ⟨global.release, principals.release, ?_, ?_⟩
  · intro resource
    exact (released_le global).trans (conserved.globalLimit resource)
  · intro principal resource
    exact (released_le principals).trans (conserved.principalLimit principal resource)

theorem step_conserved {act : Act Principal} {next : System Principal}
    (fits : sumFits config state act = true) (conserved : Conserved config state)
    (stepped : step config state act = some next) : Conserved config next := by
  cases act with
  | tryAcquire principal resource units =>
    exact conserved.tryAcquire principal resource units (of_decide_eq_true fits) stepped
  | drop index =>
    obtain ⟨lease, found, rfl⟩ := Option.map_eq_some_iff.mp stepped
    exact conserved.drop found

theorem conserved_leased (conserved : Conserved config state) (resource : QuotaResource) :
    count state.counts.global resource = leased state.leases resource := by
  rw [conserved.global.count_eq, weight_globally]

theorem conserved_principals (conserved : Conserved config state) (resource : QuotaResource) :
    count state.counts.global resource =
      total state.counts.principals fun key => decide (key.2 = resource) := by
  rw [conserved.global.count_eq, conserved.principals.total_eq, weight_byPrincipal]

theorem conserved_entry (conserved : Conserved config state) {principal : Principal}
    {resource : QuotaResource} (present : (principal, resource) ∈ state.counts.principals) :
    ∃ lease ∈ state.leases, lease.principal = principal ∧ lease.resource = resource := by
  obtain ⟨units, member⟩ := conserved.principals.held_of_mem _ present
  obtain ⟨lease, live, same⟩ := List.mem_map.mp member
  obtain ⟨rfl, rfl⟩ := Prod.mk.inj (Prod.mk.inj same).1
  exact ⟨lease, live, rfl, rfl⟩

/-- What dropping a lease takes off the counts is there. -/
theorem conserved_lease (conserved : Conserved config state) {lease : QuotaLease Principal}
    (live : lease ∈ state.leases) :
    lease.units ≤ count state.counts.global lease.resource ∧
      lease.units ≤ count state.counts.principals (lease.principal, lease.resource) :=
  ⟨conserved.global.le_count (List.mem_map.mpr ⟨lease, live, rfl⟩),
    conserved.principals.le_count (List.mem_map.mpr ⟨lease, live, rfl⟩)⟩

/-- In every run whose sums fit, the counts are those of the live leases and within their
limits, a refused acquisition changes nothing, and no entry is left without a lease. -/
theorem quotas_conserved (config : AdmissionQuotaConfig) (trace : List (Act Principal))
    (state : System Principal)
    (fits : Runs.Admitted (step config) (fun state act => sumFits config state act = true)
      System.new trace)
    (ran : Runs.exec (step config) System.new trace = some state) :
    (∀ resource, count state.counts.global resource = leased state.leases resource ∧
      count state.counts.global resource =
        total state.counts.principals (fun key => decide (key.2 = resource)) ∧
      count state.counts.global resource ≤ config.limit resource) ∧
    (∀ principal resource, count state.counts.principals (principal, resource) ≤
      max (config.limit resource / max config.perPrincipalDivisor 1) 1) ∧
    (∀ principal resource units outcome,
      (tryAcquire config state.counts principal resource units).1 = .error outcome →
      (tryAcquire config state.counts principal resource units).2 = state.counts) ∧
    (∀ principal resource, (principal, resource) ∈ state.counts.principals →
      ∃ lease ∈ state.leases, lease.principal = principal ∧ lease.resource = resource) ∧
    ∀ lease ∈ state.leases, lease.units ≤ count state.counts.global lease.resource ∧
      lease.units ≤ count state.counts.principals (lease.principal, lease.resource) := by
  have conserved : Conserved config state := by
    refine Runs.exec_invariant (step config) (fun state act => sumFits config state act = true)
      (Conserved config) ?_ trace System.new state conserved_new fits ran
    intro state act next fits conserved stepped
    exact step_conserved fits conserved stepped
  refine ⟨?_, conserved.principalLimit, ?_, ?_, ?_⟩
  · intro resource
    exact ⟨conserved_leased conserved resource, conserved_principals conserved resource,
      conserved.globalLimit resource⟩
  · intro principal resource units outcome refused
    exact refused_unchanged config state.counts principal resource units refused
  · intro principal resource present
    exact conserved_entry conserved present
  · intro lease live
    exact conserved_lease conserved live

/-- Leases granted and refused, and dropped in another order. -/
def sampleLeases : List (Act String) :=
  [.tryAcquire "a" .tasks 100, .tryAcquire "b" .tasks 128, .tryAcquire "a" .tasks 29,
    .tryAcquire "a" .tasks 0, .drop 2, .tryAcquire "a" .listeners 7, .drop 2]

theorem quotas_conserved_sample : ∃ state,
    Runs.exec (step .default) System.new sampleLeases = some state ∧
    state.leases = [⟨"a", .listeners, 7⟩, ⟨"a", .tasks, 0⟩] ∧
    count state.counts.global .tasks = leased state.leases .tasks := by
  refine ⟨_, rfl, by decide, ?_⟩
  exact ((quotas_conserved .default sampleLeases _ (by decide) rfl).1 .tasks).1

/-- One lease of everything there is, beside a lease of one unit. -/
def unlimitedTasks : AdmissionQuotaConfig :=
  { AdmissionQuotaConfig.default with
    tasks := usizeMax
    perPrincipalDivisor := 1 }

theorem unlimited_quota_wraps : ∃ state,
    Runs.exec (step unlimitedTasks) System.new
      [.tryAcquire "a" .tasks 1, .tryAcquire "a" .tasks usizeMax] = some state ∧
    count state.counts.global .tasks = 0 ∧ leased state.leases .tasks = usizeMax + 1 ∧
    ¬ (∀ resource, count state.counts.global resource = leased state.leases resource) := by
  have wrapped : (Runs.exec (step unlimitedTasks) System.new
      [.tryAcquire "a" .tasks 1, .tryAcquire "a" .tasks usizeMax]).map (fun state =>
        (count state.counts.global .tasks, leased state.leases .tasks)) =
      some (0, usizeMax + 1) := by decide
  obtain ⟨state, ran, same⟩ := Option.map_eq_some_iff.mp wrapped
  obtain ⟨counted, live⟩ := Prod.mk.inj same
  refine ⟨state, ran, counted, live, ?_⟩
  intro conserved
  have equal := conserved .tasks
  rw [counted, live] at equal
  exact absurd equal (by decide)

end Plug.Quotas
