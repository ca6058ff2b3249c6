import Plug.Reconnects
import Plug.ReloadCoverage

/-!
# Servers that are off stay off

While no reload is under way, each server that is connected is on in the configuration, and was
connected with settings that the comparison does not tell from the configured ones. During a
reload the same holds of the new configuration, but for the servers it has still to stop. A start
that goes by settings in which the server is on keeps this: it commits under the lock, and only
what the comparison does not tell apart.
-/

namespace Plug.Reload

/-- The server is on, and connected with settings that need no restart. -/
def Settled (config : Config) (name : String) (upstream : Upstream) : Prop :=
  ∃ server, config.servers.lookup name = some server ∧ server.enabled = true ∧
    serverConfigChanged upstream.config server = false

/-- Which servers are connected, between reloads and during one. -/
def Serving (config : Config) (servers : String → Option Upstream) : Option Reloading → Prop
  | none => ∀ name upstream, servers name = some upstream → Settled config name upstream
  | some reloading =>
    (∀ name upstream, servers name = some upstream →
      name ∈ reloading.stops ∨ Settled reloading.next name upstream) ∧
    ∀ item ∈ reloading.starts, item ∈ reloading.next.servers ∧ item.2.enabled = true

/-- A start goes by settings in which the server is on. -/
def StartPhase.GoesByEnabled (phase : StartPhase) : Prop :=
  ∀ config, phase.config = some config → config.enabled = true

structure ServersSound (runtime : Runtime) : Prop where
  starting : ∀ start ∈ runtime.starts, start.phase.GoesByEnabled
  serving : Serving runtime.config runtime.servers runtime.reloading

/-! ### The comparison -/

theorem enabled_of_unchanged {old new : ServerConfig}
    (unchanged : serverConfigChanged old new = false) : old.enabled = new.enabled := by
  have same := serverConfigChanged_eq_false.mp unchanged
  rw [same]

variable {name : String} {upstream : Upstream}

/-- What a reload leaves alone is settled in the new configuration. -/
theorem settled_reload {old new : Config} (settled : Settled old name upstream) :
    name ∈ (diffConfigs old new).removed ++ (diffConfigs old new).changed.map Prod.fst ∨
      Settled new name upstream := by
  obtain ⟨server, found, on, unchanged⟩ := settled
  cases next : new.servers.lookup name with
  | none =>
    left
    apply List.mem_append_left
    refine List.mem_filter.mpr ⟨?_, ?_⟩
    · exact List.mem_map.mpr ⟨(name, server), Tables.mem_of_lookup found, rfl⟩
    · rw [next]
      rfl
  | some newServer =>
    by_cases restarted : restarts old new server newServer = true
    · left
      exact List.mem_append_right _ ((mem_changed_iff found next).mpr restarted)
    · right
      rw [restarts, Bool.or_eq_true, not_or, Bool.not_eq_true] at restarted
      refine ⟨newServer, next, ?_, serverConfigChanged_trans unchanged restarted.1⟩
      rw [← enabled_of_unchanged restarted.1]
      exact on

theorem mem_reloadStartActions {old new : Config} {item : String × ServerConfig}
    (member : item ∈ reloadStartActions (diffConfigs old new)) :
    item ∈ new.servers ∧ item.2.enabled = true := by
  obtain ⟨listed, on⟩ := List.mem_filter.mp member
  refine ⟨?_, on⟩
  cases List.mem_append.mp listed with
  | inl changed => exact (List.mem_filter.mp changed).1
  | inr added => exact (List.mem_filter.mp added).1

/-! ### Each step -/

section Steps

variable {runtime next : Runtime} {index : Nat} {start : Start}

/-- A start goes on, or puts its connection in place. -/
inductive StartMoved (runtime : Runtime) (index : Nat) (start : Start) : Runtime → Prop
  | on (former : Start) (reconnecting : String → Bool) (enabled : former.phase.GoesByEnabled) :
      StartMoved runtime index start
        { runtime with starts := runtime.starts.set index former, reconnecting := reconnecting }
  | commit (former : Start) (reconnecting : String → Bool) (upstream : Upstream)
      (ended : former.phase = .finished) (enabled : upstream.config.enabled = true)
      (free : runtime.reloading = none)
      (current : isCurrent runtime start.server upstream.config upstream.protocolGateState = true) :
      StartMoved runtime index start
        { runtime with
          starts := runtime.starts.set index former
          reconnecting := reconnecting
          servers := Function.update runtime.servers start.server (some upstream) }

variable {phase : StartPhase} {config : Config}

/-- A start that has read nothing, or is over. -/
theorem goesByEnabled_none (unread : phase.config = none) : phase.GoesByEnabled := by
  intro config found
  rw [unread] at found
  cases found

/-- The settings a start read are the ones it goes by. -/
theorem goesByEnabled_of {config : ServerConfig} (own : phase.config = some config)
    (on : config.enabled = true) : phase.GoesByEnabled := by
  intro other found
  obtain rfl := Option.some.inj (own.symm.trans found)
  exact on

theorem put_moved (enabled : phase.GoesByEnabled) :
    StartMoved runtime index start (runtime.put index start phase) :=
  .on { start with phase := phase } runtime.reconnecting enabled

theorem finished_moved : StartMoved runtime index start (runtime.put index start .finished) :=
  put_moved (goesByEnabled_none rfl)

theorem release_moved : StartMoved runtime index start (runtime.release index start) :=
  .on { start with phase := .finished } (Function.update runtime.reconnecting start.server false)
    (goesByEnabled_none rfl)

theorem claim_moved (enabled : phase.GoesByEnabled) :
    StartMoved runtime index start (tryClaimUpstreamStart runtime index start phase) := by
  rw [tryClaimUpstreamStart]
  split
  · exact finished_moved
  · exact .on { start with phase := phase }
      (Function.update runtime.reconnecting start.server true) enabled

theorem commit_moved (enabled : upstream.config.enabled = true) (free : runtime.reloading = none) :
    StartMoved runtime index start (commitReplacement runtime index start upstream) := by
  rw [commitReplacement]
  split
  · rename_i current
    exact .commit { start with phase := .finished }
      (Function.update runtime.reconnecting start.server false) upstream rfl enabled free current
  · exact release_moved

theorem advanceStart_moved {outcome : ConnectOutcome} (enabled : start.phase.GoesByEnabled)
    (reads : start.phase = .claimed → ∀ config,
      runtime.config.servers.lookup start.server = some config → config.enabled = true)
    (stepped : advanceStart runtime index start outcome = some next) :
    StartMoved runtime index start next := by
  rw [advanceStart] at stepped
  cases phase : start.phase with
  | due =>
    simp only [phase] at stepped
    split at stepped
    · cases stepped
      exact finished_moved
    · split at stepped
      · cases stepped
        exact put_moved (goesByEnabled_none rfl)
      · cases stepped
        exact finished_moved
  | requested =>
    simp only [phase] at stepped
    split at stepped
    · split at stepped
      · cases stepped
        exact finished_moved
      · split at stepped
        · rename_i on
          cases stepped
          exact put_moved (goesByEnabled_of rfl on)
        · cases stepped
          exact finished_moved
    · cases stepped
      exact claim_moved (goesByEnabled_none rfl)
  | claimed =>
    simp only [phase] at stepped
    split at stepped
    · cases stepped
      exact release_moved
    · rename_i config found
      cases stepped
      exact put_moved (goesByEnabled_of rfl (reads phase config found))
  | configured config =>
    simp only [phase] at enabled stepped
    cases stepped
    exact put_moved (goesByEnabled_of rfl (enabled config rfl))
  | gated config gateState =>
    simp only [phase] at enabled stepped
    split at stepped
    · cases stepped
      exact claim_moved (goesByEnabled_of rfl (enabled config rfl))
    · split at stepped
      · cases stepped
        exact put_moved (goesByEnabled_of rfl (enabled config rfl))
      · cases stepped
        exact release_moved
  | connecting config gateState =>
    simp only [phase] at enabled stepped
    cases outcome with
    | connected =>
      cases stepped
      exact put_moved (goesByEnabled_of rfl (enabled config rfl))
    | retryable =>
      simp only at stepped
      split at stepped
      · cases stepped
        exact .on _ runtime.reconnecting (goesByEnabled_of rfl (enabled config rfl))
      · cases stepped
        exact release_moved
    | failed =>
      cases stepped
      exact release_moved
  | connected upstream =>
    simp only [phase] at enabled stepped
    split at stepped
    · rename_i free
      cases stepped
      exact commit_moved (enabled upstream.config rfl) free
    · cases stepped
  | finished =>
    simp only [phase] at stepped
    cases stepped

/-- What is connected stays settled when a start puts a settled connection in place. -/
theorem serving_update {servers : String → Option Upstream} (serving : Serving config servers none)
    (settled : Settled config name upstream) :
    Serving config (Function.update servers name (some upstream)) none := by
  intro other otherUpstream found
  by_cases same : other = name
  · subst same
    rw [Function.update_self] at found
    cases found
    exact settled
  · rw [Function.update_of_ne same] at found
    exact serving other otherUpstream found

theorem serving_stop {servers : String → Option Upstream} {reloading : Reloading}
    {rest : List String} (stops : reloading.stops = name :: rest)
    (serving : Serving config servers (some reloading)) :
    Serving config (Function.update servers name none)
      (some { reloading with stops := rest }) := by
  refine ⟨?_, serving.2⟩
  intro other upstream found
  by_cases same : other = name
  · subst same
    rw [Function.update_self] at found
    cases found
  · rw [Function.update_of_ne same] at found
    cases serving.1 other upstream found with
    | inl listed =>
      rw [stops] at listed
      exact Or.inl ((List.mem_cons.mp listed).resolve_left same)
    | inr settled => exact Or.inr settled

theorem serving_started {servers : String → Option Upstream} {reloading : Reloading}
    {server : ServerConfig} (member : (name, server) ∈ reloading.starts) (gateState : Nat)
    (serving : Serving config servers (some reloading)) :
    Serving config (Function.update servers name (some ⟨server, gateState⟩)) (some reloading) := by
  obtain ⟨listed, on⟩ := serving.2 (name, server) member
  refine ⟨?_, serving.2⟩
  intro other upstream found
  by_cases same : other = name
  · subst same
    rw [Function.update_self] at found
    cases found
    exact Or.inr ⟨server, mem_servers_iff.mp listed, on, serverConfigChanged_self server⟩
  · rw [Function.update_of_ne same] at found
    exact serving.1 other upstream found

theorem settled_of_current (enabled : upstream.config.enabled = true)
    (current : isCurrent runtime name upstream.config upstream.protocolGateState = true) :
    Settled runtime.config name upstream := by
  obtain ⟨server, found, same⟩ := (Option.any_eq_true _ _).mp current
  rw [Bool.and_eq_true, Bool.not_eq_true'] at same
  refine ⟨server, found, ?_, same.1⟩
  rw [← enabled_of_unchanged same.1]
  exact enabled

theorem sound_moved (sound : ServersSound runtime) (moved : StartMoved runtime index start next) :
    ServersSound next := by
  have starting : ∀ {former : Start}, former.phase.GoesByEnabled →
      ∀ other ∈ runtime.starts.set index former, other.phase.GoesByEnabled := by
    intro former enabled other member
    cases List.mem_or_eq_of_mem_set member with
    | inl earlier => exact sound.starting other earlier
    | inr same =>
      rw [same]
      exact enabled
  cases moved with
  | on former reconnecting enabled => exact ⟨starting enabled, sound.serving⟩
  | commit former reconnecting upstream finished enabled free current =>
    refine ⟨starting (goesByEnabled_none (by rw [finished]; rfl)), ?_⟩
    have serving := sound.serving
    rw [free] at serving
    change Serving runtime.config _ runtime.reloading
    rw [free]
    exact serving_update serving (settled_of_current enabled current)

theorem sound_beginReload (sound : ServersSound runtime)
    (stepped : beginReload runtime config = some next) : ServersSound next := by
  rw [beginReload] at stepped
  split at stepped
  · rename_i free
    cases stepped
    have serving := sound.serving
    rw [free] at serving
    refine ⟨sound.starting, ?_, ?_⟩
    · intro name upstream found
      exact settled_reload (serving name upstream found)
    · intro item member
      exact mem_reloadStartActions member
  · cases stepped

theorem sound_stopServer (sound : ServersSound runtime)
    (stepped : stopServer runtime = some next) : ServersSound next := by
  rw [stopServer] at stepped
  have serving := sound.serving
  cases reloading : runtime.reloading with
  | none =>
    simp only [reloading] at stepped
    cases stepped
  | some current =>
    simp only [reloading] at stepped serving
    cases stops : current.stops with
    | nil =>
      simp only [stops] at stepped
      cases stepped
    | cons stopped rest =>
      simp only [stops] at stepped
      cases stepped
      exact ⟨sound.starting, serving_stop stops serving⟩

theorem sound_startServer {connected : Bool} (sound : ServersSound runtime)
    (stepped : startServer runtime index connected = some next) : ServersSound next := by
  rw [startServer] at stepped
  have serving := sound.serving
  cases reloading : runtime.reloading with
  | none =>
    simp only [reloading] at stepped
    cases stepped
  | some current =>
    simp only [reloading] at stepped serving
    split at stepped
    · cases found : current.starts[index]? with
      | none =>
        simp only [found] at stepped
        cases stepped
      | some item =>
        obtain ⟨started, config⟩ := item
        simp only [found] at stepped
        cases stepped
        have fewer : ∀ item ∈ current.starts.eraseIdx index,
            item ∈ current.next.servers ∧ item.2.enabled = true :=
          fun item member => serving.2 item (List.mem_of_mem_eraseIdx member)
        refine ⟨sound.starting, ?_, fewer⟩
        cases connected with
        | false => exact serving.1
        | true => exact (serving_started (List.mem_of_getElem? found) _ serving).1
    · cases stepped

theorem sound_storeConfig (sound : ServersSound runtime)
    (stepped : storeConfig runtime = some next) : ServersSound next := by
  rw [storeConfig] at stepped
  have serving := sound.serving
  cases reloading : runtime.reloading with
  | none =>
    simp only [reloading] at stepped
    cases stepped
  | some current =>
    simp only [reloading] at stepped serving
    split at stepped
    · rename_i done
      cases stepped
      refine ⟨sound.starting, ?_⟩
      intro name upstream found
      have settled := serving.1 name upstream found
      rw [done.1] at settled
      exact settled.resolve_left List.not_mem_nil
    · cases stepped

theorem sound_startStep {action : StartAction} (reads : readsEnabled runtime action = true)
    (sound : ServersSound runtime) (stepped : startStep runtime action = some next) :
    ServersSound next := by
  cases action with
  | call origin server attempts =>
    cases stepped
    refine ⟨?_, sound.serving⟩
    intro start member
    cases List.mem_append.mp member with
    | inl former => exact sound.starting start former
    | inr called =>
      rw [List.mem_singleton.mp called]
      apply goesByEnabled_none
      cases origin <;> rfl
  | advance index outcome =>
    obtain ⟨start, found, advanced⟩ := Option.bind_eq_some_iff.mp stepped
    rw [readsEnabled, found, Option.all_some, Bool.or_eq_true] at reads
    refine sound_moved sound (advanceStart_moved
      (sound.starting start (List.mem_of_getElem? found)) ?_ advanced)
    intro claimed config listed
    rw [claimed] at reads
    have on := reads.resolve_left (by decide)
    rw [listed] at on
    exact on
  | beginReload config => exact sound_beginReload sound stepped
  | stopServer => exact sound_stopServer sound stepped
  | startServer index connected => exact sound_startServer sound stepped
  | storeConfig => exact sound_storeConfig sound stepped

end Steps

/-! ### Every run -/

/-- Some of the servers that are on are connected as configured, and nothing else is under way. -/
structure Started (runtime : Runtime) : Prop where
  idle : runtime.reloading = none
  quiet : runtime.starts = []
  configured : ∀ name upstream, runtime.servers name = some upstream →
    runtime.config.servers.lookup name = some upstream.config ∧ upstream.config.enabled = true

theorem sound_started {runtime : Runtime} (started : Started runtime) : ServersSound runtime := by
  constructor
  · rw [started.quiet]
    intro start member
    cases member
  · rw [started.idle]
    intro name upstream found
    obtain ⟨listed, on⟩ := started.configured name upstream found
    exact ⟨upstream.config, listed, on, serverConfigChanged_self upstream.config⟩

/-- While no reload is under way, each server that is connected is on in the configuration and was
connected with settings that need no restart: in every run in which each reconnect that reads the
configuration finds the server on in it, or gone. -/
theorem servers_stay_off (runtime : Runtime) (started : Started runtime)
    (trace : List StartAction) (final : Runtime)
    (admitted : Runs.Admitted startStep
      (fun state action => readsEnabled state action = true) runtime trace)
    (ran : Runs.exec startStep runtime trace = some final) (settled : final.reloading = none)
    (name : String) (upstream : Upstream) (connected : final.servers name = some upstream) :
    ∃ server, final.config.servers.lookup name = some server ∧ server.enabled = true ∧
      serverConfigChanged upstream.config server = false := by
  have sound : ServersSound final := by
    refine Runs.exec_invariant startStep (fun state action => readsEnabled state action = true)
      ServersSound ?_ trace runtime final (sound_started started) admitted ran
    intro state action next reads sound stepped
    exact sound_startStep reads sound stepped
  have serving := sound.serving
  rw [settled] at serving
  exact serving name upstream connected

/-- A server that signs in. -/
def calendarServer : ServerConfig :=
  { gitServer with
    command := none
    transport := .http
    url := some "https://calendar.example/mcp"
    auth := some "oauth" }

/-- The server runs as configured. -/
def calendarRuntime : Runtime where
  config := oneServer calendarServer
  modernUpstreamGateState := 0
  servers name := if name = "git" then some ⟨calendarServer, 0⟩ else none
  reconnecting _ := false
  reloading := none
  starts := []

theorem calendarRuntime_started : Started calendarRuntime := by
  refine ⟨rfl, rfl, ?_⟩
  intro name upstream found
  rw [show calendarRuntime.servers name = if name = "git" then some ⟨calendarServer, 0⟩ else none
    from rfl] at found
  split at found
  · rename_i same
    cases found
    rw [same]
    exact ⟨rfl, rfl⟩
  · cases found

/-- A reconnect, from the loop that refreshes the sign-in. -/
def refreshLoop : List StartAction :=
  .call .refreshLoop "git" 5 :: List.replicate 7 (.advance 0 .connected)

/-- The server is turned off while the sign-in is refreshed. -/
def turnedOff : List StartAction :=
  ([.call .refreshLoop "git" 5, .advance 0 .connected,
    .beginReload (oneServer { calendarServer with enabled := false }), .stopServer, .storeConfig] :
      List StartAction) ++
  List.replicate 6 (.advance 0 .connected)

/-- The reconnect leaves a server that is on. -/
theorem servers_stay_off_refreshed :
    ∃ final upstream, Runs.exec startStep calendarRuntime refreshLoop = some final ∧
      final.servers "git" = some upstream ∧
      ∃ server, final.config.servers.lookup "git" = some server ∧ server.enabled = true ∧
        serverConfigChanged upstream.config server = false := by
  have outcome : (Runs.exec startStep calendarRuntime refreshLoop).map
      (fun state => (state.reloading, state.servers "git")) =
        some (none, some ⟨calendarServer, 0⟩) := by decide +kernel
  obtain ⟨final, ran, same⟩ := Option.map_eq_some_iff.mp outcome
  obtain ⟨idle, connected⟩ := Prod.mk.inj same
  exact ⟨final, ⟨calendarServer, 0⟩, ran, connected,
    servers_stay_off calendarRuntime calendarRuntime_started refreshLoop final
      (by decide +kernel) ran idle "git" ⟨calendarServer, 0⟩ connected⟩

/-- The reconnect reads the configuration after the server was turned off, and connects it. -/
theorem server_comes_back :
    ¬ ∀ (trace : List StartAction) (final : Runtime),
      Runs.exec startStep calendarRuntime trace = some final → final.reloading = none →
      ∀ name upstream, final.servers name = some upstream →
        ∃ server, final.config.servers.lookup name = some server ∧ server.enabled = true ∧
          serverConfigChanged upstream.config server = false := by
  intro stays
  have outcome : (Runs.exec startStep calendarRuntime turnedOff).map
      (fun state =>
        (state.reloading, state.servers "git",
          (state.config.servers.lookup "git").map fun server => server.enabled)) =
        some (none, some ⟨{ calendarServer with enabled := false }, 0⟩, some false) := by
    decide +kernel
  obtain ⟨final, ran, same⟩ := Option.map_eq_some_iff.mp outcome
  obtain ⟨idle, rest⟩ := Prod.mk.inj same
  obtain ⟨connected, off⟩ := Prod.mk.inj rest
  obtain ⟨server, found, on, _⟩ := stays turnedOff final ran idle "git" _ connected
  rw [found, Option.map_some, on] at off
  cases off

end Plug.Reload
