import Plug.SharedRoundTrips

/-!
# A request that is unsafe to retry is sent once

The two calls of `roundTrip` for a request are made on the connections that the request has noted,
and the second one only after the first one has returned its failure. When that failure says that
the request was never sent, nothing of it was handed to any writer, and nothing will be.
-/

namespace Plug.Proxy

open Runs Ipc

/-- The calls of `roundTrip` for a request are the ones it noted. -/
structure Noted (shared : SharedConnection) : Prop where
  handing : ∀ index, Handing (shared.muxes index)
  first : ∀ index request, ((shared.muxes index).roundTrips (.first request)).phase ≠ .absent →
    (shared.calls request).mux = some index
  again : ∀ index request, ((shared.muxes index).roundTrips (.again request)).phase ≠ .absent →
    (shared.calls request).retried = some index
  failed : ∀ request failure, (shared.calls request).failure = some failure →
    ∃ index, (shared.calls request).mux = some index ∧
      ((shared.muxes index).roundTrips (.first request)).result = some (.error failure)
  retried : ∀ request index, (shared.calls request).retried = some index →
    (shared.calls request).policy = .safeToRetry ∨
      ∃ failure, (shared.calls request).failure = some failure ∧ failure.neverSent = true
  known : ∀ request index, (shared.calls request).mux = some index → index ≤ shared.latest
  /-- Before the first call there is nothing to note. -/
  fresh : ∀ request, (shared.calls request).stage = .absent ∨
    (shared.calls request).stage = .connecting → (shared.calls request).mux = none ∧
      (shared.calls request).failure = none ∧ (shared.calls request).retried = none
  returned : ∀ request, (shared.calls request).stage = .first →
    (shared.calls request).failure = none ∧ (shared.calls request).retried = none
  waiting : ∀ request, (shared.calls request).stage = .reconnecting ∨
    (shared.calls request).stage = .refreshing → (shared.calls request).retried = none
  holder : ∀ request replaced, shared.holder = some (.call request, replaced) →
    (shared.calls request).stage = .refreshing

theorem noted_start (tagged : Bool) (ceiling : Nat) :
    Noted (SharedConnection.start tagged ceiling) := by
  constructor
  case handing => exact fun _ => handing_start tagged ceiling
  all_goals simp [SharedConnection.start, DaemonMux.start]

variable {shared : SharedConnection}

/-- A step of a connection begins only calls that are noted, and changes nothing that one
returned. -/
theorem noted_setMux (noted : Noted shared) {index : Nat} {action : Action Attempt}
    {mux : DaemonMux Attempt} (stepped : (shared.muxes index).step action = some mux)
    (first : ∀ request control, action = .start (.first request) control →
      (shared.calls request).mux = some index)
    (again : ∀ request control, action = .start (.again request) control →
      (shared.calls request).retried = some index) : Noted (shared.setMux index mux) := by
  have kept (attempt : Attempt) (begun : (mux.roundTrips attempt).phase ≠ .absent) :
      ((shared.muxes index).roundTrips attempt).phase ≠ .absent ∨
        ∃ control, action = .start attempt control := by
    by_cases own : action.actor = some attempt
    · by_cases absent : ((shared.muxes index).roundTrips attempt).phase = .absent
      · exact Or.inr ((step_actor stepped own).2 absent)
      · exact Or.inl absent
    · exact Or.inl (by rwa [← (step_apart stepped own).1])
  refine ⟨?_, ?_, ?_, ?_, noted.retried, noted.known, noted.fresh, noted.returned, noted.waiting,
    noted.holder⟩
  · intro other
    dsimp only [SharedConnection.setMux]
    rw [Function.update_apply]
    split
    · exact handing_step (noted.handing index) stepped
    · exact noted.handing other
  · intro other request begun
    dsimp only [SharedConnection.setMux] at begun ⊢
    rw [Function.update_apply] at begun
    split at begun
    · rename_i same
      subst same
      rcases kept _ begun with earlier | ⟨control, now⟩
      · exact noted.first other request earlier
      · exact first request control now
    · exact noted.first other request begun
  · intro other request begun
    dsimp only [SharedConnection.setMux] at begun ⊢
    rw [Function.update_apply] at begun
    split at begun
    · rename_i same
      subst same
      rcases kept _ begun with earlier | ⟨control, now⟩
      · exact noted.again other request earlier
      · exact again request control now
    · exact noted.again other request begun
  · intro request failure found
    obtain ⟨place, at', result⟩ := noted.failed request failure found
    refine ⟨place, at', ?_⟩
    dsimp only [SharedConnection.setMux]
    rw [Function.update_apply]
    split
    · rename_i same
      subst same
      have ended := (noted.handing place).concluded (.first request) (by rw [result]; rfl)
      have apart : action.actor ≠ some (.first request) := by
        intro own
        exact (step_actor stepped own).1 ended
      rw [(step_apart stepped apart).2]
      exact result
    · exact result

/-- What a call binds, it binds once. -/
theorem noted_setCall (noted : Noted shared) (request : Nat) (call : SharedCall)
    (mux : ∀ index, (shared.calls request).mux = some index → call.mux = some index)
    (again : ∀ index, (shared.calls request).retried = some index → call.retried = some index)
    (failed : ∀ failure, call.failure = some failure → ∃ index, call.mux = some index ∧
      ((shared.muxes index).roundTrips (.first request)).result = some (.error failure))
    (retried : ∀ index, call.retried = some index → call.policy = .safeToRetry ∨
      ∃ failure, call.failure = some failure ∧ failure.neverSent = true)
    (known : ∀ index, call.mux = some index → index ≤ shared.latest)
    (fresh : call.stage = .absent ∨ call.stage = .connecting →
      call.mux = none ∧ call.failure = none ∧ call.retried = none)
    (returned : call.stage = .first → call.failure = none ∧ call.retried = none)
    (waiting : call.stage = .reconnecting ∨ call.stage = .refreshing → call.retried = none)
    (holder : ∀ replaced, shared.holder = some (.call request, replaced) →
      call.stage = .refreshing) : Noted (shared.setCall request call) := by
  have cases' {motive : Nat → SharedCall → Prop} (own : motive request call)
      (others : ∀ other, motive other (shared.calls other)) (other : Nat) :
      motive other ((shared.setCall request call).calls other) := by
    dsimp only [SharedConnection.setCall]
    rw [Function.update_apply]
    split
    · rename_i same
      exact same ▸ own
    · exact others other
  constructor
  · exact noted.handing
  · intro index other begun
    exact cases' (motive := fun other call =>
      ((shared.muxes index).roundTrips (.first other)).phase ≠ .absent → call.mux = some index)
      (fun begun => mux index (noted.first index request begun)) (noted.first index) other begun
  · intro index other begun
    exact cases' (motive := fun other call =>
      ((shared.muxes index).roundTrips (.again other)).phase ≠ .absent → call.retried = some index)
      (fun begun => again index (noted.again index request begun)) (noted.again index) other begun
  · exact cases' (motive := fun other call => ∀ failure, call.failure = some failure →
      ∃ index, call.mux = some index ∧
        ((shared.muxes index).roundTrips (.first other)).result = some (.error failure))
      failed noted.failed
  · exact cases' (motive := fun _ call => ∀ index, call.retried = some index →
      call.policy = .safeToRetry ∨
        ∃ failure, call.failure = some failure ∧ failure.neverSent = true) retried noted.retried
  · exact cases' (motive := fun _ call => ∀ index, call.mux = some index →
      index ≤ shared.latest) known noted.known
  · exact cases' (motive := fun _ call => call.stage = .absent ∨ call.stage = .connecting →
      call.mux = none ∧ call.failure = none ∧ call.retried = none) fresh noted.fresh
  · exact cases' (motive := fun _ call => call.stage = .first →
      call.failure = none ∧ call.retried = none) returned noted.returned
  · exact cases' (motive := fun _ call => call.stage = .reconnecting ∨ call.stage = .refreshing →
      call.retried = none) waiting noted.waiting
  · exact cases' (motive := fun other call => ∀ replaced,
      shared.holder = some (.call other, replaced) → call.stage = .refreshing) holder noted.holder

theorem noted_setHolder (noted : Noted shared) (holder : Option (Holder × Bool))
    (refreshing : ∀ request replaced, holder = some (.call request, replaced) →
      (shared.calls request).stage = .refreshing) : Noted { shared with holder := holder } :=
  ⟨noted.handing, noted.first, noted.again, noted.failed, noted.retried, noted.known, noted.fresh,
    noted.returned, noted.waiting, refreshing⟩

/-- Only the stage of a call changes, to one at which nothing more is asked of it. -/
theorem noted_setStage (noted : Noted shared) (request : Nat) (call : SharedCall)
    (mux : call.mux = (shared.calls request).mux)
    (failure : call.failure = (shared.calls request).failure)
    (retried : call.retried = (shared.calls request).retried)
    (policy : call.policy = (shared.calls request).policy)
    (stage : call.stage = .finished ∨ call.stage = .dropped)
    (holder : ∀ replaced, shared.holder ≠ some (.call request, replaced)) :
    Noted (shared.setCall request call) := by
  apply noted_setCall noted
  · exact fun index found => mux.trans found
  · exact fun index found => retried.trans found
  · rw [failure, mux]
    exact noted.failed request
  · rw [failure, retried, policy]
    exact noted.retried request
  · rw [mux]
    exact noted.known request
  · rcases stage with stage | stage <;> simp [stage]
  · rcases stage with stage | stage <;> simp [stage]
  · rcases stage with stage | stage <;> simp [stage]
  · exact fun replaced held => absurd held (holder replaced)

/-- The former connection is closed, and nothing was sent on the new one. -/
theorem noted_replace (noted : Noted shared) {holder : Holder} {replaced : Bool}
    (held : shared.holder = some (holder, replaced)) (tagged : Bool) (ceiling : Nat) :
    Noted (shared.replace holder tagged ceiling) := by
  have former (attempt : Attempt) : Untouched (shared.muxes shared.latest)
      ((shared.muxes shared.latest).close sessionReplaced) attempt :=
    untouched_resolve rfl attempt
  have muxes (index : Nat) : (shared.replace holder tagged ceiling).muxes index =
      if index = shared.latest + 1 then DaemonMux.start tagged ceiling
      else if index = shared.latest then (shared.muxes shared.latest).close sessionReplaced
      else shared.muxes index := by
    simp only [SharedConnection.replace, SharedConnection.setMux, Function.update_apply]
  have kept (attempt : Attempt) (index : Nat)
      (begun : (((shared.replace holder tagged ceiling).muxes index).roundTrips attempt).phase ≠
        .absent) : ((shared.muxes index).roundTrips attempt).phase ≠ .absent := by
    rw [muxes] at begun
    split at begun
    · exact absurd rfl begun
    · split at begun
      · rename_i same
        subst same
        rwa [(former attempt).1] at begun
      · exact begun
  refine ⟨?_, ?_, ?_, ?_, noted.retried, ?_, noted.fresh, noted.returned, noted.waiting, ?_⟩
  · intro index
    rw [muxes]
    split
    · exact handing_start tagged ceiling
    · split
      · exact handing_close (noted.handing shared.latest) rfl
      · exact noted.handing index
  · exact fun index request begun => noted.first index request (kept _ index begun)
  · exact fun index request begun => noted.again index request (kept _ index begun)
  · intro request failure found
    obtain ⟨index, place, result⟩ := noted.failed request failure found
    refine ⟨index, place, ?_⟩
    have below := noted.known request index place
    rw [muxes, if_neg (by omega)]
    split
    · rename_i same
      subst same
      rw [(former _).2]
      exact result
    · exact result
  · exact fun request index place => Nat.le_succ_of_le (noted.known request index place)
  · intro request _ same
    have holding : holder = .call request := congrArg Prod.fst (Option.some.inj same)
    exact noted.holder request replaced (by rw [held, holding])

variable {request : Nat} {next : SharedConnection} {failure : TransportFailure}

/-- The request is sent again, or its caller is told to retry. -/
theorem noted_resume (noted : Noted shared)
    (stage : (shared.calls request).stage = .reconnecting ∨ (shared.calls request).stage =
      .refreshing) (free : shared.holder = none) (resumed : shared.resume request = some next) :
    Noted next := by
  obtain ⟨failure, failed, resumed⟩ := Option.bind_eq_some_iff.mp resumed
  have single := noted.waiting request stage
  cases policy : SharedConnection.retryPolicy (shared.calls request) failure with
  | safeToRetry =>
    simp only [policy] at resumed
    obtain ⟨mux, stepped, rfl⟩ := Option.map_eq_some_iff.mp resumed
    have bound : Noted (shared.setCall request { shared.calls request with
        stage := .again, retried := some shared.latest }) := by
      apply noted_setCall noted
      · exact fun _ found => found
      · intro index found
        simp [single] at found
      · exact noted.failed request
      · intro index _
        unfold SharedConnection.retryPolicy at policy
        split at policy
        · rename_i unsent
          exact Or.inr ⟨failure, failed, unsent⟩
        · exact Or.inl policy
      · exact noted.known request
      · simp
      · simp
      · simp
      · simp [free]
    refine noted_setMux bound stepped nofun ?_
    rintro other control same
    cases same
    simp [SharedConnection.setCall]
  | unsafeToRetry =>
    simp only [policy, Option.some.injEq] at resumed
    subst resumed
    exact noted_setStage noted request _ rfl rfl rfl rfl (Or.inl rfl) (by simp [free])

theorem noted_step (noted : Noted shared) {action : SharedAction}
    (stepped : shared.step action = some next) : Noted next := by
  have nothing_held (request : Nat) (stage : (shared.calls request).stage ≠ .refreshing)
      (replaced : Bool) : shared.holder ≠ some (.call request, replaced) :=
    fun held => stage (noted.holder request replaced held)
  cases action with
  | issue request policy control =>
    simp only [SharedConnection.step, Option.ite_none_right_eq_some, Option.some.injEq] at stepped
    obtain ⟨absent, rfl⟩ := stepped
    obtain ⟨mux, failure, retried⟩ := noted.fresh request (Or.inl absent)
    apply noted_setCall noted
    · simp [mux]
    · simp [retried]
    · simp
    · simp
    · simp
    · simp
    · simp
    · simp
    · exact fun replaced held => absurd held (nothing_held request (by simp [absent]) replaced)
  | connect request =>
    simp only [SharedConnection.step, Option.ite_none_right_eq_some] at stepped
    obtain ⟨⟨connecting, free⟩, begun⟩ := stepped
    obtain ⟨mux, stepped, rfl⟩ := Option.map_eq_some_iff.mp begun
    obtain ⟨none, failure, retried⟩ := noted.fresh request (Or.inr connecting)
    have bound : Noted (shared.setCall request { shared.calls request with
        stage := .first, mux := some shared.latest }) := by
      apply noted_setCall noted
      · simp [none]
      · exact fun _ found => found
      · simp [failure]
      · simp [retried]
      · simp
      · simp
      · simp [failure, retried]
      · simp
      · simp [free]
    refine noted_setMux bound stepped ?_ nofun
    rintro other control same
    cases same
    simp [SharedConnection.setCall]
  | mux index action =>
    simp only [SharedConnection.step, Option.ite_none_right_eq_some, Option.map_eq_some_iff]
      at stepped
    obtain ⟨outside, mux, stepped, rfl⟩ := stepped
    apply noted_setMux noted stepped
    · rintro request control rfl
      cases outside
    · rintro request control rfl
      cases outside
  | firstReturns request =>
    simp only [SharedConnection.step, Option.ite_none_right_eq_some, Option.bind_eq_some_iff,
      Option.map_eq_some_iff] at stepped
    obtain ⟨first, index, place, result, returned, rfl⟩ := stepped
    have unheld := nothing_held request (by simp [first])
    obtain ⟨none, single⟩ := noted.returned request first
    cases result with
    | ok response => exact noted_setStage noted request _ rfl rfl rfl rfl (Or.inl rfl) unheld
    | error failure =>
      dsimp only [SharedConnection.firstReturns]
      split
      · apply noted_setCall noted
        · exact fun _ found => found
        · exact fun _ found => found
        · rintro other same
          cases same
          exact ⟨index, place, returned⟩
        · simp [single]
        · exact noted.known request
        · simp
        · simp
        · simp [single]
        · exact fun replaced held => absurd held (unheld replaced)
      · exact noted_setStage noted request _ rfl rfl rfl rfl (Or.inl rfl) unheld
  | reconnect request =>
    simp only [SharedConnection.step, Option.ite_none_right_eq_some] at stepped
    obtain ⟨⟨reconnecting, free⟩, stepped⟩ := stepped
    split at stepped
    · cases stepped
      have waits := noted.waiting request (Or.inl reconnecting)
      have bound : Noted (shared.setCall request { shared.calls request with
          stage := .refreshing }) := by
        apply noted_setCall noted
        · exact fun _ found => found
        · exact fun _ found => found
        · exact noted.failed request
        · exact noted.retried request
        · exact noted.known request
        · simp
        · simp
        · exact fun _ => waits
        · exact fun _ _ => rfl
      apply noted_setHolder bound
      rintro other replaced same
      cases same
      simp [SharedConnection.setCall]
    · exact noted_resume noted (Or.inl reconnecting) free stepped
  | heartbeatReconnects failed =>
    simp only [SharedConnection.step, Option.ite_none_right_eq_some, Option.some.injEq] at stepped
    obtain ⟨-, rfl⟩ := stepped
    exact noted_setHolder noted _ nofun
  | replace tagged ceiling =>
    simp only [SharedConnection.step] at stepped
    split at stepped
    · rename_i holder held
      cases stepped
      exact noted_replace noted held tagged ceiling
    · cases stepped
  | refreshFails error =>
    simp only [SharedConnection.step] at stepped
    split at stepped
    · rename_i holder held
      cases stepped
      have freed := noted_setHolder noted none nofun
      cases holder with
      | call request => exact noted_setStage freed request _ rfl rfl rfl rfl (Or.inl rfl) nofun
      | heartbeat => exact freed
    · cases stepped
  | refreshed =>
    simp only [SharedConnection.step] at stepped
    split at stepped
    · rename_i holder held
      have freed := noted_setHolder noted none nofun
      cases holder with
      | call request =>
        exact noted_resume freed (Or.inr (noted.holder request true held)) rfl stepped
      | heartbeat =>
        cases stepped
        exact freed
    · cases stepped
  | againReturns request =>
    simp only [SharedConnection.step, Option.ite_none_right_eq_some, Option.bind_eq_some_iff,
      Option.map_eq_some_iff] at stepped
    obtain ⟨again, index, place, result, returned, rfl⟩ := stepped
    exact noted_setStage noted request _ rfl rfl rfl rfl (Or.inl rfl)
      (nothing_held request (by simp [again]))
  | drop request =>
    simp only [SharedConnection.step, Option.ite_none_left_eq_some, Option.some.injEq] at stepped
    obtain ⟨-, rfl⟩ := stepped
    have freed := noted_setHolder noted
      (if Option.map Prod.fst shared.holder = some (.call request) then none else shared.holder)
      (by
        intro other replaced held
        split at held
        · cases held
        · exact noted.holder other replaced held)
    apply noted_setStage freed request { shared.calls request with stage := .dropped } rfl rfl rfl
      rfl (Or.inr rfl)
    intro replaced held
    dsimp only at held
    split at held
    · cases held
    · rename_i differs
      exact differs (by rw [held]; rfl)

theorem noted_run {trace : List SharedAction} {final : SharedConnection}
    (noted : Noted shared) (ran : exec SharedConnection.step shared trace = some final) :
    Noted final :=
  exec_invariant SharedConnection.step (fun _ _ => True) Noted
    (fun _ _ _ _ noted stepped => noted_step noted stepped) trace shared final noted
    (Admitted.of_forall (fun _ _ => trivial) shared) ran

/-- The record of a call changes, and keeps the failure of the first attempt. -/
theorem failure_setCall {other : Nat} {call : SharedCall}
    (kept : (shared.calls request).failure = some failure → call.failure = some failure)
    (found : (shared.calls other).failure = some failure) :
    ((shared.setCall request call).calls other).failure = some failure := by
  dsimp only [SharedConnection.setCall]
  rw [Function.update_apply]
  split
  · rename_i same
    exact kept (same ▸ found)
  · exact found

theorem failure_resume {other : Nat} (resumed : shared.resume request = some next)
    (found : (shared.calls other).failure = some failure) :
    (next.calls other).failure = some failure := by
  obtain ⟨known, failed, resumed⟩ := Option.bind_eq_some_iff.mp resumed
  split at resumed
  · obtain ⟨mux, -, rfl⟩ := Option.map_eq_some_iff.mp resumed
    exact failure_setCall id found
  · cases resumed
    exact failure_setCall id found

theorem failure_step (noted : Noted shared) {action : SharedAction}
    (stepped : shared.step action = some next)
    (found : (shared.calls request).failure = some failure) :
    (next.calls request).failure = some failure := by
  cases action with
  | issue other policy control =>
    simp only [SharedConnection.step, Option.ite_none_right_eq_some, Option.some.injEq] at stepped
    obtain ⟨absent, rfl⟩ := stepped
    obtain ⟨-, none, -⟩ := noted.fresh other (Or.inl absent)
    exact failure_setCall (by simp [none]) found
  | connect other =>
    simp only [SharedConnection.step, Option.ite_none_right_eq_some] at stepped
    obtain ⟨mux, -, rfl⟩ := Option.map_eq_some_iff.mp stepped.2
    exact failure_setCall id found
  | mux index action =>
    simp only [SharedConnection.step, Option.ite_none_right_eq_some, Option.map_eq_some_iff]
      at stepped
    obtain ⟨-, mux, -, rfl⟩ := stepped
    exact found
  | firstReturns other =>
    simp only [SharedConnection.step, Option.ite_none_right_eq_some, Option.bind_eq_some_iff,
      Option.map_eq_some_iff] at stepped
    obtain ⟨first, index, -, result, -, rfl⟩ := stepped
    obtain ⟨none, -⟩ := noted.returned other first
    cases result with
    | ok response => exact failure_setCall id found
    | error failure =>
      dsimp only [SharedConnection.firstReturns]
      split
      · exact failure_setCall (by simp [none]) found
      · exact failure_setCall id found
  | reconnect other =>
    simp only [SharedConnection.step, Option.ite_none_right_eq_some] at stepped
    obtain ⟨-, stepped⟩ := stepped
    split at stepped
    · cases stepped
      exact failure_setCall id found
    · exact failure_resume stepped found
  | heartbeatReconnects failed =>
    simp only [SharedConnection.step, Option.ite_none_right_eq_some, Option.some.injEq] at stepped
    obtain ⟨-, rfl⟩ := stepped
    exact found
  | replace tagged ceiling =>
    simp only [SharedConnection.step] at stepped
    split at stepped
    · cases stepped
      exact found
    · cases stepped
  | refreshFails error =>
    simp only [SharedConnection.step] at stepped
    split at stepped
    · rename_i holder _
      cases stepped
      cases holder with
      | call other => exact failure_setCall id found
      | heartbeat => exact found
    · cases stepped
  | refreshed =>
    simp only [SharedConnection.step] at stepped
    split at stepped
    · rename_i holder _
      cases holder with
      | call other => exact failure_resume stepped found
      | heartbeat =>
        cases stepped
        exact found
    · cases stepped
  | againReturns other =>
    simp only [SharedConnection.step, Option.ite_none_right_eq_some, Option.bind_eq_some_iff,
      Option.map_eq_some_iff] at stepped
    obtain ⟨-, index, -, result, -, rfl⟩ := stepped
    exact failure_setCall id found
  | drop other =>
    simp only [SharedConnection.step, Option.ite_none_left_eq_some, Option.some.injEq] at stepped
    obtain ⟨-, rfl⟩ := stepped
    exact failure_setCall id found

/-- What the first attempt failed with is known from then on. -/
theorem failure_run {trace : List SharedAction} {final : SharedConnection} (noted : Noted shared)
    (ran : exec SharedConnection.step shared trace = some final)
    (found : (shared.calls request).failure = some failure) :
    Noted final ∧ (final.calls request).failure = some failure :=
  exec_invariant SharedConnection.step (fun _ _ => True)
    (fun state => Noted state ∧ (state.calls request).failure = some failure)
    (fun _ _ _ _ held stepped => ⟨noted_step held.1 stepped, failure_step held.1 stepped held.2⟩)
    trace shared final ⟨noted, found⟩ (Admitted.of_forall (fun _ _ => trivial) shared) ran

/-! ### What is sent once -/

/-- What is handed over for a request is handed over on the connection it noted. -/
theorem handed_first (noted : Noted shared) {index : Nat}
    (handed : shared.HandedOn (.first request) index) :
    (shared.calls request).mux = some index := by
  apply noted.first index request
  intro absent
  have sent := (noted.handing index).sent (.first request) handed
  simp [absent, Phase.sent] at sent

theorem handed_again (noted : Noted shared) {index : Nat}
    (handed : shared.HandedOn (.again request) index) :
    (shared.calls request).retried = some index := by
  apply noted.again index request
  intro absent
  have sent := (noted.handing index).sent (.again request) handed
  simp [absent, Phase.sent] at sent

/-- After a failure that says so, nothing of the request was handed over by the first call. -/
theorem never_sent (noted : Noted shared) (failed : (shared.calls request).failure = some failure)
    (unsent : failure.neverSent = true) (index : Nat) :
    ¬ shared.HandedOn (.first request) index := by
  intro handed
  obtain ⟨place, noted', result⟩ := noted.failed request failure failed
  have same := handed_first noted handed
  rw [noted'] at same
  obtain rfl := Option.some.inj same
  exact (noted.handing place).results (.first request) failure result unsent handed

/-- The attempts of a request. -/
def Attempt.isOf (request : Nat) : Attempt → Bool
  | .first own => request = own
  | .again own => request = own
  | _ => false

/-- In every state reached, a request that is unsafe to retry was handed to at most one writer, and
at most once. A request that was sent again because its failure says that it was never sent was
not, and in no later state is, handed over or written by the first attempt. -/
theorem unsafe_sent_once (tagged : Bool) (ceiling : Nat) (trace : List SharedAction)
    (shared : SharedConnection)
    (ran : exec SharedConnection.step (.start tagged ceiling) trace = some shared)
    (request : Nat) :
    ((shared.calls request).policy = .unsafeToRetry →
      ∀ attempt other, attempt.isOf request = true → other.isOf request = true →
        ∀ index place, shared.HandedOn attempt index → shared.HandedOn other place →
          attempt = other ∧ index = place) ∧
      (∀ index, (shared.muxes index).handed.Nodup) ∧
      ∀ failure, (shared.calls request).failure = some failure → failure.neverSent = true →
        (shared.calls request).retried.isSome = true →
        ∀ later final, exec SharedConnection.step shared later = some final →
          ∀ index, ¬ final.HandedOn (.first request) index ∧
            .first request ∉ (final.muxes index).written := by
  have noted := noted_run (noted_start tagged ceiling) ran
  refine ⟨?_, fun index => (noted.handing index).once, ?_⟩
  · intro policy attempt other own also index place handed there
    -- the second attempt is made only after the first one was never sent
    have apart {index place : Nat} (first : shared.HandedOn (.first request) index)
        (again : shared.HandedOn (.again request) place) : False := by
      rcases noted.retried request place (handed_again noted again) with
        safe | ⟨failure, failed, unsent⟩
      · simp [policy] at safe
      · exact never_sent noted failed unsent index first
    cases attempt with
    | first own' =>
      obtain rfl : request = own' := by simpa [Attempt.isOf] using own
      cases other with
      | first also' =>
        obtain rfl : request = also' := by simpa [Attempt.isOf] using also
        have same := handed_first noted handed
        rw [handed_first noted there] at same
        exact ⟨rfl, (Option.some.inj same).symm⟩
      | again also' =>
        obtain rfl : request = also' := by simpa [Attempt.isOf] using also
        exact (apart handed there).elim
      | other number => cases also
    | again own' =>
      obtain rfl : request = own' := by simpa [Attempt.isOf] using own
      cases other with
      | first also' =>
        obtain rfl : request = also' := by simpa [Attempt.isOf] using also
        exact (apart there handed).elim
      | again also' =>
        obtain rfl : request = also' := by simpa [Attempt.isOf] using also
        have same := handed_again noted handed
        rw [handed_again noted there] at same
        exact ⟨rfl, (Option.some.inj same).symm⟩
      | other number => cases also
    | other number => cases own
  · intro failure failed unsent _ later final ran index
    obtain ⟨noted, failed⟩ := failure_run noted ran failed
    have unhanded := never_sent noted failed unsent index
    exact ⟨unhanded, fun member => unhanded ((noted.handing index).written _ member)⟩

/-- The steps of a connection up to the one at which a call registers its waiter. -/
def registering (index : Nat) (attempt : Attempt) : List SharedAction :=
  [.mux index (.acquire attempt), .mux index (.number attempt),
    .mux index (.encode attempt (.ok 64)), .mux index (.register attempt)]

/-- A request finds the connection closed, and is sent on the next one. -/
def refusedThenSent : List SharedAction :=
  ([.issue 0 .unsafeToRetry false, .mux 0 (.close .endOfFile), .connect 0] : List SharedAction) ++
    registering 0 (.first 0) ++
    ([.firstReturns 0, .reconnect 0, .replace true 660, .refreshed] : List SharedAction) ++
    registering 1 (.again 0) ++
    ([.mux 1 (.send (.again 0)), .mux 1 .write] : List SharedAction)

theorem unsafe_sent_once_refused :
    ∃ shared, exec SharedConnection.step (.start true 660) refusedThenSent = some shared ∧
      shared.HandedOn (.again 0) 1 ∧ ¬ shared.HandedOn (.first 0) 0 := by
  obtain ⟨shared, ran⟩ :
      ∃ shared, exec SharedConnection.step (.start true 660) refusedThenSent = some shared :=
    Option.isSome_iff_exists.mp (by decide +kernel)
  have reached : (exec SharedConnection.step (.start true 660) refusedThenSent).all
      (fun shared => decide ((shared.calls 0).failure = some (refusal "daemon closed connection") ∧
        (shared.calls 0).retried = some 1 ∧ (shared.muxes 1).handed = [.again 0])) = true := by
    decide +kernel
  rw [ran] at reached
  obtain ⟨failed, retried, handed⟩ : (shared.calls 0).failure =
      some (refusal "daemon closed connection") ∧ (shared.calls 0).retried = some 1 ∧
        (shared.muxes 1).handed = [.again 0] := by
    simpa using reached
  refine ⟨shared, ran, ?_, ?_⟩
  · simp [SharedConnection.HandedOn, handed]
  · exact ((unsafe_sent_once true 660 refusedThenSent shared ran 0).2.2 _ failed rfl
      (by rw [retried]; rfl) [] shared rfl 0).1

end Plug.Proxy
