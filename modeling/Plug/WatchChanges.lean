import Mathlib.Data.Set.Function
import Plug.JsonText
import Plug.WatchInvariants

/-!
# Changes that a watch reports

A check compares the result of a tool with the one before by their hashes, and queues an event for
each subscriber when they differ. The reference is a detector that remembers the last result that
was committed. `changes_queued` says that along every run of one process a check queues what the
detector reports, as far as the queue has room, and that nothing else queues an event.
-/

namespace Plug.Watch

open JsonValues Events Durable Runs

variable {env : Environment} {codec : Codec WatchState} {state next start : System}

/-! ### The reference -/

/-- A check as the detector sees it: the result, if there is one, and whether it was committed. -/
structure Report (Result : Type) where
  result : Option Result
  committed : Bool

section Detector

variable {Result : Type} {former : Option Result} {report : Report Result}

/-- The result that is known behind the report. -/
def Report.known (former : Option Result) (report : Report Result) : Option Result :=
  if report.committed then report.result.or former else former

/-- A change: a committed result that is not the one known before. The first one is none. -/
def Report.Changes (former : Option Result) (report : Report Result) : Prop :=
  report.committed ∧ ∃ previous ∈ former, ∃ result ∈ report.result, previous ≠ result

theorem known_mem {reports : List (Report Result)} {result : Result}
    (known : result ∈ reports.foldl Report.known former) :
    result ∈ former ∨ ∃ report ∈ reports, result ∈ report.result := by
  induction reports generalizing former with
  | nil => exact .inl known
  | cons report rest ih =>
    rcases ih known with now | ⟨later, member, held⟩
    · rw [Report.known] at now
      split_ifs at now
      · rcases Option.or_eq_some_iff.mp now with own | ⟨_, before⟩
        · exact .inr ⟨report, List.mem_cons_self, own⟩
        · exact .inl before
      · exact .inl now
    · exact .inr ⟨later, List.mem_cons_of_mem _ member, held⟩

end Detector

/-! ### Checks -/

def resultHash (env : Environment) (result : Value) : String :=
  env.digest (env.toVec result)

/-- The result of a check that is compared, with the body of its event: the tool may be called and
answers, and the body is small enough. -/
def usable (env : Environment) (watch : WatchConfig) (readOnly : Option Bool)
    (result : Option Value) (timestamp : Nat) (eventId : String) : Option (Value × List UInt8) :=
  match readOnly, result with
  | some readOnly, some result =>
    if readOnly || watch.allowWrites then
      (env.isoTime timestamp).bind fun time =>
        let body := eventBody env watch.eventName eventId time result
        if maxBody < body.length then none else some (result, body)
    else none
  | _, _ => none

/-- The events for the live subscriptions of a watch. -/
def announcements (value : WatchState) (event eventId : String) (body : List UInt8)
    (timestamp : Nat) : List Pending :=
  (value.subscriptions.filter fun subscription =>
    decide (subscription.event = event ∧ timestamp < subscription.expires)).map fun subscription =>
      ⟨subscription.id, eventId, body, 0, timestamp⟩

/-- What is queued is what there is room for. -/
theorem enqueue_take (pending : String → Pending) (ids : List String) (value : WatchState) :
    value.enqueue pending ids = { value with
      queue := value.queue ++ (ids.map pending).take (maxQueue - value.queue.length) } := by
  induction ids generalizing value with
  | nil => simp [WatchState.enqueue]
  | cons id rest ih =>
    rw [WatchState.enqueue]
    split
    · rename_i full
      rw [Nat.sub_eq_zero_of_le full, List.take_zero, List.append_nil]
    · rename_i room
      have more : maxQueue - value.queue.length = maxQueue - (value.queue.length + 1) + 1 := by
        omega
      rw [ih, more, List.map_cons, List.take_succ_cons, List.length_append,
        List.length_singleton, List.append_assoc, List.singleton_append]

theorem observed_queue (value : WatchState) (event eventId hash : String) (body : List UInt8)
    (timestamp : Nat) :
    (value.observed event eventId hash body timestamp).queue = value.queue ++
      if (Tables.get value.baselines event).isSome then
        (announcements value event eventId body timestamp).take (maxQueue - value.queue.length)
      else [] := by
  have known : Tables.containsKey value.baselines event =
      (Tables.get value.baselines event).isSome := by
    rw [Tables.get, Option.isSome_map, Tables.containsKey, List.isSome_find?]
  unfold WatchState.observed
  dsimp only
  rw [known]
  split
  · rw [enqueue_take, announcements, List.map_map]
    rfl
  · rw [List.append_nil]

theorem observed_baselines (value : WatchState) (event eventId hash : String) (body : List UInt8)
    (timestamp : Nat) :
    (value.observed event eventId hash body timestamp).baselines =
      Tables.insert value.baselines event hash := by
  unfold WatchState.observed
  dsimp only
  split
  · rw [enqueue_take]
  · rfl

/-- What a check does: nothing without a result that is compared or with the known one, and
otherwise a commit. -/
theorem check_eq (cell : Cell WatchState) (watch : WatchConfig) (readOnly : Option Bool)
    (result : Option Value) (timestamp : Nat) (eventId : String) (saving : Saving) :
    (usable env watch readOnly result timestamp eventId = none ∧
      (check env codec cell watch readOnly result timestamp eventId saving).2 = cell) ∨
    ∃ value body, usable env watch readOnly result timestamp eventId = some (value, body) ∧
      result = some value ∧
      check env codec cell watch readOnly result timestamp eventId saving =
        if Tables.get cell.value.baselines watch.eventName = some (resultHash env value) then
          (.ok (), cell)
        else
          let (next, done) := cell.commit (file codec)
            (cell.value.observed watch.eventName eventId (resultHash env value) body timestamp)
            saving
          (answer done (), next) := by
  unfold check usable
  cases readOnly with
  | none => exact .inl ⟨rfl, rfl⟩
  | some readOnly =>
    cases result with
    | none => exact .inl ⟨rfl, rfl⟩
    | some value =>
      dsimp only
      by_cases allowed : readOnly || watch.allowWrites
      · rw [if_pos allowed, if_pos allowed, isoTime]
        cases env.isoTime timestamp with
        | none => exact .inl ⟨rfl, rfl⟩
        | some time =>
          dsimp only [Option.bind_some]
          by_cases large : maxBody < (eventBody env watch.eventName eventId time value).length
          · rw [if_pos large, if_pos large]
            exact .inl ⟨rfl, rfl⟩
          · rw [if_neg large, if_neg large]
            exact .inr ⟨value, _, rfl, rfl, rfl⟩
      · rw [if_neg allowed, if_neg allowed]
        exact .inl ⟨rfl, rfl⟩

/-- A check against the detector: it keeps the hash of what is known, and queues events for a change
and for nothing else. One that is not committed leaves the state as it was. -/
structure Detects (env : Environment) (former : Option Value) (watch : WatchConfig)
    (eventId : String) (timestamp : Nat) (checked : Option (Value × List UInt8))
    (committed : Bool) (before after : WatchState) : Prop where
  baseline : Tables.get after.baselines watch.eventName =
    ((Report.mk (checked.map Prod.fst) committed).known former).map (resultHash env)
  changed : (Report.mk (checked.map Prod.fst) committed).Changes former →
    ∃ result body, checked = some (result, body) ∧ after.queue = before.queue ++
      (announcements before watch.eventName eventId body timestamp).take
        (maxQueue - before.queue.length)
  unchanged : ¬ (Report.mk (checked.map Prod.fst) committed).Changes former →
    after.queue = before.queue
  refused : committed = false → after = before

theorem check_detects {former : Option Value} (cell : Cell WatchState) (watch : WatchConfig)
    (readOnly : Option Bool) (result : Option Value) (timestamp : Nat) (eventId : String)
    (saving : Saving)
    (baseline : Tables.get cell.value.baselines watch.eventName = former.map (resultHash env))
    (apart : ∀ previous ∈ former, ∀ value ∈ result,
      resultHash env previous = resultHash env value → previous = value) :
    Detects env former watch eventId timestamp (usable env watch readOnly result timestamp eventId)
      (check env codec cell watch readOnly result timestamp eventId saving).1.isOk cell.value
      (check env codec cell watch readOnly result timestamp eventId saving).2.value := by
  rcases @check_eq env codec cell watch readOnly result timestamp eventId saving with
    ⟨unusable, same⟩ | ⟨value, body, checked, answered, same⟩
  · rw [unusable, same]
    refine ⟨?_, ?_, fun _ => rfl, fun _ => rfl⟩
    · rw [baseline, Report.known]
      split <;> rfl
    · rintro ⟨_, _, _, _, none, _⟩
      cases none
  · rw [checked, same]
    by_cases known : Tables.get cell.value.baselines watch.eventName = some (resultHash env value)
    · rw [if_pos known]
      rw [known] at baseline
      obtain ⟨previous, held, hashed⟩ := Option.map_eq_some_iff.mp baseline.symm
      obtain rfl := apart previous held value answered hashed
      refine ⟨known, ?_, fun _ => rfl, fun _ => rfl⟩
      rintro ⟨_, other, before, result, now, differs⟩
      cases held.symm.trans before
      cases now
      exact absurd rfl differs
    · rw [if_neg known]
      dsimp only
      cases done : (cell.commit (file codec) (cell.value.observed watch.eventName eventId
          (resultHash env value) body timestamp) saving).2 with
      | false =>
        have kept := (commit_refused done).1
        refine ⟨?_, ?_, fun _ => ?_, fun _ => kept⟩
        · rw [kept, baseline]
          rfl
        · rintro ⟨committed, _⟩
          cases committed
        · rw [kept]
      | true =>
        have taken := commit_taken done
        rw [taken]
        refine ⟨?_, ?_, ?_, fun refused => by cases refused⟩
        · rw [observed_baselines, Tables.get_insert_self]
          rfl
        · rintro ⟨_, previous, held, _⟩
          refine ⟨value, body, rfl, ?_⟩
          rw [observed_queue, baseline, held]
          rfl
        · intro still
          rw [observed_queue, baseline]
          cases former with
          | none => exact List.append_nil _
          | some previous =>
            refine absurd ⟨rfl, previous, rfl, value, rfl, ?_⟩ still
            rintro rfl
            exact known baseline

/-! ### Steps -/

/-- The report of a step on the event, if it is a check. -/
def reportOf (env : Environment) (codec : Codec WatchState) (event : String) (state : System) :
    Act → Option (Report Value)
  | .check watch readOnly result timestamp eventId saving =>
    if watch.eventName = event then
      some ⟨(usable env watch readOnly result timestamp eventId).map Prod.fst,
        (check env codec state.cell watch readOnly result timestamp eventId saving).1.isOk⟩
    else none
  | _ => none

/-- The reports of a run. -/
def reports (env : Environment) (codec : Codec WatchState) (event : String) :
    System → List Act → List (Report Value)
  | _, [] => []
  | state, act :: rest => (reportOf env codec event state act).toList ++
      match step env codec state act with
      | some next => reports env codec event next rest
      | none => []

theorem answered_baselines (value : WatchState) (subscription : Subscription) (pending : Pending)
    (status : Option Nat) (now : Nat) :
    (value.answered subscription pending status now).baselines = value.baselines := by
  unfold WatchState.answered
  split
  · dsimp only
    split <;> rfl
  · rfl

/-- The component is not opened again, and the watch of the event stays configured. -/
def Steady (event : String) : Act → Prop
  | .prune watches _ _ => event ∈ watches.map WatchConfig.eventName
  | .reopen => False
  | _ => True

def Act.isCheck : Act → Bool
  | .check .. => true
  | _ => false

/-- The states that steps other than checks leave in memory. -/
inductive Replaced (value : WatchState) (act : Act) : WatchState → Prop where
  | kept : Replaced value act value
  | stored (call : SubscribeCall) (current : Option Subscription) (now : Nat) :
      Replaced value act (call.stored current now value)
  | forgotten (id : String) : Replaced value act (value.forget id)
  | pruned (watches : List WatchConfig) (timestamp : Nat) (saving : Saving)
      (asked : act = .prune watches timestamp saving) :
      Replaced value act (value.pruned watches timestamp)
  | answered (subscription : Subscription) (pending : Pending) (status : Option Nat) (now : Nat) :
      Replaced value act (value.answered subscription pending status now)

variable {event : String} {act : Act}

theorem step_replaced (steady : Steady event act) (other : act.isCheck = false)
    (stepped : step env codec state act = some next) :
    Replaced state.cell.value act next.cell.value := by
  have committed {value : WatchState} (saving : Saving)
      (replaced : Replaced state.cell.value act value) :
      Replaced state.cell.value act (state.cell.commit (file codec) value saving).1.value :=
    commit_holds (file codec) (Replaced state.cell.value act) .kept replaced saving
  cases act with
  | subscribe watches clientId params =>
    simp only [step] at stepped
    split at stepped <;> cases stepped <;> exact .kept
  | enter index now permitted =>
    simp only [step] at stepped
    split at stepped
    · split at stepped
      · split at stepped <;> cases stepped <;> exact .kept
      · cases stepped
    · cases stepped
  | challenge challenge verification now =>
    simp only [step] at stepped
    split at stepped
    · split at stepped <;> cases stepped <;> exact .kept
    · cases stepped
  | echo response =>
    simp only [step] at stepped
    split at stepped
    · split at stepped <;> cases stepped <;> exact .kept
    · cases stepped
  | store now saving =>
    simp only [step] at stepped
    split at stepped
    · rename_i call current held
      cases stepped
      split
      · exact committed saving (.stored call current now)
      · exact committed saving (.stored call current now)
    · cases stepped
  | abandon =>
    simp only [step] at stepped
    split at stepped <;> cases stepped
    exact .kept
  | leave index =>
    cases stepped
    exact .kept
  | unsubscribe watches clientId params saving =>
    simp only [step] at stepped
    split at stepped
    · rename_i target known
      split at stepped
      · have replaced : Replaced state.cell.value (.unsubscribe watches clientId params saving)
            (unsubscribe codec state.cell target.id saving).2.value := by
          unfold unsubscribe
          split
          · exact committed saving (.forgotten target.id)
          · exact .kept
        cases stepped
        split
        · exact replaced
        · exact replaced
      · cases stepped
    · cases stepped
      exact .kept
  | check watch readOnly result timestamp eventId saving => cases other
  | prune watches timestamp saving =>
    simp only [step] at stepped
    split at stepped
    · cases stepped
      unfold prune
      dsimp only
      split
      · exact .kept
      · exact committed saving (.pruned watches timestamp saving rfl)
    · cases stepped
  | takeDue now =>
    simp only [step] at stepped
    split at stepped
    · split at stepped <;> cases stepped <;> exact .kept
    · cases stepped
  | decide watches permitted saving =>
    simp only [step] at stepped
    split at stepped
    · split at stepped
      · cases stepped
        exact .kept
      · cases stepped
        exact committed saving (.forgotten _)
    · cases stepped
  | post =>
    simp only [step] at stepped
    split at stepped
    · split at stepped <;> cases stepped <;> exact .kept
    · cases stepped
  | finish status now saving =>
    simp only [step] at stepped
    split at stepped
    · rename_i subscription pending held
      cases stepped
      exact committed saving (.answered subscription pending status now)
    · cases stepped
  | cancel =>
    cases stepped
    exact .kept
  | reopen => exact steady.elim

/-- Steps other than checks of the event leave its baseline alone. -/
theorem step_baseline (steady : Steady event act)
    (other : reportOf env codec event state act = none)
    (stepped : step env codec state act = some next) :
    Tables.get next.cell.value.baselines event = Tables.get state.cell.value.baselines event := by
  cases checks : act.isCheck with
  | false =>
    have replaced := step_replaced steady checks stepped
    generalize state.cell.value = before, next.cell.value = after at replaced ⊢
    cases replaced with
    | kept | stored | forgotten => rfl
    | pruned watches timestamp saving asked =>
      subst asked
      exact Tables.get_filter _ (fun name => decide (name ∈ watches.map WatchConfig.eventName))
        (decide_eq_true steady)
    | answered subscription pending status now => rw [answered_baselines]
  | true =>
    cases act with
    | check watch readOnly result timestamp eventId saving =>
      have apart : event ≠ watch.eventName := by
        rintro rfl
        rw [reportOf, if_pos rfl] at other
        cases other
      simp only [step] at stepped
      split at stepped
      · cases stepped
      · cases stepped
        rcases @check_eq env codec state.cell watch readOnly result timestamp eventId saving
          with ⟨_, same⟩ | ⟨value, body, _, _, same⟩
        · rw [same]
        · rw [same]
          split
          · rfl
          · refine commit_holds (file codec) (fun value =>
              Tables.get value.baselines event = Tables.get state.cell.value.baselines event) rfl ?_
              saving
            rw [observed_baselines, Tables.get_insert_of_ne apart]
    | _ => cases checks

/-! ### Runs -/

/-- All results that checks of the run were given. -/
def resultsOf (acts : List Act) : List Value :=
  acts.filterMap fun
    | .check _ _ result _ _ _ => result
    | _ => none

/-- No two of the results have the same hash. -/
def Apart (env : Environment) (former : Option Value) (acts : List Act) : Prop :=
  Set.InjOn (resultHash env) {result | result ∈ former ∨ result ∈ resultsOf acts}

theorem usable_result {watch : WatchConfig} {readOnly : Option Bool} {result : Option Value}
    {timestamp : Nat} {eventId : String} {value : Value} {body : List UInt8}
    (checked : usable env watch readOnly result timestamp eventId = some (value, body)) :
    result = some value := by
  unfold usable at checked
  split at checked
  · split at checked
    · obtain ⟨time, _, small⟩ := Option.bind_eq_some_iff.mp checked
      dsimp only at small
      split at small
      · cases small
      · cases small
        rfl
    · cases checked
  · cases checked

/-- A step with a report is a check of the event that was given its result. -/
theorem reportOf_result {report : Report Value} {value : Value}
    (reported : reportOf env codec event state act = some report) (held : value ∈ report.result) :
    value ∈ resultsOf [act] := by
  cases act with
  | check watch readOnly result timestamp eventId saving =>
    rw [reportOf] at reported
    split at reported
    · cases reported
      obtain ⟨⟨value, body⟩, checked, rfl⟩ := Option.map_eq_some_iff.mp held
      obtain rfl := usable_result checked
      exact List.mem_singleton.mpr rfl
    · cases reported
  | _ => cases reported

theorem resultsOf_cons (act : Act) (rest : List Act) :
    resultsOf (act :: rest) = resultsOf [act] ++ resultsOf rest := by
  rw [resultsOf, ← List.singleton_append, List.filterMap_append]
  rfl

/-- A check of the event moves the baseline as the detector does. -/
theorem step_known {former : Option Value} {report : Report Value}
    (baseline : Tables.get state.cell.value.baselines event = former.map (resultHash env))
    (apart : Apart env former [act]) (reported : reportOf env codec event state act = some report)
    (stepped : step env codec state act = some next) :
    Tables.get next.cell.value.baselines event = (report.known former).map (resultHash env) := by
  cases act with
  | check watch readOnly result timestamp eventId saving =>
    rw [reportOf] at reported
    split at reported
    · rename_i named
      subst named
      cases reported
      simp only [step] at stepped
      split at stepped
      · cases stepped
      · cases stepped
        refine (check_detects state.cell watch readOnly result timestamp eventId saving baseline
          ?_).baseline
        intro previous held value given
        refine apart (.inl held) (.inr ?_)
        rw [Option.mem_def.mp given]
        exact List.mem_singleton.mpr rfl
    · cases reported
  | _ => cases reported

theorem reports_results {acts : List Act} {report : Report Value} {value : Value}
    (member : report ∈ reports env codec event state acts) (held : value ∈ report.result) :
    value ∈ resultsOf acts := by
  induction acts generalizing state with
  | nil => cases member
  | cons act rest ih =>
    rw [resultsOf_cons]
    rw [reports] at member
    rcases List.mem_append.mp member with own | later
    · exact List.mem_append_left _ (reportOf_result (Option.mem_toList.mp own) held)
    · split at later
      · exact List.mem_append_right _ (ih later)
      · cases later

/-- Along a run the baseline is the hash of what the detector knows. -/
theorem run_baseline {former : Option Value} {acts : List Act}
    (baseline : Tables.get start.cell.value.baselines event = former.map (resultHash env))
    (steady : ∀ act ∈ acts, Steady event act) (apart : Apart env former acts)
    (ran : exec (step env codec) start acts = some state) :
    Tables.get state.cell.value.baselines event =
      ((reports env codec event start acts).foldl Report.known former).map (resultHash env) := by
  induction acts generalizing start former with
  | nil =>
    cases ran
    exact baseline
  | cons act rest ih =>
    obtain ⟨next, stepped, continued⟩ := exec_cons _ start state act rest ran
    rw [reports, stepped, List.foldl_append]
    refine ih ?_ (fun other member => steady other (List.mem_cons_of_mem act member))
      ?_ continued
    · cases reported : reportOf env codec event start act with
      | none =>
        exact (step_baseline (steady act List.mem_cons_self) reported
          stepped).trans baseline
      | some report =>
        refine step_known baseline (apart.mono ?_) reported stepped
        rintro result (held | given)
        · exact .inl held
        · refine .inr ?_
          rw [resultsOf_cons]
          exact List.mem_append_left _ given
    · refine apart.mono ?_
      have known : ∀ result ∈ ((reportOf env codec event start act).toList).foldl Report.known former,
          result ∈ former ∨ result ∈ resultsOf [act] := by
        intro result member
        refine (known_mem member).imp_right ?_
        rintro ⟨report, reported, held⟩
        exact reportOf_result (Option.mem_toList.mp reported) held
      rintro result (held | given)
      · refine (known result held).imp_right fun own => ?_
        rw [resultsOf_cons]
        exact List.mem_append_left _ own
      · refine .inr ?_
        rw [resultsOf_cons]
        exact List.mem_append_right _ given

/-! ### What else is queued -/

def Pending.key (pending : Pending) : String × String :=
  (pending.subscriptionId, pending.eventId)

/-- Each job of the queue was in the other one, perhaps with fewer attempts. -/
def From (before after : List Pending) : Prop :=
  ∀ pending ∈ after, ∃ earlier ∈ before, earlier.key = pending.key

theorem stored_queue (call : SubscribeCall) (current : Option Subscription) (now : Nat)
    (value : WatchState) :
    List.Sublist (call.stored current now value).queue value.queue := by
  unfold SubscribeCall.stored
  dsimp only
  split
  · exact List.Sublist.refl _
  · exact List.filter_sublist

theorem From.refl (queue : List Pending) : From queue queue :=
  fun pending member => ⟨pending, member, rfl⟩

theorem From.sublist {before after : List Pending} (sublist : List.Sublist after before) :
    From before after :=
  fun pending member => ⟨pending, sublist.subset member, rfl⟩

theorem answered_from (value : WatchState) (subscription : Subscription) (pending : Pending)
    (status : Option Nat) (now : Nat) :
    From value.queue (value.answered subscription pending status now).queue := by
  unfold WatchState.answered
  split
  · dsimp only
    split
    · exact .sublist (List.filter_sublist.trans List.filter_sublist)
    · exact .sublist List.filter_sublist
  · intro job member
    rcases Queues.mem_modifyFirst member with same | ⟨other, present, _, rfl⟩
    · exact ⟨job, same, rfl⟩
    · exact ⟨other, present, rfl⟩

/-- Steps other than checks queue nothing. -/
theorem step_from (steady : Steady event act) (other : act.isCheck = false)
    (stepped : step env codec state act = some next) :
    From state.cell.value.queue next.cell.value.queue := by
  have replaced := step_replaced steady other stepped
  generalize state.cell.value = before, next.cell.value = after at replaced ⊢
  cases replaced with
  | kept => exact .refl _
  | stored call current now => exact .sublist (stored_queue call current now before)
  | forgotten id => exact .sublist List.filter_sublist
  | pruned watches timestamp saving asked => exact .sublist List.filter_sublist
  | answered subscription pending status now =>
    exact answered_from _ subscription pending status now

/-- Along every run of one process in which the watch stays configured and no two results have one
hash, each check does what the detector says: it queues an event for each live subscription, as far
as the queue has room, if its result is another one than the last committed, and nothing otherwise.
One that is not committed leaves the state as it was. No other step queues an event. -/
theorem changes_queued {former : Option Value} {acts : List Act} {watch : WatchConfig}
    {readOnly : Option Bool} {result : Option Value} {timestamp : Nat} {eventId : String}
    {saving : Saving}
    (baseline : Tables.get start.cell.value.baselines watch.eventName =
      former.map (resultHash env))
    (ran : exec (step env codec) start acts = some state)
    (steady : ∀ act ∈ acts, Steady watch.eventName act)
    (apart : Apart env former
      (acts ++ [.check watch readOnly result timestamp eventId saving]))
    (stepped : step env codec state (.check watch readOnly result timestamp eventId saving) =
      some next) :
    Detects env ((reports env codec watch.eventName start acts).foldl Report.known former) watch
        eventId timestamp (usable env watch readOnly result timestamp eventId)
        (check env codec state.cell watch readOnly result timestamp eventId saving).1.isOk
        state.cell.value next.cell.value ∧
      ∀ act other, Steady watch.eventName act → act.isCheck = false →
        step env codec state act = some other →
          From state.cell.value.queue other.cell.value.queue := by
  have earlier : resultsOf acts ⊆
      resultsOf (acts ++ [.check watch readOnly result timestamp eventId saving]) := by
    rw [resultsOf, resultsOf, List.filterMap_append]
    exact List.subset_append_left _ _
  have known := run_baseline baseline steady (apart.mono (Set.union_subset_union_right _ earlier)) ran
  refine ⟨?_, fun _ _ steady unchecked moved => step_from steady unchecked moved⟩
  simp only [step] at stepped
  split at stepped
  · cases stepped
  · cases stepped
    refine check_detects state.cell watch readOnly result timestamp eventId saving known ?_
    intro previous held value given
    refine apart ((known_mem held).imp_right ?_) (.inr ?_)
    · rintro ⟨report, member, reported⟩
      exact earlier (reports_results member reported)
    · rw [resultsOf, List.filterMap_append, Option.mem_def.mp given]
      exact List.mem_append_right _ (List.mem_singleton.mpr rfl)

/-! ### Fixed inputs -/

/-- Results are written as they are sent; the hashes are those that SHA-256 gives. -/
def changeEnvironment : Environment :=
  { resultEnvironment with
    toVec := fun value => value.write.map fun character => character.toNat.toUInt8 }

/-- One live subscription, and the first result as the baseline. -/
def changeStart (queue : List Pending) : System where
  cell := .new ⟨1,
    [⟨"sub_a", "ann", "shop.orders", "https://a.example/", "s", none, 0, 900, 900⟩],
    [("shop.orders", resultHash changeEnvironment (sampleResult "1"))], queue⟩
  waiting := []
  refreshing := none
  delivering := none
  stopped := false
  issued := []
  log := []

def changeCheck (result : Value) : Act :=
  .check sampleWatch (some true) (some result) 100 "evt_a" .saved

theorem hashes_differ : resultHash changeEnvironment (sampleResult "1") ≠
    resultHash changeEnvironment (sampleResult "2") := by
  decide +kernel

/-- Another result is announced to the subscriber. -/
theorem changes_queued_orders :
    ∃ next, step changeEnvironment (.ofSerial WatchState.serial) (changeStart [])
        (changeCheck (sampleResult "2")) = some next ∧
      next.cell.value.queue.map Pending.key = [("sub_a", "evt_a")] := by
  have taken : (step changeEnvironment (.ofSerial WatchState.serial) (changeStart [])
      (changeCheck (sampleResult "2"))).isSome := by
    decide +kernel
  obtain ⟨next, stepped⟩ := Option.isSome_iff_exists.mp taken
  have apart : Apart changeEnvironment (some (sampleResult "1"))
      ([] ++ [changeCheck (sampleResult "2")]) := by
    rintro first (held | given) second (held' | given') same
    · exact Option.some.inj (held.symm.trans held')
    · cases held
      cases List.mem_singleton.mp given'
      exact absurd same hashes_differ
    · cases held'
      cases List.mem_singleton.mp given
      exact absurd same.symm hashes_differ
    · exact (List.mem_singleton.mp given).trans (List.mem_singleton.mp given').symm
  have baseline : Tables.get (changeStart []).cell.value.baselines sampleWatch.eventName =
      (some (sampleResult "1")).map (resultHash changeEnvironment) := by
    decide +kernel
  have steady : ∀ act ∈ ([] : List Act), Steady sampleWatch.eventName act :=
    fun _ member => absurd member List.not_mem_nil
  have detects := (changes_queued baseline rfl steady apart stepped).1
  have compared : (usable changeEnvironment sampleWatch (some true) (some (sampleResult "2")) 100
      "evt_a").isSome := by
    decide +kernel
  have committed : (check changeEnvironment (.ofSerial WatchState.serial) (changeStart []).cell
      sampleWatch (some true) (some (sampleResult "2")) 100 "evt_a" .saved).1.isOk := by
    decide +kernel
  obtain ⟨⟨value, body⟩, checked⟩ := Option.isSome_iff_exists.mp compared
  obtain rfl := Option.some.inj (usable_result checked)
  have differs : sampleResult "1" ≠ sampleResult "2" := fun same =>
    hashes_differ (congrArg (resultHash changeEnvironment) same)
  rw [reports, List.foldl_nil, checked, committed] at detects
  have changes : (Report.mk (some (sampleResult "2")) true).Changes (some (sampleResult "1")) :=
    ⟨rfl, _, rfl, _, rfl, differs⟩
  obtain ⟨_, _, same, queued⟩ := detects.changed changes
  refine ⟨next, stepped, ?_⟩
  rw [queued]
  cases same
  rfl

/-- As many events for another subscriber as the queue holds. -/
def fullQueue : List Pending :=
  List.replicate maxQueue ⟨"sub_b", "evt_b", [], 0, 0⟩

/-- A result that is longer than the body of an event may be. -/
def longResult : Value :=
  .string (String.ofList (List.replicate maxBody 'a'))

theorem letters_write (count : Nat) :
    (Value.string (String.ofList (List.replicate count 'a'))).write.length = count + 2 := by
  have plain : (String.ofList (List.replicate count 'a')).toList.all isPlain := by
    rw [String.toList_ofList, List.all_replicate]
    split
    · rfl
    · decide
  rw [Value.write, writeString_plain plain, String.toList_ofList]
  simp

/-- A result that is too long is not compared. -/
theorem long_unannounced {result : Value} (long : maxBody ≤ result.write.length) :
    ∃ next, step changeEnvironment (.ofSerial WatchState.serial) (changeStart [])
        (changeCheck result) = some next ∧ next.cell.value = (changeStart []).cell.value := by
  have large (time : String) : maxBody <
      (eventBody changeEnvironment sampleWatch.eventName "evt_a" time result).length := by
    simp only [eventBody, changeEnvironment, List.length_map, Value.write, writeMembers,
      List.length_cons, List.length_append]
    omega
  have unusable : usable changeEnvironment sampleWatch (some true) (some result) 100 "evt_a" =
      none := by
    rw [usable, Bool.true_or, if_pos rfl]
    cases changeEnvironment.isoTime 100 with
    | none => rfl
    | some time => exact if_pos (large time)
  have unissued : "evt_a" ∉ (changeStart []).issued := List.not_mem_nil
  rw [changeCheck, step, if_neg unissued]
  refine ⟨_, rfl, ?_⟩
  rcases check_eq (changeStart []).cell sampleWatch (some true) (some result) 100 "evt_a"
      .saved with ⟨_, same⟩ | ⟨value, body, checked, _⟩
  · exact congrArg Cell.value same
  · rw [unusable] at checked
    cases checked

/-- With a full queue a change is not announced though it is committed, and a result that is too
long is not compared. -/
theorem changes_unannounced :
    (∃ next, step changeEnvironment (.ofSerial WatchState.serial) (changeStart fullQueue)
        (changeCheck (sampleResult "2")) = some next ∧
      next.cell.value.queue = fullQueue ∧
      Tables.get next.cell.value.baselines "shop.orders" =
        some (resultHash changeEnvironment (sampleResult "2"))) ∧
    ∃ next, step changeEnvironment (.ofSerial WatchState.serial) (changeStart [])
        (changeCheck longResult) = some next ∧
      next.cell.value = (changeStart []).cell.value := by
  constructor
  · have full : (step changeEnvironment (.ofSerial WatchState.serial) (changeStart fullQueue)
        (changeCheck (sampleResult "2"))).map (fun next => (next.cell.value.queue,
          Tables.get next.cell.value.baselines "shop.orders")) =
        some (fullQueue, some (resultHash changeEnvironment (sampleResult "2"))) := by
      decide +kernel
    obtain ⟨next, stepped, same⟩ := Option.map_eq_some_iff.mp full
    obtain ⟨queue, baseline⟩ := Prod.mk.inj same
    exact ⟨next, stepped, queue, baseline⟩
  · have long : longResult.write.length = maxBody + 2 := letters_write maxBody
    exact long_unannounced (by omega)

end Plug.Watch
