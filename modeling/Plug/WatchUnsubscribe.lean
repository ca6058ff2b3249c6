import Plug.WatchSteps

/-!
# Unsubscribing is final

After an `unsubscribe` nothing of the subscription is left: it waits for the gate, so no
delivery and no other `subscribe` is under way, and it takes the subscription out of the state.
What stays queued has no subscription and is not posted. Only a `subscribe` that comes through
the gate later, of the same subscription, leads to another post.
-/

namespace Plug.Watch

open JsonValues Events Durable Runs

variable {env : Environment} {codec : Codec WatchState} {state next : System} {act : Act}
  {id client : String}

/-- Nobody has the subscription at hand. -/
structure Absent (id : String) (state : System) : Prop where
  memory : ∀ subscription ∈ state.cell.value.subscriptions, subscription.id ≠ id
  refreshing : ∀ held, state.refreshing = some held → held.call.target.id ≠ id
  delivering : ∀ delivery, state.delivering = some delivery →
    ∀ subscription, delivery.subscription? = some subscription → subscription.id ≠ id

/-- A request for this subscription is one of the client. -/
def Owns (env : Environment) (id client : String) (act : Act) : Prop :=
  ∀ watches other params target, act = .subscribe watches other params →
    identity env watches other params = .ok target → target.id = id → other = client

/-- The calls for this subscription are the client's. -/
def Owned (id client : String) (state : System) : Prop :=
  ∀ call ∈ state.waiting, call.target.id = id → call.clientId = client

theorem subscribe_call {degraded : Bool} {watches : List WatchConfig} {params : Value}
    {call : SubscribeCall} (subscribed : subscribe env degraded watches client params = .ok call) :
    identity env watches client params = .ok call.target ∧ call.clientId = client := by
  unfold subscribe at subscribed
  cases degraded with
  | true => cases subscribed
  | false =>
    cases known : identity env watches client params with
    | error error =>
      rw [known] at subscribed
      cases subscribed
    | ok target =>
      cases asked : requestedTerms env params with
      | error error =>
        rw [known, asked] at subscribed
        cases subscribed
      | ok terms =>
        rw [known, asked] at subscribed
        cases subscribed
        exact ⟨rfl, rfl⟩

/-! ### One step -/

theorem step_owned (owns : Owns env id client act) (owned : Owned id client state)
    (stepped : step env codec state act = some next) : Owned id client next := by
  cases step_effect stepped with
  | waits waiting known same =>
    subst same
    intro call member found
    rcases known call member with former | ⟨watches, other, params, asked, accepted⟩
    · exact owned call former found
    · obtain ⟨target, same⟩ := subscribe_call accepted
      exact same.trans (owns watches other params call.target asked target found)
  | entered index now permitted call refreshing asked found free fresh same =>
    subst same
    intro other member
    exact owned other (List.mem_of_mem_eraseIdx member)
  | challenged call current challenge held same => exact same ▸ owned
  | echoed call current challenge held same => exact same ▸ owned
  | stored call current now saving asked held done same => exact same ▸ owned
  | unstored call current now saving asked held failed same => exact same ▸ owned
  | abandoned same => exact same ▸ owned
  | unsubscribed other clientId cell saving free writes gone same => exact same ▸ owned
  | wrote cell saving issued asked writes kept more same => exact same ▸ owned
  | took subscription pending now asked free working due same => exact same ▸ owned
  | permitted subscription pending timestamp held same => exact same ▸ owned
  | discarded cell saving delivery held unsent writes sublist same => exact same ▸ owned
  | posted subscription pending timestamp held same => exact same ▸ owned
  | finished subscription pending status now saving asked held same => exact same ▸ owned
  | cancelled same => exact same ▸ owned
  | opened cell reopened same =>
    subst same
    intro call member
    cases member

/-- What is absent stays absent when subscriptions are only taken out. -/
theorem Absent.fewer (absent : Absent id state) {cell : Cell WatchState}
    (fewer : List.Sublist cell.value.subscriptions state.cell.value.subscriptions)
    (same : next.cell = cell)
    (refreshing : next.refreshing = none ∨ next.refreshing = state.refreshing)
    (delivering : next.delivering = none ∨ next.delivering = state.delivering) :
    Absent id next := by
  refine ⟨?_, ?_, ?_⟩
  · rw [same]
    intro subscription member
    exact absent.memory subscription (fewer.subset member)
  · intro held present
    exact absent.refreshing held (work_before refreshing present)
  · intro delivery present
    exact absent.delivering delivery (work_before delivering present)

/-- A `subscribe` of another subscription does not bring this one back. -/
theorem stored_absent {call : SubscribeCall} {current : Option Subscription} {stage : Stage}
    (absent : Absent id state) (held : state.refreshing = some ⟨call, current, stage⟩)
    (now : Nat) (saving : Saving) : ∀ subscription ∈ (state.cell.commit (file codec)
      (call.stored current now state.cell.value) saving).1.value.subscriptions,
      subscription.id ≠ id := by
  intro subscription member
  cases commit_value (file codec) state.cell (call.stored current now state.cell.value)
      saving with
  | inl former =>
    rw [former] at member
    exact absent.memory subscription member
  | inr written =>
    rw [written] at member
    cases List.mem_append.mp member with
    | inl earlier => exact absent.memory subscription (List.mem_filter.mp earlier).1
    | inr last =>
      rw [List.mem_singleton.mp last]
      exact absent.refreshing _ held

/-- What may follow an `unsubscribe` before another post. -/
def Resumes (id client : String) (event : Event) : Prop :=
  event = .opened ∨ ∃ secret, event = .entered id client secret

theorem step_absent (owned : Owned id client state) (absent : Absent id state)
    (stepped : step env codec state act = some next) :
    Absent id next ∨ ∃ event, next.log = state.log ++ [event] ∧ Resumes id client event := by
  have unmoved : List.Sublist state.cell.value.subscriptions
    state.cell.value.subscriptions := List.Sublist.refl _
  cases step_effect stepped with
  | waits waiting known same =>
    subst same
    exact Or.inl (absent.fewer unmoved rfl (Or.inr rfl) (Or.inr rfl))
  | entered index now permitted call refreshing asked found free fresh same =>
    subst same
    by_cases own : call.target.id = id
    · refine Or.inr ⟨_, rfl, Or.inr ⟨call.secret, ?_⟩⟩
      rw [own, owned call (List.mem_of_getElem? found) own]
    · refine Or.inl ⟨absent.memory, ?_, absent.delivering⟩
      intro held present
      rw [(fresh held present).1]
      exact own
  | challenged call current challenge held same =>
    subst same
    refine Or.inl ⟨absent.memory, ?_, absent.delivering⟩
    have apart := absent.refreshing _ held
    rintro other ⟨⟩
    exact apart
  | echoed call current challenge held same =>
    subst same
    refine Or.inl ⟨absent.memory, ?_, absent.delivering⟩
    have apart := absent.refreshing _ held
    rintro other ⟨⟩
    exact apart
  | stored call current now saving asked held done same =>
    subst same
    refine Or.inl ⟨?_, nofun, absent.delivering⟩
    exact stored_absent absent held now saving
  | unstored call current now saving asked held failed same =>
    subst same
    refine Or.inl ⟨?_, nofun, absent.delivering⟩
    exact stored_absent absent held now saving
  | abandoned same =>
    subst same
    exact Or.inl (absent.fewer unmoved rfl (Or.inl rfl) (Or.inr rfl))
  | unsubscribed other clientId cell saving free writes gone same =>
    subst same
    exact Or.inl (absent.fewer writes.subscriptions rfl (Or.inr rfl) (Or.inr rfl))
  | wrote cell saving issued asked writes kept more same =>
    subst same
    exact Or.inl (absent.fewer writes.subscriptions rfl (Or.inr rfl) (Or.inr rfl))
  | took subscription pending now asked free working due same =>
    subst same
    refine Or.inl ⟨absent.memory, absent.refreshing, ?_⟩
    rintro delivery ⟨⟩ found ⟨⟩
    exact absent.memory found (due_subscription due).1
  | permitted subscription pending timestamp held same =>
    subst same
    refine Or.inl ⟨absent.memory, absent.refreshing, ?_⟩
    rintro delivery ⟨⟩ found ⟨⟩
    exact absent.delivering _ held _ rfl
  | discarded cell saving delivery held unsent writes sublist same =>
    subst same
    exact Or.inl (absent.fewer writes.subscriptions rfl (Or.inr rfl) (Or.inl rfl))
  | posted subscription pending timestamp held same =>
    subst same
    refine Or.inl ⟨absent.memory, absent.refreshing, ?_⟩
    rintro delivery ⟨⟩ found ⟨⟩
    exact absent.delivering _ held _ rfl
  | finished subscription pending status now saving asked held same =>
    subst same
    refine Or.inl (absent.fewer ?_ rfl (Or.inr rfl) (Or.inl rfl))
    exact commit_holds (file codec) (fun value =>
      List.Sublist value.subscriptions state.cell.value.subscriptions) (List.Sublist.refl _)
      (answered_subscriptions _ _ _ _ _) saving
  | cancelled same =>
    subst same
    exact Or.inl (absent.fewer unmoved rfl (Or.inr rfl) (Or.inl rfl))
  | opened cell reopened same =>
    subst same
    exact Or.inr ⟨_, rfl, Or.inl rfl⟩

/-- What a post for the subscription looks like. -/
def PostsTo (id : String) (event : Event) : Prop :=
  (∃ eventId secrets timestamp degraded,
    event = .posted id eventId secrets timestamp degraded) ∨
  ∃ degraded, event = .verifying id degraded

theorem step_silent {event : Event} (absent : Absent id state) (posts : PostsTo id event)
    (stepped : step env codec state act = some next) : next.log ≠ state.log ++ [event] := by
  intro noted
  rcases posts with ⟨eventId, secrets, timestamp, degraded, rfl⟩ | ⟨degraded, rfl⟩
  · cases step_noted stepped noted with
    | posted subscription pending timestamp held => exact absent.delivering _ held _ rfl rfl
  · cases step_noted stepped noted with
    | challenged call current held => exact absent.refreshing _ held rfl

/-- The step that answers an `unsubscribe` leaves nothing of the subscription. -/
theorem step_unsubscribed (stepped : step env codec state act = some next)
    (noted : next.log = state.log ++ [.unsubscribed id client]) : Absent id next := by
  cases step_noted stepped noted with
  | unsubscribed id client cell free gone same =>
    subst same
    refine ⟨gone, ?_, ?_⟩
    · intro held present
      cases (gateFree_refreshing free).symm.trans present
    · intro delivery present
      cases (gateFree_delivering free).symm.trans present

/-! ### Runs -/

/-- Between an `unsubscribe` that returned no error and a later post for the subscription, the
client has subscribed again, or the component was opened again. -/
theorem unsubscribe_is_final (env : Environment) (codec : Codec WatchState)
    {trace : List Act} {final : System} {before between after : List Event} {last : Event}
    (owns : ∀ act ∈ trace, Owns env id client act)
    (ran : exec (step env codec) .new trace = some final) (posts : PostsTo id last)
    (split : final.log = before ++ .unsubscribed id client :: between ++ last :: after) :
    ∃ event ∈ between, Resumes id client event := by
  have admitted : Admitted (step env codec) (fun _ act => Owns env id client act) .new trace :=
    .of_forall owns _
  have none : Owned id client .new := fun _ member => absurd member List.not_mem_nil
  refine Histories.stopped_between (step_appends env codec) (Owned id client) (Absent id)
    (Resumes id client) ?_ ?_ ?_ ?_ none admitted ran split
  · intro state act next owns owned stepped
    exact step_owned owns owned stepped
  · intro state act next _ _ stepped noted
    exact step_unsubscribed stepped noted
  · intro state act next _ owned absent stepped
    exact step_absent owned absent stepped
  · intro state act next _ _ absent stepped
    exact step_silent absent posts stepped

/-- A subscription that is made, ended and made again. -/
def sampleReturn : List Act :=
  sampleSubscribe "https://a.example/" 'A' 60000 0 ++
    ([.unsubscribe [sampleWatch] "ann" (sampleParams "https://a.example/" 'A' 60000) .saved] :
      List Act) ++
    (sampleSubscribe "https://a.example/" 'A' 60000 1).take 3

theorem unsubscribe_is_final_sample : ∃ event ∈
    [Event.entered ("sub_" ++ sampleDigest []) "ann" (sampleSecret 'A')],
    Resumes ("sub_" ++ sampleDigest []) "ann" event := by
  have log : (exec (step (.sample sampleDigest) (.ofSerial WatchState.serial)) .new
      sampleReturn).map System.log = some (([
        .entered ("sub_" ++ sampleDigest []) "ann" (sampleSecret 'A'),
        .verifying ("sub_" ++ sampleDigest []) false,
        .stored ("sub_" ++ sampleDigest []) (sampleSecret 'A') none 0] : List Event) ++
        Event.unsubscribed ("sub_" ++ sampleDigest []) "ann" ::
          ([.entered ("sub_" ++ sampleDigest []) "ann" (sampleSecret 'A')] : List Event) ++
        ([.verifying ("sub_" ++ sampleDigest []) false] : List Event)) := by
    decide +kernel
  obtain ⟨final, ran, split⟩ := Option.map_eq_some_iff.mp log
  refine unsubscribe_is_final (.sample sampleDigest) (.ofSerial WatchState.serial)
    ?_ ran (Or.inr ⟨false, rfl⟩) split
  intro act member watches other params target asked _ _
  simp only [sampleReturn, sampleSubscribe, List.take, List.cons_append, List.nil_append,
    List.mem_cons, List.not_mem_nil, or_false] at member
  subst asked
  simp only [Act.subscribe.injEq, reduceCtorEq, or_false, false_or] at member
  rcases member with ⟨_, same, _⟩ | ⟨_, same, _⟩
  · exact same
  · exact same

end Plug.Watch
