import Plug.SlackInvariants
import Plug.WatchInvariants

/-!
# Rotated secrets

A subscription signs with its secret, and until a deadline with the one before. When another
secret is stored, the former one is given up: from then on it is no subscription's secret, and as
an old secret it has the deadline of that moment. Only a `subscribe` that supplies it again ends
this.
-/

namespace Plug

namespace Events

/-- A secret that was given up: it signs until a time at most. -/
structure Retired (former : String) (limit : Nat) (secret : String) (oldSecret : Option String)
    (oldSecretUntil : Nat) : Prop where
  differs : secret ≠ former
  ends : oldSecret = some former → oldSecretUntil ≤ limit

theorem Retired.signs {former secret : String} {limit oldSecretUntil timestamp : Nat}
    {oldSecret : Option String} (retired : Retired former limit secret oldSecret oldSecretUntil)
    (signs : former ∈ signers secret oldSecret oldSecretUntil timestamp) : timestamp < limit := by
  cases List.mem_cons.mp signs with
  | inl current => exact absurd current.symm retired.differs
  | inr old =>
    obtain ⟨known, early⟩ := Option.filter_eq_some_iff.mp (Option.mem_toList.mp old)
    exact Nat.lt_of_lt_of_le (of_decide_eq_true early) (retired.ends known)

end Events

namespace Watch

open JsonValues Events Durable Runs

variable {env : Environment} {codec : Codec WatchState} {state next : System} {act : Act}
  {id former : String} {limit : Nat}

def Subscription.Retired (subscription : Subscription) (former : String) (limit : Nat) : Prop :=
  Events.Retired former limit subscription.secret subscription.oldSecret
    subscription.oldSecretUntil

/-- What a `subscribe` has read behind the gate is as it has read it. -/
structure Gated (state : System) : Prop where
  exclusive : state.refreshing = none ∨ state.delivering = none
  read : ∀ held, state.refreshing = some held →
    held.current = state.cell.value.subscription? held.call.target.id

/-- The subscription has given up a secret, wherever it is found. -/
structure Retiring (codec : Codec WatchState) (id former : String) (limit : Nat)
    (state : System) : Prop where
  kept : Kept (file codec) (fun value => ∀ subscription ∈ value.subscriptions,
    subscription.id = id → subscription.Retired former limit) state.cell
  refreshing : ∀ held, state.refreshing = some held → held.call.target.id = id →
    held.call.secret ≠ former
  delivering : ∀ delivery subscription, state.delivering = some delivery →
    delivery.subscription? = some subscription → subscription.id = id →
    subscription.Retired former limit

/-! ### Storing -/

theorem subscription?_mem {value : WatchState} {subscription : Subscription}
    (found : value.subscription? id = some subscription) :
    subscription ∈ value.subscriptions ∧ subscription.id = id := by
  have meets := List.find?_some (show List.find? _ _ = _ from found)
  exact ⟨List.mem_of_find?_eq_some found, of_decide_eq_true meets⟩

/-- The secret of the subscription that is replaced becomes the old one. -/
theorem refreshed_former {call : SubscribeCall} {subscription : Subscription}
    (differs : call.secret ≠ subscription.secret) (now : Nat) :
    (call.refreshed (some subscription) now).Retired subscription.secret (now + 300) := by
  refine ⟨differs, fun _ => Nat.le_of_eq ?_⟩
  by_cases live : now < subscription.expires
  · simp [SubscribeCall.refreshed, Option.filter_some, live, differs.symm]
  · simp [SubscribeCall.refreshed, Option.filter_some, live]

/-- A secret that was given up before is not taken up again. -/
theorem refreshed_retired {call : SubscribeCall} {current : Option Subscription}
    (supplied : call.secret ≠ former)
    (retired : ∀ subscription, current = some subscription → subscription.Retired former limit)
    (now : Nat) : (call.refreshed current now).Retired former limit := by
  refine ⟨supplied, ?_⟩
  cases current with
  | none => exact nofun
  | some subscription =>
    obtain ⟨differs, ends⟩ := retired subscription rfl
    by_cases live : now < subscription.expires
    · by_cases kept : subscription.secret = call.secret
      · -- The same secret again: the old one stays as it is, or its time is over.
        simp only [SubscribeCall.refreshed, Option.filter_some, live, kept, decide_true,
          decide_false, ne_eq, not_true_eq_false, Bool.false_eq_true, if_true, if_false,
          Option.map_none, Option.none_or, Option.map_some, Option.getD_some]
        split
        · exact ends
        · exact nofun
      · simp only [SubscribeCall.refreshed, Option.filter_some, live, kept, decide_true,
          decide_false, ne_eq, not_false_eq_true, Bool.false_eq_true, if_true, if_false,
          Option.map_some, Option.some_or]
        intro old
        exact absurd (Option.some.inj old) differs
    · simp [SubscribeCall.refreshed, Option.filter_some, live]

/-! ### One step -/

theorem step_gated (gated : Gated state) (stepped : step env codec state act = some next) :
    Gated next := by
  obtain ⟨exclusive, read⟩ := gated
  have free_of {other : System} (refreshing : other.refreshing = none) : Gated other :=
    ⟨Or.inl refreshing, fun held present => nomatch refreshing.symm.trans present⟩
  -- What was read stays when the subscriptions do.
  have still {other : System} (refreshing : other.refreshing = state.refreshing)
      (delivering : other.delivering = none ∨ other.delivering = state.delivering)
      (same : state.refreshing.isSome = true →
        other.cell.value.subscriptions = state.cell.value.subscriptions) : Gated other := by
    refine ⟨?_, ?_⟩
    · rw [refreshing]
      cases delivering with
      | inl none => exact Or.inr none
      | inr kept =>
        rw [kept]
        exact exclusive
    · intro held present
      rw [refreshing] at present
      have unmoved := same (present ▸ rfl)
      rw [WatchState.subscription?, unmoved]
      exact read held present
  have delivers {delivery : Delivery} (held : state.delivering = some delivery) :
      state.refreshing = none :=
    exclusive.resolve_right fun none => nomatch none.symm.trans held
  have refreshes {held : Refreshing} (present : state.refreshing = some held) :
      state.delivering = none :=
    exclusive.resolve_left fun none => nomatch none.symm.trans present
  cases step_effect stepped with
  | waits waiting known same =>
    subst same
    exact still rfl (Or.inr rfl) fun _ => rfl
  | entered index now permitted call refreshing asked found free fresh same =>
    have idle := gateFree_delivering free
    subst same
    refine ⟨Or.inr idle, ?_⟩
    intro held present
    rw [(fresh held present).2.1, (fresh held present).1]
    rfl
  | challenged call current challenge held same =>
    have before := read _ held
    subst same
    refine ⟨Or.inr (refreshes held), ?_⟩
    rintro other ⟨⟩
    exact before
  | echoed call current challenge held same =>
    have before := read _ held
    subst same
    refine ⟨Or.inr (refreshes held), ?_⟩
    rintro other ⟨⟩
    exact before
  | stored call current now saving asked held done same => exact same ▸ free_of rfl
  | unstored call current now saving asked held failed same => exact same ▸ free_of rfl
  | abandoned same => exact same ▸ free_of rfl
  | unsubscribed other clientId cell saving free writes gone same =>
    subst same
    exact free_of (gateFree_refreshing free)
  | wrote cell saving issued asked writes kept more same =>
    subst same
    exact still rfl (Or.inr rfl) kept
  | took subscription pending now asked free working due same =>
    have none := gateFree_refreshing free
    subst same
    exact free_of none
  | permitted subscription pending timestamp held same =>
    subst same
    exact free_of (delivers held)
  | discarded cell saving delivery held unsent writes sublist same =>
    subst same
    exact free_of (delivers held)
  | posted subscription pending timestamp held same =>
    subst same
    exact free_of (delivers held)
  | finished subscription pending status now saving asked held same =>
    subst same
    exact free_of (delivers held)
  | cancelled same =>
    subst same
    exact still rfl (Or.inl rfl) fun _ => rfl
  | opened cell reopened same =>
    subst same
    exact free_of rfl

/-- A `subscribe` supplies the secret, for the subscription. -/
def Supplies (id secret : String) (event : Event) : Prop :=
  ∃ clientId, event = .entered id clientId secret

/-- A call or a delivery that ends, or goes on as it was, changes nothing. -/
theorem Retiring.still (retiring : Retiring codec id former limit state)
    (kept : Kept (file codec) (fun value => ∀ subscription ∈ value.subscriptions,
      subscription.id = id → subscription.Retired former limit) next.cell)
    (refreshing : next.refreshing = none ∨ next.refreshing = state.refreshing)
    (delivering : next.delivering = none ∨ next.delivering = state.delivering) :
    Retiring codec id former limit next := by
  refine ⟨kept, ?_, ?_⟩
  · intro held present
    exact retiring.refreshing held (work_before refreshing present)
  · intro delivery subscription present
    exact retiring.delivering delivery subscription (work_before delivering present)

theorem step_retiring (faithful : codec.Faithful) (gated : Gated state)
    (retiring : Retiring codec id former limit state)
    (stepped : step env codec state act = some next) :
    Retiring codec id former limit next ∨
      ∃ event, next.log = state.log ++ [event] ∧ Supplies id former event := by
  have kept : Kept (file codec) (fun value => ∀ subscription ∈ value.subscriptions,
      subscription.id = id → subscription.Retired former limit) next.cell := by
    refine step_kept faithful (fun _ member => absurd member List.not_mem_nil) retiring.kept
      (fun _ good => good) ?_ stepped
    intro value written
    cases written with
    | written value write =>
      exact fun subscription member => retiring.kept.value subscription (write.subscriptions.subset member)
    | stored call current now asked held =>
      intro subscription member own
      cases List.mem_append.mp member with
      | inl earlier => exact retiring.kept.value subscription (List.mem_filter.mp earlier).1 own
      | inr last =>
        obtain rfl := List.mem_singleton.mp last
        refine refreshed_retired (retiring.refreshing _ held own) ?_ now
        intro subscription found
        obtain ⟨member, same⟩ := subscription?_mem ((gated.read _ held).symm.trans found)
        exact retiring.kept.value subscription member (same.trans own)
    | answered subscription pending status now held =>
      exact fun other member => retiring.kept.value other
        ((answered_subscriptions _ subscription pending status now).subset member)
  cases step_effect stepped with
  | waits waiting known same =>
    subst same
    exact Or.inl (retiring.still kept (Or.inr rfl) (Or.inr rfl))
  | entered index now permitted call taken asked found free fresh same =>
    subst same
    by_cases supplied : call.target.id = id ∧ call.secret = former
    · obtain ⟨rfl, rfl⟩ := supplied
      exact Or.inr ⟨_, rfl, call.clientId, rfl⟩
    · refine Or.inl ⟨kept, ?_, retiring.delivering⟩
      intro held present own secret
      rw [(fresh held present).1] at own secret
      exact supplied ⟨own, secret⟩
  | challenged call current challenge held same =>
    have before := retiring.refreshing _ held
    subst same
    refine Or.inl ⟨kept, ?_, retiring.delivering⟩
    rintro other ⟨⟩
    exact before
  | echoed call current challenge held same =>
    have before := retiring.refreshing _ held
    subst same
    refine Or.inl ⟨kept, ?_, retiring.delivering⟩
    rintro other ⟨⟩
    exact before
  | stored call current now saving asked held done same =>
    subst same
    exact Or.inl (retiring.still kept (Or.inl rfl) (Or.inr rfl))
  | unstored call current now saving asked held failed same =>
    subst same
    exact Or.inl (retiring.still kept (Or.inl rfl) (Or.inr rfl))
  | abandoned same =>
    subst same
    exact Or.inl (retiring.still kept (Or.inl rfl) (Or.inr rfl))
  | unsubscribed other clientId cell saving free writes gone same =>
    subst same
    exact Or.inl (retiring.still kept (Or.inr rfl) (Or.inr rfl))
  | wrote cell saving issued asked writes unmoved more same =>
    subst same
    exact Or.inl (retiring.still kept (Or.inr rfl) (Or.inr rfl))
  | took subscription pending now asked free working due same =>
    subst same
    refine Or.inl ⟨kept, retiring.refreshing, ?_⟩
    rintro delivery found ⟨⟩ same
    obtain rfl : subscription = some found := same
    exact retiring.kept.value found (due_subscription due).1
  | permitted subscription pending timestamp held same =>
    subst same
    refine Or.inl ⟨kept, retiring.refreshing, ?_⟩
    rintro delivery found ⟨⟩ ⟨⟩
    exact retiring.delivering _ _ held rfl
  | discarded cell saving delivery held unsent writes sublist same =>
    subst same
    exact Or.inl (retiring.still kept (Or.inr rfl) (Or.inl rfl))
  | posted subscription pending timestamp held same =>
    subst same
    refine Or.inl ⟨kept, retiring.refreshing, ?_⟩
    rintro delivery found ⟨⟩ ⟨⟩
    exact retiring.delivering _ _ held rfl
  | finished subscription pending status now saving asked held same =>
    subst same
    exact Or.inl (retiring.still kept (Or.inr rfl) (Or.inl rfl))
  | cancelled same =>
    subst same
    exact Or.inl (retiring.still kept (Or.inr rfl) (Or.inl rfl))
  | opened cell reopened same =>
    subst same
    exact Or.inl (retiring.still kept (Or.inl rfl) (Or.inl rfl))

/-- The step that stores another secret gives up the former one. -/
theorem step_rotated {secret : String} {timestamp : Nat} (gated : Gated state)
    (differs : secret ≠ former) (stepped : step env codec state act = some next)
    (noted : next.log = state.log ++ [.stored id secret (some former) timestamp]) :
    Retiring codec id former (timestamp + 300) next := by
  generalize event : Event.stored id secret (some former) timestamp = last at noted
  cases step_noted stepped noted with
  | stored call current now saving held done same =>
    obtain ⟨rfl, rfl, replaced, rfl⟩ := Event.stored.inj event
    obtain ⟨subscription, found, rfl⟩ := Option.map_eq_some_iff.mp replaced.symm
    have read : current = some subscription := (gated.read _ held).trans found
    have idle : state.delivering = none :=
      gated.exclusive.resolve_left fun none => nomatch none.symm.trans held
    subst same
    refine ⟨.taken done ?_, nofun, ?_⟩
    · intro other member own
      cases List.mem_append.mp member with
      | inl earlier => exact absurd own (of_decide_eq_true (List.mem_filter.mp earlier).2)
      | inr last =>
        rw [List.mem_singleton.mp last, read]
        exact refreshed_former differs timestamp
    · intro delivery _ present
      cases idle.symm.trans present
  | _ => cases event

/-- A secret that was given up signs nothing after its time. -/
theorem step_unsigned {eventId : String} {secrets : List String} {time : Nat} {degraded : Bool}
    (retiring : Retiring codec id former limit state) (signs : former ∈ secrets)
    (late : limit ≤ time) (stepped : step env codec state act = some next) :
    next.log ≠ state.log ++ [.posted id eventId secrets time degraded] := by
  intro noted
  cases step_noted stepped noted with
  | posted subscription pending timestamp held =>
    have early := (retiring.delivering _ _ held rfl rfl).signs signs
    exact Nat.not_le_of_lt early late

theorem Gated.new : Gated .new := ⟨Or.inl rfl, nofun⟩

theorem run_rotates (faithful : codec.Faithful) {trace : List Act} {final : System}
    {before later : List Event} {secret eventId : String} {timestamp time : Nat}
    {secrets : List String} {degraded : Bool} (ran : exec (step env codec) .new trace = some final)
    (split : final.log = before ++ .stored id secret (some former) timestamp :: later)
    (differs : secret ≠ former) (unsupplied : ∀ event ∈ later, ¬ Supplies id former event)
    (posted : .posted id eventId secrets time degraded ∈ later) (signs : former ∈ secrets) :
    time < timestamp + 300 := by
  refine Nat.lt_of_not_le ?_
  intro late
  obtain ⟨between, after, rfl⟩ := List.append_of_mem posted
  have whole : final.log = before ++ .stored id secret (some former) timestamp :: between ++
      .posted id eventId secrets time degraded :: after := by
    rw [split, List.append_assoc, List.cons_append]
  have admitted : Admitted (step env codec) (fun _ _ => True) .new trace :=
    .of_forall (fun _ _ => trivial) _
  obtain ⟨stop, member, supplies⟩ := Histories.stopped_between (step_appends env codec) Gated
    (Retiring codec id former (timestamp + 300)) (Supplies id former)
    (fun _ _ _ _ gated stepped => step_gated gated stepped)
    (fun _ _ _ _ gated stepped noted => step_rotated gated differs stepped noted)
    (fun _ _ _ _ gated retiring stepped => step_retiring faithful gated retiring stepped)
    (fun _ _ _ _ _ retiring stepped => step_unsigned retiring signs late stepped)
    .new admitted ran whole
  exact unsupplied stop (List.mem_append_left _ member) supplies

end Watch

namespace Slack

open JsonValues Events Durable Runs

variable {env : Environment} {codec : Codec EventState} {state next : System} {act : Act}
  {id former : String} {limit : Nat}

def Subscription.Retired (subscription : Subscription) (former : String) (limit : Nat) : Prop :=
  Events.Retired former limit subscription.secret subscription.oldSecret
    subscription.oldSecretUntil

/-- The subscription has given up a secret, wherever it is found. -/
structure Retiring (codec : Codec EventState) (id former : String) (limit : Nat)
    (state : System) : Prop where
  kept : Kept (file codec) (fun value => ∀ subscription, value.subscription = some subscription →
    subscription.id = id → subscription.Retired former limit) state.cell
  refreshing : ∀ held, state.refreshing = some held → held.call.target.id = id →
    held.call.secret ≠ former
  delivering : ∀ delivery, state.delivering = some delivery →
    delivery.subscription.id = id → delivery.subscription.Retired former limit

/-! ### Storing -/

/-- The subscription has expired with an old secret that is still in use, and is stored with a
third one: the old one then gets the deadline of the second. -/
def SubscribeCall.prolongs (call : SubscribeCall) (current : Option Subscription) (now : Nat) :
    Bool :=
  current.any fun subscription =>
    decide (subscription.id = call.target.id ∧ subscription.expires ≤ now ∧
      subscription.secret ≠ call.secret ∧ now < subscription.oldSecretUntil) &&
    subscription.oldSecret.any fun old => decide (old ≠ call.secret)

def timely (state : System) : Act → Bool
  | .store _ _ now _ =>
    match state.refreshing with
    | some ⟨call, .verified current⟩ => !call.prolongs current now
    | _ => true
  | _ => true

/-- An expired subscription is not stored with a third secret while its old one is in use. -/
abbrev Timely (state : System) (act : Act) : Prop := timely state act = true

/-- The secret of the subscription that is replaced becomes the old one, if it was still live. -/
theorem refreshed_former {call : SubscribeCall} {subscription : Subscription}
    (differs : call.secret ≠ subscription.secret) (now : Nat) :
    (call.refreshed (some subscription) now).Retired subscription.secret (now + 300) := by
  refine ⟨differs, fun _ => Nat.le_of_eq ?_⟩
  simp [SubscribeCall.refreshed, Option.filter_some, differs.symm]

/-- A secret that was given up before is not taken up again. -/
theorem refreshed_retired {call : SubscribeCall} {current : Option Subscription} {now : Nat}
    (supplied : call.secret ≠ former) (timely : call.prolongs current now = false)
    (retired : ∀ subscription, current = some subscription →
      subscription.id = call.target.id → subscription.Retired former limit) :
    (call.refreshed current now).Retired former limit := by
  refine ⟨supplied, ?_⟩
  cases current with
  | none => exact nofun
  | some subscription =>
    by_cases own : subscription.id = call.target.id
    · obtain ⟨differs, ends⟩ := retired subscription rfl own
      by_cases kept : subscription.secret = call.secret
      · simp only [SubscribeCall.refreshed, Option.filter_some, own, kept, decide_true,
          ne_eq, not_true_eq_false, and_false, true_and, decide_false, Bool.false_eq_true,
          if_true, if_false, Option.map_none, Option.none_or, Option.map_some,
          Option.getD_some]
        split
        · exact ends
        · exact nofun
      · by_cases live : now < subscription.expires
        · simp only [SubscribeCall.refreshed, Option.filter_some, own, kept, live, decide_true,
            ne_eq, not_false_eq_true, and_self, if_true, Option.map_some, Option.some_or]
          intro old
          exact absurd (Option.some.inj old) differs
        · -- An old secret of an expired subscription is the one supplied, or its time is over.
          intro old
          simp only [SubscribeCall.refreshed, Option.filter_some, own, kept, live, decide_false,
            ne_eq, not_false_eq_true, and_true, and_false, true_and, Bool.false_eq_true, if_false,
            Option.map_none, Option.none_or, decide_eq_true_eq] at old
          obtain ⟨other, present, held⟩ := Option.bind_eq_some_iff.mp old
          obtain ⟨early, same⟩ := Option.ite_none_right_eq_some.mp present
          cases same
          simp [SubscribeCall.prolongs, own, kept, Nat.le_of_not_lt live, early, held] at timely
          exact absurd timely.symm supplied
    · simp [SubscribeCall.refreshed, Option.filter_some, own]

/-! ### One step -/

/-- A `subscribe` supplies the secret, for the subscription. -/
abbrev Supplies (id secret : String) (event : Event) : Prop := event = .entered id secret

/-- A call or a delivery that ends, or goes on as it was, changes nothing. -/
theorem Retiring.still (retiring : Retiring codec id former limit state)
    (kept : Kept (file codec) (fun value => ∀ subscription, value.subscription = some subscription →
      subscription.id = id → subscription.Retired former limit) next.cell)
    (refreshing : next.refreshing = none ∨ next.refreshing = state.refreshing)
    (delivering : next.delivering = none ∨ next.delivering = state.delivering) :
    Retiring codec id former limit next := by
  refine ⟨kept, ?_, ?_⟩
  · intro held present
    exact retiring.refreshing held (work_before refreshing present)
  · intro delivery present
    exact retiring.delivering delivery (work_before delivering present)

theorem step_retiring (faithful : codec.Faithful) (timely : Timely state act)
    (gated : Gated state) (retiring : Retiring codec id former limit state)
    (stepped : step env codec state act = some next) :
    Retiring codec id former limit next ∨
      ∃ event, next.log = state.log ++ [event] ∧ Supplies id former event := by
  have kept : Kept (file codec) (fun value => ∀ subscription,
      value.subscription = some subscription → subscription.id = id →
      subscription.Retired former limit) next.cell := by
    refine step_kept faithful (fun _ present => nomatch present) retiring.kept ?_ stepped
    intro value written subscription present own
    rcases written.subscription with same | none | ⟨call, current, now, asked, held, _, stored⟩
    · exact retiring.kept.value subscription (same.symm.trans present) own
    · cases none.symm.trans present
    · obtain ⟨enabled, access, saving, rfl⟩ := asked
      obtain rfl := Option.some.inj (stored.symm.trans present)
      rw [Timely, Slack.timely, held, Bool.not_eq_true'] at timely
      refine refreshed_retired (retiring.refreshing _ held own) timely ?_
      intro subscription found same
      exact retiring.kept.value subscription ((gated.read _ current held rfl).symm.trans found)
        (same.trans own)
  cases step_effect stepped with
  | waits waiting received same =>
    subst same
    exact Or.inl (retiring.still kept (Or.inr rfl) (Or.inr rfl))
  | entered call waiting taken free fresh same =>
    subst same
    by_cases supplied : call.target.id = id ∧ call.secret = former
    · obtain ⟨rfl, rfl⟩ := supplied
      exact Or.inr ⟨_, rfl, rfl⟩
    · refine Or.inl ⟨kept, ?_, retiring.delivering⟩
      intro held present own secret
      rw [(fresh held present).1] at own secret
      exact supplied ⟨own, secret⟩
  | admitted call stage held live reads same =>
    have before := retiring.refreshing _ held
    subst same
    refine Or.inl ⟨kept, ?_, retiring.delivering⟩
    rintro other ⟨⟩
    exact before
  | challenged call current challenge asked held same =>
    have before := retiring.refreshing _ held
    subst same
    refine Or.inl ⟨kept, ?_, retiring.delivering⟩
    rintro other ⟨⟩
    exact before
  | echoed call current challenge held same =>
    have before := retiring.refreshing _ held
    subst same
    refine Or.inl ⟨kept, ?_, retiring.delivering⟩
    rintro other ⟨⟩
    exact before
  | stored call current now saving asked held live done same =>
    subst same
    exact Or.inl (retiring.still kept (Or.inl rfl) (Or.inr rfl))
  | unstored call current now saving asked held live same =>
    subst same
    exact Or.inl (retiring.still kept (Or.inl rfl) (Or.inr rfl))
  | abandoned same =>
    subst same
    exact Or.inl (retiring.still kept (Or.inl rfl) (Or.inr rfl))
  | cleared saving free same =>
    subst same
    exact Or.inl (retiring.still kept (Or.inr rfl) (Or.inr rfl))
  | ingested index envelope timestamp value saving asked found free takes reaches same =>
    subst same
    exact Or.inl (retiring.still kept (Or.inr rfl) (Or.inr rfl))
  | unwritten index timestamp received value saving asked misses same =>
    subst same
    exact Or.inl (retiring.still kept (Or.inr rfl) (Or.inr rfl))
  | took subscription pending now free working live due same =>
    subst same
    refine Or.inl ⟨kept, retiring.refreshing, ?_⟩
    rintro delivery ⟨⟩
    exact retiring.kept.value subscription (due_pending due).1
  | permitted subscription pending timestamp held same =>
    have before := retiring.delivering _ held
    subst same
    refine Or.inl ⟨kept, retiring.refreshing, ?_⟩
    rintro delivery ⟨⟩
    exact before
  | discarded subscription pending timestamp held value saving writes same =>
    subst same
    exact Or.inl (retiring.still kept (Or.inr rfl) (Or.inl rfl))
  | dropped waits same =>
    subst same
    exact Or.inl (retiring.still kept (Or.inr rfl) (Or.inl rfl))
  | posted subscription pending timestamp held working same =>
    have before := retiring.delivering _ held
    subst same
    refine Or.inl ⟨kept, retiring.refreshing, ?_⟩
    rintro delivery ⟨⟩
    exact before
  | finished subscription pending status now saving asked held same =>
    subst same
    exact Or.inl (retiring.still kept (Or.inr rfl) (Or.inl rfl))
  | cancelled same =>
    subst same
    exact Or.inl (retiring.still kept (Or.inr rfl) (Or.inl rfl))
  | opened config sourceSecret cell reopened same =>
    subst same
    exact Or.inl (retiring.still kept (Or.inl rfl) (Or.inl rfl))

/-- The step that stores another secret gives up the former one. -/
theorem step_rotated {secret : String} {timestamp : Nat} (gated : Gated state)
    (differs : secret ≠ former) (stepped : step env codec state act = some next)
    (noted : next.log = state.log ++ [.stored id secret (some former) timestamp]) :
    Retiring codec id former (timestamp + 300) next := by
  generalize event : Event.stored id secret (some former) timestamp = last at noted
  cases step_noted stepped noted with
  | stored call current now saving held done same =>
    obtain ⟨rfl, rfl, replaced, rfl⟩ := Event.stored.inj event
    obtain ⟨subscription, found, rfl⟩ := Option.map_eq_some_iff.mp replaced.symm
    have read : current = some subscription := (gated.read _ current held rfl).trans found
    have idle : state.delivering = none := gated.refreshing_only held
    subst same
    refine ⟨.taken done ?_, nofun, ?_⟩
    · intro other present own
      cases present
      rw [read]
      exact refreshed_former differs timestamp
    · intro delivery present
      cases idle.symm.trans present
  | ingested envelope moment value saving received free takes reaches same =>
    rcases callbackEvent_cases state.config envelope moment state.cell.value value with
      ⟨_, callback⟩ | ⟨_, callback⟩
    · cases event.trans callback
    · cases event.trans callback
  | _ => cases event

/-- A secret that was given up signs nothing after its time. -/
theorem step_unsigned {eventId : String} {secrets : List String} {time : Nat} {degraded : Bool}
    (retiring : Retiring codec id former limit state) (signs : former ∈ secrets)
    (late : limit ≤ time) (stepped : step env codec state act = some next) :
    next.log ≠ state.log ++ [.posted id eventId secrets time degraded] := by
  intro noted
  generalize event : Event.posted id eventId secrets time degraded = last at noted
  cases step_noted stepped noted with
  | posted subscription pending timestamp held working =>
    obtain ⟨rfl, rfl, rfl, rfl, rfl⟩ := Event.posted.inj event
    have early := (retiring.delivering _ held rfl).signs signs
    exact Nat.not_le_of_lt early late
  | ingested envelope moment value saving received free takes reaches same =>
    rcases callbackEvent_cases state.config envelope moment state.cell.value value with
      ⟨_, callback⟩ | ⟨_, callback⟩
    · cases event.trans callback
    · cases event.trans callback
  | _ => cases event

theorem run_rotates (faithful : codec.Faithful) {config : SlackEventsConfig}
    {sourceSecret : String} {trace : List Act} {final : System} {before later : List Event}
    {secret eventId : String} {timestamp time : Nat} {secrets : List String} {degraded : Bool}
    (admitted : Admitted (step env codec) Timely (.new config sourceSecret) trace)
    (ran : exec (step env codec) (.new config sourceSecret) trace = some final)
    (split : final.log = before ++ .stored id secret (some former) timestamp :: later)
    (differs : secret ≠ former) (unsupplied : ∀ event ∈ later, ¬ Supplies id former event)
    (posted : .posted id eventId secrets time degraded ∈ later) (signs : former ∈ secrets) :
    time < timestamp + 300 := by
  refine Nat.lt_of_not_le ?_
  intro late
  obtain ⟨between, after, rfl⟩ := List.append_of_mem posted
  have whole : final.log = before ++ .stored id secret (some former) timestamp :: between ++
      .posted id eventId secrets time degraded :: after := by
    rw [split, List.append_assoc, List.cons_append]
  obtain ⟨stop, member, supplies⟩ := Histories.stopped_between (step_appends env codec) Gated
    (Retiring codec id former (timestamp + 300)) (Supplies id former)
    (fun _ _ _ _ gated stepped => step_gated gated stepped)
    (fun _ _ _ _ gated stepped noted => step_rotated gated differs stepped noted)
    (fun _ _ _ timely gated retiring stepped =>
      step_retiring faithful timely gated retiring stepped)
    (fun _ _ _ _ _ retiring stepped => step_unsigned retiring signs late stepped)
    (.new config sourceSecret) admitted ran whole
  exact unsupplied stop (List.mem_append_left _ member) supplies

end Slack

/-! ### Both -/

open Runs Events

/-- When another secret was stored for a subscription, the former one signs no delivery to it
later than 300 seconds after, unless it is supplied again. For Slack events this is so in runs in
which no expired subscription is stored with a third secret while its old one is in use. -/
theorem rotated_secrets_retire (env : Environment) (watchCodec : Codec Watch.WatchState)
    (slackCodec : Codec Slack.EventState) (watchFaithful : watchCodec.Faithful)
    (slackFaithful : slackCodec.Faithful) (id secret former eventId : String)
    (timestamp time : Nat) (secrets : List String) (degraded : Bool) (differs : secret ≠ former)
    (signs : former ∈ secrets) :
    (∀ (trace : List Watch.Act) (final : Watch.System) (before later : List Watch.Event),
      exec (Watch.step env watchCodec) .new trace = some final →
      final.log = before ++ .stored id secret (some former) timestamp :: later →
      (∀ event ∈ later, ¬ Watch.Supplies id former event) →
      .posted id eventId secrets time degraded ∈ later → time < timestamp + 300) ∧
    (∀ (config : Slack.SlackEventsConfig) (sourceSecret : String) (trace : List Slack.Act)
      (final : Slack.System) (before later : List Slack.Event),
      Admitted (Slack.step env slackCodec) Slack.Timely (.new config sourceSecret) trace →
      exec (Slack.step env slackCodec) (.new config sourceSecret) trace = some final →
      final.log = before ++ .stored id secret (some former) timestamp :: later →
      (∀ event ∈ later, ¬ Slack.Supplies id former event) →
      .posted id eventId secrets time degraded ∈ later → time < timestamp + 300) := by
  constructor
  · intro trace final before later ran split unsupplied posted
    exact Watch.run_rotates watchFaithful ran split differs unsupplied posted signs
  · intro config sourceSecret trace final before later admitted ran split unsupplied posted
    exact Slack.run_rotates slackFaithful admitted ran split differs unsupplied posted signs

/-- A second secret, two results, and a delivery that the first secret signs too. -/
def Watch.sampleRotation : List Watch.Act :=
  sampleSubscribe "https://a.example/" 'A' 600000 0 ++
    sampleSubscribe "https://a.example/" 'B' 600000 1 ++
    ([.check sampleWatch (some true) (some (sampleResult "1")) 2 "e1" .saved,
      .check sampleWatch (some true) (some (sampleResult "2")) 3 "e2" .saved,
      .takeDue 300, .decide [sampleWatch] true .saved, .post] : List Watch.Act)

namespace Slack

/-- A callback is queued, and the worker posts it. -/
def sampleDelivery (received due : Nat) : List Act :=
  sampleIngest received ++
    ([.takeDue due .saved, .decide .allowed .allowed .saved, .post true] : List Act)

/-- A second secret, and a delivery that the first one signs too. -/
def sampleRotation : List Act :=
  sampleSubscribe 'A' 600000 0 ++ sampleSubscribe 'B' 600000 1 ++ sampleDelivery 2 300

/-- A second secret for one second, and a third one when it is over. -/
def sampleProlonged : List Act :=
  sampleSubscribe 'A' 600000 0 ++ sampleSubscribe 'B' 1000 10 ++ sampleSubscribe 'C' 600000 20 ++
    sampleDelivery 30 315

end Slack

theorem rotated_secrets_retire_sample : 300 < 1 + 300 ∧ 300 < 1 + 300 := by
  have differs : sampleSecret 'B' ≠ sampleSecret 'A' := by decide +kernel
  constructor
  · have watch := (rotated_secrets_retire Watch.resultEnvironment _ _
      (Codec.ofSerial_faithful Watch.WatchState.serial)
      (Codec.ofSerial_faithful Slack.EventState.serial) ("sub_" ++ Watch.sampleDigest [])
      (sampleSecret 'B') (sampleSecret 'A') "e2" 1 300 [sampleSecret 'B', sampleSecret 'A']
      false differs (List.mem_cons_of_mem _ (List.mem_cons_self ..))).1
    have log : (exec (Watch.step Watch.resultEnvironment (.ofSerial Watch.WatchState.serial))
        .new Watch.sampleRotation).map Watch.System.log = some (([
          .entered ("sub_" ++ Watch.sampleDigest []) "ann" (sampleSecret 'A'),
          .verifying ("sub_" ++ Watch.sampleDigest []) false,
          .stored ("sub_" ++ Watch.sampleDigest []) (sampleSecret 'A') none 0,
          .entered ("sub_" ++ Watch.sampleDigest []) "ann" (sampleSecret 'B'),
          .verifying ("sub_" ++ Watch.sampleDigest []) false] : List Watch.Event) ++
          Watch.Event.stored ("sub_" ++ Watch.sampleDigest []) (sampleSecret 'B')
            (some (sampleSecret 'A')) 1 :: ([
          .posted ("sub_" ++ Watch.sampleDigest []) "e2"
            [sampleSecret 'B', sampleSecret 'A'] 300 false] : List Watch.Event)) := by
      decide +kernel
    obtain ⟨final, ran, split⟩ := Option.map_eq_some_iff.mp log
    refine watch _ final _ _ ran split ?_ (List.mem_singleton_self _)
    rintro event member ⟨clientId, rfl⟩
    cases List.mem_singleton.mp member
  · have slack := (rotated_secrets_retire Slack.callbackEnvironment _ _
      (Codec.ofSerial_faithful Watch.WatchState.serial)
      (Codec.ofSerial_faithful Slack.EventState.serial) ("sub_" ++ Slack.sampleDigest [])
      (sampleSecret 'B') (sampleSecret 'A') "Ev1" 1 300 [sampleSecret 'B', sampleSecret 'A']
      false differs (List.mem_cons_of_mem _ (List.mem_cons_self ..))).2
    have log : (exec (Slack.step Slack.callbackEnvironment (.ofSerial Slack.EventState.serial))
        (.new Slack.sampleConfig "secret") Slack.sampleRotation).map Slack.System.log = some (([
          .entered ("sub_" ++ Slack.sampleDigest []) (sampleSecret 'A'),
          .verifying ("sub_" ++ Slack.sampleDigest []) false,
          .stored ("sub_" ++ Slack.sampleDigest []) (sampleSecret 'A') none 0,
          .entered ("sub_" ++ Slack.sampleDigest []) (sampleSecret 'B'),
          .verifying ("sub_" ++ Slack.sampleDigest []) false] : List Slack.Event) ++
          Slack.Event.stored ("sub_" ++ Slack.sampleDigest []) (sampleSecret 'B')
            (some (sampleSecret 'A')) 1 :: ([
          .ingested "Ev1" true 2,
          .posted ("sub_" ++ Slack.sampleDigest []) "Ev1"
            [sampleSecret 'B', sampleSecret 'A'] 300 false] : List Slack.Event)) := by
      decide +kernel
    obtain ⟨final, ran, split⟩ := Option.map_eq_some_iff.mp log
    refine slack _ _ _ final _ _ (by decide +kernel) ran split ?_
      (List.mem_cons_of_mem _ (List.mem_singleton_self _))
    intro event member supplied
    rw [Slack.Supplies] at supplied
    subst supplied
    simp at member

theorem Slack.expired_rotation_prolongs : ∃ final before later secrets degraded,
    exec (step callbackEnvironment (.ofSerial EventState.serial)) (.new sampleConfig "secret")
      sampleProlonged = some final ∧
    final.log = before ++ .stored ("sub_" ++ sampleDigest []) (sampleSecret 'B')
      (some (sampleSecret 'A')) 10 :: later ∧
    sampleSecret 'B' ≠ sampleSecret 'A' ∧
    (∀ event ∈ later, ¬ Supplies ("sub_" ++ sampleDigest []) (sampleSecret 'A') event) ∧
    .posted ("sub_" ++ sampleDigest []) "Ev1" secrets 315 degraded ∈ later ∧
    sampleSecret 'A' ∈ secrets ∧ 10 + 300 < 315 := by
  have log : (exec (step callbackEnvironment (.ofSerial EventState.serial))
      (.new sampleConfig "secret") sampleProlonged).map System.log = some (([
        .entered ("sub_" ++ sampleDigest []) (sampleSecret 'A'),
        .verifying ("sub_" ++ sampleDigest []) false,
        .stored ("sub_" ++ sampleDigest []) (sampleSecret 'A') none 0,
        .entered ("sub_" ++ sampleDigest []) (sampleSecret 'B'),
        .verifying ("sub_" ++ sampleDigest []) false] : List Event) ++
        Event.stored ("sub_" ++ sampleDigest []) (sampleSecret 'B') (some (sampleSecret 'A')) 10 ::
        ([
        .entered ("sub_" ++ sampleDigest []) (sampleSecret 'C'),
        .verifying ("sub_" ++ sampleDigest []) false,
        .stored ("sub_" ++ sampleDigest []) (sampleSecret 'C') (some (sampleSecret 'B')) 20,
        .ingested "Ev1" true 30,
        .posted ("sub_" ++ sampleDigest []) "Ev1" [sampleSecret 'C', sampleSecret 'A'] 315
          false] : List Event)) := by
    decide +kernel
  obtain ⟨final, ran, split⟩ := Option.map_eq_some_iff.mp log
  refine ⟨final, _, _, [sampleSecret 'C', sampleSecret 'A'], false, ran, split, by decide +kernel,
    by decide +kernel, ?_, ?_, by decide⟩
  · simp
  · simp

end Plug
