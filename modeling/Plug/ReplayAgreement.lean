import Plug.SubscriptionReplay

/-!
# What a session is subscribed to

While a call that the session has carried out is unrecorded, the session may differ from the replay
set in the URI of that call, and in no other. The unrecorded calls for a URI all say what the
session is subscribed to, so recording the last of them makes the two agree.
-/

namespace Plug.Replay

open Runs State

/-- The session that the request of a call belongs to. -/
def Phase.session : Phase → Option Nat
  | .sent session _ => some session
  | .answered session _ _ => some session
  | .orphaned session => some session
  | _ => none

structure Sound (state : State) : Prop where
  replay : ∀ uri, uri ∈ state.replay ↔ state.succeeded uri = some .subscribe
  latest : ∀ uri kind, state.latest uri = some (kind, true) → state.succeeded uri = some kind
  uncalled : ∀ uri, state.latest uri = none → state.succeeded uri = none
  sessions : ∀ call ∈ state.calls, ∀ session, call.phase.session = some session →
    session ≤ state.session
  /-- Before its replay no request belongs to a session. -/
  fresh : ∀ caller, state.reconnect = some ⟨caller, true⟩ → state.restored = false ∧
    ∀ call ∈ state.calls, call.phase.session ≠ some state.session
  orphans : ∀ call ∈ state.calls, ∀ session, call.phase = .orphaned session →
    state.gone session = true
  effect : state.up = true → state.restored = true → ∀ call ∈ state.calls,
    state.unrecorded call = true → (call.uri ∈ state.subscribed ↔ call.kind = .subscribe)
  agree : state.up = true → state.restored = true → ∀ uri,
    (uri ∈ state.subscribed ↔ uri ∈ state.replay) ∨
      ∃ call ∈ state.calls, state.unrecorded call = true ∧ call.uri = uri

theorem sound_start : Sound {} := by
  constructor <;> simp

variable {state : State} {call : Call}

/-! ### The calls in flight change -/

/-- A call takes a step that neither carries out nor records anything. -/
theorem sound_advance (sound : Sound state) (phase : Phase)
    (session : ∀ session, phase.session = some session →
      call.phase.session = some session ∨ session = state.session ∧ state.reconnect = none)
    (orphan : ∀ session, phase = .orphaned session → state.gone session = true)
    (same : state.up = true → state.restored = true →
      state.unrecorded { call with phase := phase } = state.unrecorded call)
    (member : call ∈ state.calls) : Sound (state.advance call phase) := by
  refine ⟨sound.replay, sound.latest, sound.uncalled, ?_, ?_, ?_, ?_, ?_⟩
  · intro other present place found
    cases List.mem_cons.mp present with
    | inl now =>
      subst now
      rcases session place found with earlier | ⟨current, -⟩
      · exact sound.sessions call member place earlier
      · exact Nat.le_of_eq current
    | inr earlier => exact sound.sessions other (List.mem_of_mem_erase earlier) place found
  · intro caller opening
    obtain ⟨unrestored, apart⟩ := sound.fresh caller opening
    refine ⟨unrestored, ?_⟩
    intro other present current
    cases List.mem_cons.mp present with
    | inl now =>
      subst now
      rcases session _ current with earlier | ⟨-, free⟩
      · exact apart call member earlier
      · have opening : state.reconnect = some ⟨caller, true⟩ := opening
        simp [free] at opening
    | inr earlier => exact apart other (List.mem_of_mem_erase earlier) current
  · intro other present place orphaned
    cases List.mem_cons.mp present with
    | inl now =>
      subst now
      exact orphan place orphaned
    | inr earlier => exact sound.orphans other (List.mem_of_mem_erase earlier) place orphaned
  · intro up restored other present unrecorded
    cases List.mem_cons.mp present with
    | inl now =>
      subst now
      exact sound.effect up restored call member ((same up restored).symm.trans unrecorded)
    | inr earlier => exact sound.effect up restored other (List.mem_of_mem_erase earlier) unrecorded
  · intro up restored uri
    refine (sound.agree up restored uri).imp_right ?_
    rintro ⟨other, present, unrecorded, own⟩
    by_cases now : other = call
    · subst now
      exact ⟨_, List.mem_cons_self, (same up restored).trans unrecorded, own⟩
    · exact ⟨other, List.mem_cons_of_mem _ ((List.mem_erase_of_ne now).mpr present), unrecorded,
        own⟩

/-- A call is over, and was not carried out, or the replay set says the same. -/
theorem sound_erase (sound : Sound state)
    (harmless : state.up = true → state.restored = true → state.unrecorded call = true →
      state.foreseen call = true)
    (member : call ∈ state.calls) : Sound { state with calls := state.calls.erase call } := by
  refine ⟨sound.replay, sound.latest, sound.uncalled,
    fun other present => sound.sessions other (List.mem_of_mem_erase present), ?_,
    fun other present => sound.orphans other (List.mem_of_mem_erase present),
    fun up restored other present => sound.effect up restored other (List.mem_of_mem_erase present),
    ?_⟩
  · intro caller opening
    obtain ⟨unrestored, apart⟩ := sound.fresh caller opening
    exact ⟨unrestored, fun other present => apart other (List.mem_of_mem_erase present)⟩
  · intro up restored uri
    rcases sound.agree up restored uri with agree | ⟨other, present, unrecorded, own⟩
    · exact Or.inl agree
    · by_cases now : other = call
      · subst now
        have effect := sound.effect up restored other present unrecorded
        have said := of_decide_eq_true (harmless up restored unrecorded)
        rw [← own]
        exact Or.inl (effect.trans said)
      · exact Or.inr ⟨other, (List.mem_erase_of_ne now).mpr present, unrecorded, own⟩

/-- A request is made, or sent to the session again. -/
theorem sound_cons (sound : Sound state) (call : Call)
    (session : ∀ session, call.phase.session = some session →
      session = state.session ∧ state.reconnect = none)
    (orphan : ∀ session, call.phase ≠ .orphaned session)
    (idle : state.unrecorded call = false) :
    Sound { state with calls := call :: state.calls } := by
  refine ⟨sound.replay, sound.latest, sound.uncalled, ?_, ?_, ?_, ?_, ?_⟩
  · intro other present place found
    cases List.mem_cons.mp present with
    | inl now => exact Nat.le_of_eq (session place (now ▸ found)).1
    | inr earlier => exact sound.sessions other earlier place found
  · intro caller opening
    obtain ⟨unrestored, apart⟩ := sound.fresh caller opening
    refine ⟨unrestored, ?_⟩
    intro other present current
    cases List.mem_cons.mp present with
    | inl now =>
      have free := (session _ (now ▸ current)).2
      have opening : state.reconnect = some ⟨caller, true⟩ := opening
      simp [free] at opening
    | inr earlier => exact apart other earlier current
  · intro other present place orphaned
    cases List.mem_cons.mp present with
    | inl now => exact absurd (now ▸ orphaned) (orphan place)
    | inr earlier => exact sound.orphans other earlier place orphaned
  · intro up restored other present unrecorded
    cases List.mem_cons.mp present with
    | inl now =>
      have recorded : state.unrecorded call = true := now ▸ unrecorded
      simp [idle] at recorded
    | inr earlier => exact sound.effect up restored other earlier unrecorded
  · intro up restored uri
    refine (sound.agree up restored uri).imp_right ?_
    rintro ⟨other, present, unrecorded, own⟩
    exact ⟨other, List.mem_cons_of_mem _ present, unrecorded, own⟩

/-- A call reports failure. -/
theorem sound_failed (sound : Sound state) (kind : Kind) (uri : String) :
    Sound { state with latest := Function.update state.latest uri (some (kind, false)) } := by
  refine ⟨sound.replay, ?_, ?_, sound.sessions, sound.fresh, sound.orphans, sound.effect,
    sound.agree⟩
  · intro other reported found
    dsimp only at found
    rw [Function.update_apply] at found
    split at found
    · cases found
    · exact sound.latest other reported found
  · intro other found
    dsimp only at found
    rw [Function.update_apply] at found
    split at found
    · cases found
    · exact sound.uncalled other found

theorem sound_completeFailed (sound : Sound state)
    (harmless : state.up = true → state.restored = true → state.unrecorded call = true →
      state.foreseen call = true)
    (member : call ∈ state.calls) : Sound (state.complete call false) :=
  sound_failed (sound_erase sound harmless member) call.kind call.uri

/-! ### The daemon, the replay set and the session change -/

/-- The session carries out a request for a URI that no call of the other kind is unrecorded for. -/
theorem sound_carriedOut (sound : Sound state) {again : Bool}
    (sent : call.phase = .sent state.session again)
    (undisputed : state.undisputed call = true) (member : call ∈ state.calls) :
    Sound ({ state with subscribed := call.kind.apply call.uri state.subscribed }.advance call
      (.answered state.session again true)) := by
  have unsettled : state.reconnect.map Reconnect.established ≠ some true := by
    intro opening
    obtain ⟨⟨caller, established⟩, found, rfl⟩ := Option.map_eq_some_iff.mp opening
    exact (sound.fresh caller found).2 call member (by rw [sent]; rfl)
  have alike (other : Call) (present : other ∈ state.calls)
      (unrecorded : state.unrecorded other = true) (own : other.uri = call.uri) :
      other.kind = call.kind := by
    have agrees := List.all_eq_true.mp undisputed other present
    simpa [unrecorded, own] using agrees
  refine ⟨sound.replay, sound.latest, sound.uncalled, ?_, ?_, ?_, ?_, ?_⟩
  · intro other present place found
    cases List.mem_cons.mp present with
    | inl now =>
      subst now
      exact Nat.le_of_eq (Option.some.inj found).symm
    | inr earlier => exact sound.sessions other (List.mem_of_mem_erase earlier) place found
  · intro caller opening
    have opening : state.reconnect = some ⟨caller, true⟩ := opening
    simp [opening] at unsettled
  · intro other present place orphaned
    cases List.mem_cons.mp present with
    | inl now =>
      subst now
      cases orphaned
    | inr earlier => exact sound.orphans other (List.mem_of_mem_erase earlier) place orphaned
  · intro up restored other present unrecorded
    dsimp only [State.advance]
    rw [mem_apply]
    cases List.mem_cons.mp present with
    | inl now =>
      subst now
      simp
    | inr earlier =>
      have present := List.mem_of_mem_erase earlier
      split
      · rename_i own
        rw [alike other present unrecorded own]
      · exact sound.effect up restored other present unrecorded
  · intro up restored uri
    by_cases own : uri = call.uri
    · refine Or.inr ⟨_, List.mem_cons_self, ?_, own.symm⟩
      simp [State.unrecorded, State.advance]
    · dsimp only [State.advance]
      rw [mem_apply, if_neg own]
      refine (sound.agree up restored uri).imp_right ?_
      rintro ⟨other, present, unrecorded, same⟩
      have differs : other ≠ call := by
        rintro rfl
        exact own same.symm
      exact ⟨other, List.mem_cons_of_mem _ ((List.mem_erase_of_ne differs).mpr present),
        unrecorded, same⟩

/-- A success is recorded, and the replay set says what the session does. -/
theorem sound_record (sound : Sound state) (returned : call.phase = .returned)
    (member : call ∈ state.calls) : Sound (state.record call) := by
  refine ⟨?_, ?_, ?_, fun other present => sound.sessions other (List.mem_of_mem_erase present), ?_,
    fun other present => sound.orphans other (List.mem_of_mem_erase present),
    fun up restored other present => sound.effect up restored other (List.mem_of_mem_erase present),
    ?_⟩
  · intro uri
    dsimp only [State.record]
    rw [mem_apply, Function.update_apply]
    split
    · rw [Option.some.injEq]
    · exact sound.replay uri
  · intro uri kind found
    dsimp only [State.record, State.complete] at found ⊢
    rw [Function.update_apply] at found ⊢
    split at found
    · rename_i own
      rw [if_pos own, (Prod.mk.inj (Option.some.inj found)).1]
    · rename_i own
      rw [if_neg own]
      exact sound.latest uri kind found
  · intro uri found
    dsimp only [State.record, State.complete] at found ⊢
    rw [Function.update_apply] at found ⊢
    split at found
    · cases found
    · rename_i own
      rw [if_neg own]
      exact sound.uncalled uri found
  · intro caller opening
    obtain ⟨unrestored, apart⟩ := sound.fresh caller opening
    exact ⟨unrestored, fun other present => apart other (List.mem_of_mem_erase present)⟩
  · intro up restored uri
    have unrecorded : state.unrecorded call = true := by simp [State.unrecorded, returned]
    dsimp only [State.record, State.complete]
    rw [mem_apply]
    split
    · rename_i own
      rw [own]
      exact Or.inl (sound.effect up restored call member unrecorded)
    · rename_i own
      refine (sound.agree up restored uri).imp_right ?_
      rintro ⟨other, present, unrecorded, same⟩
      have differs : other ≠ call := by
        rintro rfl
        exact own same.symm
      exact ⟨other, (List.mem_erase_of_ne differs).mpr present, unrecorded, same⟩

/-- A session that is new has no requests and no subscriptions. -/
theorem sound_establish (sound : Sound state) (caller : Option (Kind × String)) :
    Sound { state with
      session := state.session + 1
      up := true
      restored := false
      subscribed := ∅
      reconnect := some ⟨caller, true⟩ } := by
  refine ⟨sound.replay, sound.latest, sound.uncalled, ?_, ?_, ?_, nofun, nofun⟩
  · exact fun other present place found =>
      Nat.le_succ_of_le (sound.sessions other present place found)
  · refine fun _ _ => ⟨rfl, ?_⟩
    intro other present current
    exact absurd (sound.sessions other present _ current) (Nat.not_succ_le_self _)
  · intro other present place orphaned
    have earlier := sound.sessions other present place (by rw [orphaned]; rfl)
    simp only [State.gone, Bool.not_true, Bool.or_false, decide_eq_true_eq]
    omega

/-- The session is subscribed to the replay set, and what is unrecorded says the same. -/
theorem sound_replay (sound : Sound state) (orderly : state.orderly .replay = true) :
    Sound { state with subscribed := state.replay, restored := true, reconnect := none } := by
  refine ⟨sound.replay, sound.latest, sound.uncalled, sound.sessions, nofun, sound.orphans, ?_,
    fun _ _ _ => Or.inl Iff.rfl⟩
  intro up restored other present unrecorded
  have unrecorded : state.unrecorded other = true := unrecorded
  have agrees := List.all_eq_true.mp orderly other present
  rw [unrecorded, Bool.not_true, Bool.false_or] at agrees
  exact (of_decide_eq_true agrees).symm

/-- The replay did not succeed, so nothing is asked of the session. -/
theorem sound_replayFails (sound : Sound state) {caller : Option (Kind × String)}
    (established : state.reconnect = some ⟨caller, true⟩) (restored : Finset String) :
    Sound { state with subscribed := restored, reconnect := none } := by
  have unrestored := (sound.fresh caller established).1
  refine ⟨sound.replay, sound.latest, sound.uncalled, sound.sessions, nofun, sound.orphans, ?_, ?_⟩
  · intro _ restored
    have restored : state.restored = true := restored
    simp [unrestored] at restored
  · intro _ restored
    have restored : state.restored = true := restored
    simp [unrestored] at restored

theorem sound_release (sound : Sound state) (caller : Option (Kind × String)) : Sound (state.release caller) := by
  have same : Sound { state with reconnect := none } :=
    ⟨sound.replay, sound.latest, sound.uncalled, sound.sessions, nofun, sound.orphans,
      sound.effect, sound.agree⟩
  cases caller with
  | none => exact same
  | some call =>
    refine sound_cons same ⟨call.1, call.2, .sent state.session true⟩ ?_ nofun rfl
    intro session found
    exact ⟨(Option.some.inj found).symm, rfl⟩

/-- The connection is taken or given back before a session is established. -/
theorem sound_reconnect (sound : Sound state) (reconnect : Option Reconnect)
    (begun : ∀ caller, reconnect ≠ some ⟨caller, true⟩) :
    Sound { state with reconnect := reconnect } :=
  ⟨sound.replay, sound.latest, sound.uncalled, sound.sessions,
    fun caller opening => absurd opening (begun caller), sound.orphans, sound.effect, sound.agree⟩

theorem sound_lose (sound : Sound state) : Sound { state with up := false } :=
  ⟨sound.replay, sound.latest, sound.uncalled, sound.sessions, sound.fresh,
    fun _ _ _ _ => by simp [State.gone], nofun, nofun⟩

/-! ### Every step -/

/-- A reply is lost with the connection, and the call is sent again once. -/
theorem sound_fail (sound : Sound state) {session : Nat} (again : Bool)
    (gone : state.gone session = true)
    (answered : state.unrecorded call = true → session = state.session)
    (member : call ∈ state.calls) :
    Sound (if again then state.complete call false
      else state.advance call (.reconnecting session)) := by
  have ineffective (up : state.up = true) : state.unrecorded call = false := by
    by_contra unrecorded
    have current := answered (by simpa using unrecorded)
    simp [State.gone, up, current] at gone
  split
  · apply sound_completeFailed sound _ member
    intro up _ unrecorded
    simp [ineffective up] at unrecorded
  · apply sound_advance sound (.reconnecting session) nofun nofun _ member
    intro up _
    exact (ineffective up).symm

theorem sound_move (sound : Sound state) {act : Act} {next : State}
    (orderly : state.orderly act = true) (member : call ∈ state.calls)
    (acts : act = .connect call ∨ (∃ success, act = .answer call success) ∨ act = .deliver call ∨
      act = .fail call ∨ act = .giveUp call ∨ act = .record call ∨ act = .reconnect call)
    (moved : state.move call act = some next) : Sound next := by
  rcases acts with rfl | ⟨success, rfl⟩ | rfl | rfl | rfl | rfl | rfl
  · cases phase : call.phase with
    | connecting =>
      simp only [State.move, phase, Option.ite_none_right_eq_some, Option.some.injEq] at moved
      obtain ⟨free, rfl⟩ := moved
      apply sound_advance sound (.sent state.session false) _ nofun _ member
      · intro session found
        exact Or.inr ⟨(Option.some.inj found).symm, free⟩
      · simp [State.unrecorded, phase]
    | _ => simp [State.move, phase] at moved
  · cases phase : call.phase with
    | sent session again =>
      simp only [State.move, phase, Option.some.injEq] at moved
      obtain rfl := moved
      unfold State.carryOut
      split
      · rename_i carried
        simp only [Bool.and_eq_true, decide_eq_true_eq] at carried
        obtain ⟨⟨rfl, rfl⟩, up⟩ := carried
        simp only [State.orderly, phase, State.gone, up] at orderly
        exact sound_carriedOut sound phase (by simpa using orderly) member
      · rename_i ignored
        apply sound_advance sound (.answered session again success) _ nofun _ member
        · intro place found
          exact Or.inl (by rw [phase]; exact found)
        · intro up _
          simpa [State.unrecorded, phase, up] using ignored
    | orphaned session =>
      simp only [State.move, phase, Option.some.injEq] at moved
      obtain rfl := moved
      have gone := sound.orphans call member session phase
      have ignored : state.carryOut call session success = state := by
        unfold State.carryOut
        rw [if_neg]
        simp only [State.gone, Bool.or_eq_true] at gone
        intro carried
        simp only [Bool.and_eq_true, decide_eq_true_eq] at carried
        simp [carried.1.2, carried.2] at gone
      rw [ignored]
      apply sound_erase sound _ member
      simp [State.unrecorded, phase]
    | _ => simp [State.move, phase] at moved
  · cases phase : call.phase with
    | answered session again success =>
      simp only [State.move, phase, Option.ite_none_right_eq_some] at moved
      obtain ⟨current, moved⟩ := moved
      split at moved
      · rename_i succeeded
        cases moved
        apply sound_advance sound .returned nofun nofun _ member
        simp [State.unrecorded, phase, current, succeeded]
      · rename_i refused
        cases moved
        apply sound_completeFailed sound _ member
        simp [State.unrecorded, phase, refused]
    | _ => simp [State.move, phase] at moved
  · cases phase : call.phase with
    | sent session again =>
      simp only [State.move, phase, Option.ite_none_right_eq_some, Option.some.injEq] at moved
      obtain ⟨gone, rfl⟩ := moved
      exact sound_fail sound again gone (by simp [State.unrecorded, phase]) member
    | answered session again success =>
      simp only [State.move, phase, Option.ite_none_right_eq_some, Option.some.injEq] at moved
      obtain ⟨gone, rfl⟩ := moved
      exact sound_fail sound again gone (by simp [State.unrecorded, phase]) member
    | _ => simp [State.move, phase] at moved
  · cases phase : call.phase with
    | sent session again =>
      simp only [State.move, phase, Option.some.injEq] at moved
      obtain rfl := moved
      simp only [State.orderly, phase] at orderly
      refine sound_failed (sound_advance sound (.orphaned session) ?_ ?_ ?_ member) call.kind call.uri
      · intro place found
        exact Or.inl (by rw [phase]; exact found)
      · intro place orphaned
        exact Phase.orphaned.inj orphaned ▸ orderly
      · simp [State.unrecorded, phase]
    | answered session again success =>
      simp only [State.move, phase, Option.some.injEq] at moved
      obtain rfl := moved
      apply sound_completeFailed sound _ member
      intro up _ unrecorded
      simp only [State.unrecorded, phase, Bool.and_eq_true, decide_eq_true_eq] at unrecorded
      simpa [State.orderly, phase, State.gone, unrecorded, up] using orderly
    | _ => simp [State.move, phase] at moved
  · cases phase : call.phase with
    | returned =>
      simp only [State.move, phase, Option.some.injEq] at moved
      exact moved ▸ sound_record sound phase member
    | _ => simp [State.move, phase] at moved
  · cases phase : call.phase with
    | reconnecting session =>
      simp only [State.move, phase, Option.ite_none_right_eq_some] at moved
      obtain ⟨free, moved⟩ := moved
      split at moved
      · cases moved
        have taken := sound_erase sound (by simp [State.unrecorded, phase]) member
        exact sound_reconnect taken (some ⟨some (call.kind, call.uri), false⟩) (by simp)
      · cases moved
        apply sound_advance sound (.sent state.session true) _ nofun _ member
        · intro place found
          exact Or.inr ⟨(Option.some.inj found).symm, free⟩
        · simp [State.unrecorded, phase]
    | _ => simp [State.move, phase] at moved

theorem sound_step (sound : Sound state) {act : Act} {next : State}
    (orderly : state.orderly act = true) (stepped : state.step act = some next) : Sound next := by
  cases act with
  | call kind uri =>
    cases stepped
    exact sound_cons sound ⟨kind, uri, .connecting⟩ nofun nofun rfl
  | connect call =>
    simp only [State.step, Option.ite_none_right_eq_some] at stepped
    exact sound_move sound orderly stepped.1 (by simp) stepped.2
  | answer call success =>
    simp only [State.step, Option.ite_none_right_eq_some] at stepped
    exact sound_move sound orderly stepped.1 (by simp) stepped.2
  | deliver call =>
    simp only [State.step, Option.ite_none_right_eq_some] at stepped
    exact sound_move sound orderly stepped.1 (by simp) stepped.2
  | fail call =>
    simp only [State.step, Option.ite_none_right_eq_some] at stepped
    exact sound_move sound orderly stepped.1 (by simp) stepped.2
  | giveUp call =>
    simp only [State.step, Option.ite_none_right_eq_some] at stepped
    exact sound_move sound orderly stepped.1 (by simp) stepped.2
  | record call =>
    simp only [State.step, Option.ite_none_right_eq_some] at stepped
    exact sound_move sound orderly stepped.1 (by simp) stepped.2
  | reconnect call =>
    simp only [State.step, Option.ite_none_right_eq_some] at stepped
    exact sound_move sound orderly stepped.1 (by simp) stepped.2
  | heartbeat =>
    simp only [State.step, Option.ite_none_right_eq_some, Option.some.injEq] at stepped
    obtain ⟨-, rfl⟩ := stepped
    exact sound_reconnect sound (some ⟨none, false⟩) (by simp)
  | establish =>
    simp only [State.step] at stepped
    split at stepped
    · rename_i caller _
      cases stepped
      exact sound_establish sound caller
    · cases stepped
  | establishFails =>
    simp only [State.step] at stepped
    split at stepped
    · rename_i caller _
      cases stepped
      have freed := sound_reconnect sound none nofun
      cases caller with
      | none => exact freed
      | some call => exact sound_failed freed call.1 call.2
    · cases stepped
  | replay =>
    simp only [State.step] at stepped
    split at stepped
    · rename_i caller _
      simp only [Option.ite_none_right_eq_some, Option.some.injEq] at stepped
      obtain ⟨-, rfl⟩ := stepped
      exact sound_release (sound_replay sound orderly) caller
    · cases stepped
  | replayFails restored =>
    simp only [State.step] at stepped
    split at stepped
    · rename_i caller established
      cases stepped
      exact sound_release (sound_replayFails sound established restored) caller
    · cases stepped
  | lose =>
    cases stepped
    exact sound_lose sound

/-- In a quiescent state of a run whose steps are orderly, the session is subscribed to the URIs
whose latest successful call is a subscribe. Where the latest completed call did not fail, that is
the latest completed call. -/
theorem subscriptions_survive (trace : List Act) (final : State)
    (orderly : Admitted State.step (fun state act => state.orderly act = true) {} trace)
    (ran : exec State.step {} trace = some final) (quiescent : final.Quiescent) (uri : String) :
    (uri ∈ final.subscribed ↔ final.succeeded uri = some .subscribe) ∧
      ((∀ kind, final.latest uri ≠ some (kind, false)) →
        (uri ∈ final.subscribed ↔ final.latest uri = some (.subscribe, true))) := by
  have sound := exec_invariant State.step (fun state act => state.orderly act = true) Sound
    (fun _ _ _ orderly sound stepped => sound_step sound orderly stepped) trace {} final
    sound_start orderly ran
  obtain ⟨quiet, -, up, restored⟩ := quiescent
  have agrees : uri ∈ final.subscribed ↔ final.succeeded uri = some .subscribe := by
    rw [← sound.replay uri]
    refine (sound.agree up restored uri).resolve_right ?_
    rintro ⟨call, member, unrecorded, -⟩
    obtain ⟨session, orphaned⟩ := quiet call member
    simp [State.unrecorded, orphaned] at unrecorded
  refine ⟨agrees, ?_⟩
  intro unfailed
  rw [agrees]
  cases found : final.latest uri with
  | none => simp [sound.uncalled uri found]
  | some outcome =>
    obtain ⟨kind, success⟩ := outcome
    cases success with
    | false => exact absurd found (unfailed kind)
    | true => simp [sound.latest uri kind found]

/-- A call of either kind, with all its steps, on the first session. -/
def calling (kind : Kind) (uri : String) : List Act :=
  [.call kind uri, .connect ⟨kind, uri, .connecting⟩, .answer ⟨kind, uri, .sent 0 false⟩ true,
    .deliver ⟨kind, uri, .answered 0 false true⟩]

/-- A subscribe call is recorded, and then the daemon restarts. -/
def restarting : List Act :=
  calling .subscribe "file:///a" ++
    ([.record ⟨.subscribe, "file:///a", .returned⟩, .lose, .heartbeat, .establish, .replay] :
      List Act)

theorem subscriptions_survive_restart :
    ∃ final, exec State.step {} restarting = some final ∧ "file:///a" ∈ final.subscribed := by
  obtain ⟨final, ran⟩ : ∃ final, exec State.step {} restarting = some final :=
    Option.isSome_iff_exists.mp (by decide +kernel)
  have reached : (exec State.step {} restarting).all (fun final =>
      decide (final.calls = [] ∧ final.reconnect = none ∧ final.up = true ∧
        final.restored = true ∧ final.succeeded "file:///a" = some .subscribe)) = true := by
    decide +kernel
  rw [ran] at reached
  obtain ⟨calls, free, up, restored, succeeded⟩ : final.calls = [] ∧ final.reconnect = none ∧
      final.up = true ∧ final.restored = true ∧
        final.succeeded "file:///a" = some .subscribe := by
    simpa using reached
  have quiescent : final.Quiescent := ⟨by simp [calls], free, up, restored⟩
  exact ⟨final, ran, (subscriptions_survive restarting final (by decide +kernel) ran quiescent
    "file:///a").1.mpr succeeded⟩

/-- The daemon restarts, and the replay runs, before the success is recorded. -/
def overtaken : List Act :=
  calling .subscribe "file:///a" ++
    ([.lose, .heartbeat, .establish, .replay, .record ⟨.subscribe, "file:///a", .returned⟩] :
      List Act)

/-- The call reported success, and the session is not subscribed. -/
theorem subscription_lost :
    ∃ final, exec State.step {} overtaken = some final ∧ final.Quiescent ∧
      final.latest "file:///a" = some (.subscribe, true) ∧ "file:///a" ∉ final.subscribed := by
  obtain ⟨final, ran⟩ : ∃ final, exec State.step {} overtaken = some final :=
    Option.isSome_iff_exists.mp (by decide +kernel)
  have reached : (exec State.step {} overtaken).all (fun final =>
      decide (final.calls = [] ∧ final.reconnect = none ∧ final.up = true ∧
        final.restored = true ∧ final.latest "file:///a" = some (.subscribe, true) ∧
        "file:///a" ∉ final.subscribed)) = true := by
    decide +kernel
  rw [ran] at reached
  obtain ⟨calls, free, up, restored, reported, absent⟩ : final.calls = [] ∧
      final.reconnect = none ∧ final.up = true ∧ final.restored = true ∧
        final.latest "file:///a" = some (.subscribe, true) ∧ "file:///a" ∉ final.subscribed := by
    simpa using reached
  exact ⟨final, ran, ⟨by simp [calls], free, up, restored⟩, reported, absent⟩

end Plug.Replay
