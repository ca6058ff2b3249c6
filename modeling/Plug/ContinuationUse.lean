import Plug.Continuations

/-!
# Single use of continuations

The argument rests on what is live: the reservations held by callers, parked in
the registry, or on their way out. An owner's state counts them, so it outlives
each of them and its generation is never reset under one. A reservation whose
generations are current is therefore one that nothing touched, and parked ones
are always current because the steps that move a generation remove them.
-/

namespace Plug.Continuations

variable {Owner Digest Nonce Salt Data Token Value : Type}

/-- The comparison made when a reservation is inserted. -/
def Current (generation : Nat) (owners : Owner → Option OwnerState)
    (reservation : Reservation Owner) : Prop :=
  generation = reservation.globalGeneration ∧
    (owners reservation.owner).map OwnerState.generation = some reservation.ownerGeneration

section Accounting

variable [DecidableEq Owner]

/-- What the generations and the owners' states say about the live reservations. -/
structure Accounted (live : List (Reservation Owner)) (generation : Nat)
    (owners : Owner → Option OwnerState) (log : List (Event Owner Digest Token)) : Prop where
  counted : ∀ owner, (owners owner).elim 0 OwnerState.reservations =
    live.countP fun reservation => reservation.owner = owner
  positive : ∀ owner ownerState, owners owner = some ownerState → 0 < ownerState.reservations
  globalBound : ∀ reservation ∈ live, reservation.globalGeneration ≤ generation
  ownerBound : ∀ reservation ∈ live, ∀ ownerState, owners reservation.owner = some ownerState →
    reservation.ownerGeneration ≤ ownerState.generation
  untouched : ∀ reservation ∈ live, Current generation owners reservation →
    Untouched reservation.number reservation.owner log

variable {live : List (Reservation Owner)} {generation : Nat}
  {owners : Owner → Option OwnerState} {log : List (Event Owner Digest Token)}

variable {reservation : Reservation Owner} {ownerState : OwnerState}

/-- A live reservation keeps its owner's state. -/
theorem Accounted.present (accounted : Accounted live generation owners log)
    (member : reservation ∈ live) : ∃ ownerState, owners reservation.owner = some ownerState := by
  cases found : owners reservation.owner with
  | some ownerState => exact ⟨ownerState, rfl⟩
  | none =>
    have none_live := accounted.counted reservation.owner
    rw [found] at none_live
    have absent := List.countP_eq_zero.mp none_live.symm reservation member
    simp at absent

/-- Only what is live matters, not where it is. -/
theorem Accounted.perm (accounted : Accounted live generation owners log)
    {moved : List (Reservation Owner)} (same : List.Perm moved live) :
    Accounted moved generation owners log where
  counted owner := same.countP_eq _ ▸ accounted.counted owner
  positive := accounted.positive
  globalBound reservation member :=
    accounted.globalBound reservation (same.mem_iff.mp member)
  ownerBound reservation member := accounted.ownerBound reservation (same.mem_iff.mp member)
  untouched reservation member := accounted.untouched reservation (same.mem_iff.mp member)

/-- Events that touch no reservation. -/
theorem Accounted.logged (accounted : Accounted live generation owners log)
    {longer : List (Event Owner Digest Token)}
    (kept : ∀ number owner, Untouched number owner log → Untouched number owner longer) :
    Accounted live generation owners longer where
  counted := accounted.counted
  positive := accounted.positive
  globalBound := accounted.globalBound
  ownerBound := accounted.ownerBound
  untouched reservation member current :=
    kept _ _ (accounted.untouched reservation member current)

/-- An update of one owner's state that keeps the generation keeps the live
reservations of that owner in their place. -/
theorem Accounted.generation_of_update (accounted : Accounted live generation owners log)
    {owner : Owner} {updated : OwnerState}
    (kept : ∀ ownerState, owners owner = some ownerState → updated.generation =
      ownerState.generation) (member : reservation ∈ live) :
    (Function.update owners owner (some updated) reservation.owner).map OwnerState.generation =
      (owners reservation.owner).map OwnerState.generation := by
  by_cases mine : reservation.owner = owner
  · obtain ⟨ownerState, found⟩ := accounted.present member
    rw [mine] at found ⊢
    rw [Function.update_self, found, Option.map_some, Option.map_some, kept ownerState found]
  · rw [Function.update_of_ne mine]

/-- A bound on the owner's generation depends on the generation alone. -/
theorem Accounted.bound (accounted : Accounted live generation owners log)
    (member : reservation ∈ live) {later : Owner → Option OwnerState}
    (same : (later reservation.owner).map OwnerState.generation = (owners reservation.owner).map
      OwnerState.generation) (found : later reservation.owner = some ownerState) :
    reservation.ownerGeneration ≤ ownerState.generation := by
  obtain ⟨before, present⟩ := accounted.present member
  rw [found, present, Option.map_some, Option.map_some] at same
  exact Option.some.inj same ▸ accounted.ownerBound reservation member before present

theorem Accounted.reserve (accounted : Accounted live generation owners log)
    (owner : Owner) (number : Nat) :
    let ownerState := (owners owner).getD ⟨0, 0⟩
    Accounted (⟨number, owner, generation, ownerState.generation⟩ :: live) generation
      (Function.update owners owner
        (some { ownerState with reservations := ownerState.reservations + 1 }))
      (.reserved number :: log) := by
  intro ownerState
  have kept : ∀ reservation ∈ live, (Function.update owners owner
      (some { ownerState with reservations := ownerState.reservations + 1 })
        reservation.owner).map OwnerState.generation =
      (owners reservation.owner).map OwnerState.generation := by
    intro reservation member
    refine accounted.generation_of_update ?_ member
    intro before found
    simp only [ownerState, found, Option.getD_some]
  constructor
  · intro other
    have before := accounted.counted other
    rw [List.countP_cons, ← before]
    by_cases mine : other = owner
    · subst mine
      cases found : owners other <;> simp [ownerState, found]
    · have differs : owner ≠ other := fun equal => mine equal.symm
      simp [Function.update_of_ne mine, differs]
  · intro other later found
    by_cases mine : other = owner
    · rw [mine, Function.update_self] at found
      simp [← Option.some.inj found]
    · rw [Function.update_of_ne mine] at found
      exact accounted.positive other later found
  · intro reservation member
    rcases List.mem_cons.mp member with rfl | member
    · exact Nat.le_refl generation
    · exact accounted.globalBound reservation member
  · intro reservation member later found
    rcases List.mem_cons.mp member with rfl | member
    · rw [Function.update_self] at found
      simp [← Option.some.inj found]
    · exact accounted.bound member (kept reservation member) found
  · intro reservation member current
    rcases List.mem_cons.mp member with rfl | member
    · exact Or.inl rfl
    · refine Or.inr (accounted.untouched reservation member ⟨current.1, ?_⟩)
      rw [← kept reservation member]
      exact current.2

/-- The state of an owner after one of its reservations was dropped. -/
def OwnerState.dropped (ownerState : OwnerState) : Option OwnerState :=
  if ownerState.reservations - 1 = 0 then none
  else some { ownerState with reservations := ownerState.reservations - 1 }

/-- If the reservation was the owner's last, no live reservation reads the state
that goes. -/
theorem Accounted.generation_of_drop
    (accounted : Accounted (reservation :: live) generation owners log)
    (found : owners reservation.owner = some ownerState) {other : Reservation Owner}
    (member : other ∈ live) :
    (Function.update owners reservation.owner ownerState.dropped other.owner).map
        OwnerState.generation =
      (owners other.owner).map OwnerState.generation := by
  by_cases same : other.owner = reservation.owner
  · have counted := accounted.counted reservation.owner
    simp only [found, Option.elim_some, List.countP_cons, decide_true, if_true] at counted
    have counts : 0 < live.countP fun later => later.owner = reservation.owner :=
      List.countP_pos_iff.mpr ⟨other, member, by simpa using same⟩
    have more : ¬ ownerState.reservations - 1 = 0 := by omega
    rw [same, Function.update_self, OwnerState.dropped, if_neg more, found]
    rfl
  · rw [Function.update_of_ne same]

/-- The drop of one reservation. -/
theorem Accounted.drop (accounted : Accounted (reservation :: live) generation owners log)
    (found : owners reservation.owner = some ownerState) :
    Accounted live generation (Function.update owners reservation.owner ownerState.dropped)
      log := by
  have stays : ∀ other ∈ live, other ∈ reservation :: live :=
    fun other member => List.mem_cons_of_mem reservation member
  constructor
  · intro owner
    have counted := accounted.counted owner
    by_cases same : owner = reservation.owner
    · subst same
      simp only [found, Option.elim_some, List.countP_cons, decide_true, if_true] at counted
      rw [Function.update_self, OwnerState.dropped]
      split
      · simp only [Option.elim_none]
        omega
      · simp only [Option.elim_some]
        omega
    · have apart : reservation.owner ≠ owner := fun equal => same equal.symm
      rw [Function.update_of_ne same]
      simpa [List.countP_cons, apart] using counted
  · intro owner later present
    by_cases same : owner = reservation.owner
    · rw [same, Function.update_self, OwnerState.dropped] at present
      split at present
      · cases present
      · rw [← Option.some.inj present]
        exact Nat.pos_of_ne_zero (by assumption)
    · rw [Function.update_of_ne same] at present
      exact accounted.positive owner later present
  · intro other member
    exact accounted.globalBound other (stays other member)
  · intro other member later present
    exact accounted.bound (stays other member) (accounted.generation_of_drop found member) present
  · intro other member current
    refine accounted.untouched other (stays other member) ⟨current.1, ?_⟩
    rw [← accounted.generation_of_drop found member]
    exact current.2

/-- Revoking an owner makes its live reservations stale. -/
theorem Accounted.revoke (accounted : Accounted live generation owners log) {owner : Owner}
    (found : owners owner = some ownerState) :
    Accounted live generation
      (Function.update owners owner
        (some { ownerState with generation := ownerState.generation + 1 }))
      (.revoked owner :: log) := by
  constructor
  · intro other
    rw [← accounted.counted other]
    by_cases mine : other = owner
    · rw [mine, Function.update_self, found]
      rfl
    · rw [Function.update_of_ne mine]
  · intro other later present
    by_cases mine : other = owner
    · rw [mine, Function.update_self] at present
      rw [← Option.some.inj present]
      exact accounted.positive owner ownerState found
    · rw [Function.update_of_ne mine] at present
      exact accounted.positive other later present
  · exact accounted.globalBound
  · intro reservation member later present
    by_cases mine : reservation.owner = owner
    · have bound := accounted.ownerBound reservation member ownerState (mine ▸ found)
      rw [mine, Function.update_self] at present
      rw [← Option.some.inj present]
      exact Nat.le_succ_of_le bound
    · rw [Function.update_of_ne mine] at present
      exact accounted.ownerBound reservation member later present
  · intro reservation member current
    have generations := current.2
    by_cases mine : reservation.owner = owner
    · have bound := accounted.ownerBound reservation member ownerState (mine ▸ found)
      rw [mine, Function.update_self, Option.map_some] at generations
      have same := Option.some.inj generations
      simp only at same
      omega
    · rw [Function.update_of_ne mine] at generations
      have kept := accounted.untouched reservation member ⟨current.1, generations⟩
      exact ⟨fun equal => mine equal.symm, kept⟩

/-- Revoking an owner without state touches no live reservation. -/
theorem Accounted.revoke_absent (accounted : Accounted live generation owners log)
    {owner : Owner} (absent : owners owner = none) :
    Accounted live generation owners (.revoked owner :: log) where
  counted := accounted.counted
  positive := accounted.positive
  globalBound := accounted.globalBound
  ownerBound := accounted.ownerBound
  untouched reservation member current := by
    obtain ⟨ownerState, found⟩ := accounted.present member
    have differs : owner ≠ reservation.owner := by
      intro equal
      rw [equal, found] at absent
      cases absent
    exact ⟨differs, accounted.untouched reservation member current⟩

/-- An invalidation makes every live reservation stale. -/
theorem Accounted.invalidate (accounted : Accounted live generation owners log) :
    Accounted live (generation + 1) owners (.invalidated :: log) where
  counted := accounted.counted
  positive := accounted.positive
  globalBound reservation member :=
    Nat.le_succ_of_le (accounted.globalBound reservation member)
  ownerBound := accounted.ownerBound
  untouched reservation member current := by
    have bound := accounted.globalBound reservation member
    have same := current.1
    omega

end Accounting

/-- A parked entry is current, and its token was sealed and handed out. -/
structure Backed (codec : Codec Owner Digest Nonce Salt Data Token) (generation : Nat)
    (owners : Owner → Option OwnerState) (sealings : List (Sealing Nonce Data Token))
    (log : List (Event Owner Digest Token)) (entry : Entry Owner Digest Nonce Value) : Prop where
  current : Current generation owners entry.reservation
  owned : entry.binding.principal = entry.reservation.owner
  recorded : ∃ token, ⟨entry.nonce, codec.associatedData entry.binding, token⟩ ∈ sealings ∧
    .inserted token entry.binding entry.reservation.number ∈ log

def State.live (state : State Owner Digest Nonce Data Token Value) : List (Reservation Owner) :=
  state.held ++ (state.dropping ++ state.entries.map Entry.reservation)

/-- The invariant of the registry. -/
structure Sound [DecidableEq Owner] (codec : Codec Owner Digest Nonce Salt Data Token)
    (state : State Owner Digest Nonce Data Token Value) : Prop where
  accounted : Accounted state.live state.globalGeneration state.owners state.log
  backed : ∀ entry ∈ state.entries,
    Backed codec state.globalGeneration state.owners state.sealings state.log entry
  distinct : state.entries.Pairwise fun entry other => entry.nonce ≠ other.nonce
  sealedOnce : ∀ sealing ∈ state.sealings, ∀ other ∈ state.sealings,
    sealing.nonce = other.nonce ∨ sealing.token = other.token → sealing = other
  spent : ∀ token binding number, .consumed token binding number ∈ state.log →
    ∃ sealing ∈ state.sealings, sealing.token = token ∧
      ∀ entry ∈ state.entries, entry.nonce ≠ sealing.nonce
  lawful : Lawful state.log

variable {codec : Codec Owner Digest Nonce Salt Data Token}

variable {entry : Entry Owner Digest Nonce Value}

theorem Backed.logged {generation : Nat} {owners : Owner → Option OwnerState}
    {sealings : List (Sealing Nonce Data Token)} {log : List (Event Owner Digest Token)}
    (event : Event Owner Digest Token)
    (backed : Backed codec generation owners sealings log entry) :
    Backed codec generation owners sealings (event :: log) entry := by
  obtain ⟨token, isSealed, handed⟩ := backed.recorded
  exact ⟨backed.current, backed.owned, token, isSealed, List.mem_cons_of_mem event handed⟩

/-- An entry stays backed while its owner's generation stays. -/
theorem Backed.kept {generation : Nat} {owners later : Owner → Option OwnerState}
    {sealings : List (Sealing Nonce Data Token)} {log : List (Event Owner Digest Token)}
    (backed : Backed codec generation owners sealings log entry)
    (same : (later entry.reservation.owner).map OwnerState.generation = (owners
      entry.reservation.owner).map OwnerState.generation) :
    Backed codec generation later sealings log entry :=
  ⟨⟨backed.current.1, same.trans backed.current.2⟩, backed.owned, backed.recorded⟩

/-- Removing entries sends their reservations on their way out. -/
theorem removing_live (state : State Owner Digest Nonce Data Token Value)
    (removed : Entry Owner Digest Nonce Value → Bool) :
    List.Perm (state.removing removed).live state.live := by
  have split : List.Perm
      ((state.entries.filter removed).map Entry.reservation ++
        (state.entries.filter fun entry => !removed entry).map Entry.reservation)
      (state.entries.map Entry.reservation) := by
    rw [← List.map_append]
    exact (List.filter_append_perm removed state.entries).map Entry.reservation
  refine List.Perm.append_left state.held ?_
  simp only [State.removing, List.append_assoc]
  exact (List.perm_append_comm_assoc _ _ _).trans (List.Perm.append_left state.dropping split)

section Steps

variable [DecidableEq Owner] {state : State Owner Digest Nonce Data Token Value}

/-- Entries that are not backed any more may be removed. -/
theorem sound_removing {removed : Entry Owner Digest Nonce Value → Bool}
    (accounted : Accounted state.live state.globalGeneration state.owners state.log)
    (backed : ∀ entry ∈ state.entries, removed entry = false →
      Backed codec state.globalGeneration state.owners state.sealings state.log entry)
    (distinct : state.entries.Pairwise fun entry other => entry.nonce ≠ other.nonce)
    (sealedOnce : ∀ sealing ∈ state.sealings, ∀ other ∈ state.sealings,
      sealing.nonce = other.nonce ∨ sealing.token = other.token → sealing = other)
    (spent : ∀ token binding number, .consumed token binding number ∈ state.log →
      ∃ sealing ∈ state.sealings, sealing.token = token ∧
        ∀ entry ∈ state.entries, entry.nonce ≠ sealing.nonce)
    (lawful : Lawful state.log) : Sound codec (state.removing removed) where
  accounted := accounted.perm (removing_live state removed)
  backed entry member := by
    obtain ⟨present, kept⟩ := List.mem_filter.mp member
    exact backed entry present (by simpa using kept)
  distinct := distinct.filter _
  sealedOnce := sealedOnce
  spent token binding number consumed := by
    obtain ⟨sealing, isSealed, same, gone⟩ := spent token binding number consumed
    exact ⟨sealing, isSealed, same, fun entry member => gone entry (List.mem_of_mem_filter member)⟩
  lawful := lawful

theorem sound_purgeExpired (sound : Sound codec state) : Sound codec (purgeExpired state) :=
  sound_removing sound.accounted (fun entry member _ => sound.backed entry member)
    sound.distinct sound.sealedOnce sound.spent sound.lawful

/-- What stays parked when an owner is revoked belongs to other owners. -/
theorem sound_revokeOwnerKey (sound : Sound codec state) (owner : Owner) :
    Sound codec (revokeOwnerKey state owner) := by
  have spent : ∀ token binding number,
      .consumed token binding number ∈ Event.revoked owner :: state.log →
      ∃ sealing ∈ state.sealings, sealing.token = token ∧
        ∀ entry ∈ state.entries, entry.nonce ≠ sealing.nonce := by
    intro token binding number consumed
    refine sound.spent token binding number ?_
    simpa using consumed
  unfold revokeOwnerKey
  cases found : state.owners owner with
  | none =>
    exact ⟨sound.accounted.revoke_absent found,
      fun entry member => (sound.backed entry member).logged _,
      sound.distinct, sound.sealedOnce, spent, sound.lawful⟩
  | some ownerState =>
    refine sound_removing (sound.accounted.revoke found) ?_ sound.distinct sound.sealedOnce
      spent sound.lawful
    intro entry member kept
    have backed := sound.backed entry member
    have differs : entry.reservation.owner ≠ owner := by
      rw [← backed.owned]
      simpa using kept
    refine (backed.kept ?_).logged _
    exact congrArg _ (Function.update_of_ne differs _ _)

theorem sound_publishWithInvalidation (sound : Sound codec state) (invalidate : Bool) :
    Sound codec (publishWithInvalidation state invalidate) := by
  unfold publishWithInvalidation
  split
  case isFalse => exact sound
  case isTrue =>
    refine sound_removing sound.accounted.invalidate ?_ sound.distinct sound.sealedOnce
      ?_ sound.lawful
    · intro entry member kept
      cases kept
    · intro token binding number consumed
      refine sound.spent token binding number ?_
      simpa using consumed

theorem sound_reserveAt (sound : Sound codec state) (owner : Owner)
    (expectedGlobalGeneration : Nat) (quota : Bool) :
    Sound codec (reserveAt state owner expectedGlobalGeneration quota) := by
  unfold reserveAt
  split
  case isFalse => exact sound
  case isTrue taken =>
    obtain ⟨_, matching⟩ := Bool.and_eq_true_iff.mp taken
    have same : state.globalGeneration = expectedGlobalGeneration := by simpa using matching
    subst same
    have reserved := sound.accounted.reserve owner state.nextNumber
    refine ⟨reserved, ?_, sound.distinct, sound.sealedOnce, ?_, sound.lawful⟩
    · intro entry member
      have backed := sound.backed entry member
      have live : entry.reservation ∈ state.live :=
        List.mem_append_right _ (List.mem_append_right _ (List.mem_map_of_mem member))
      refine (backed.kept (sound.accounted.generation_of_update ?_ live)).logged _
      intro before found
      simp only [found, Option.getD_some]
    · intro token binding number consumed
      refine sound.spent token binding number ?_
      simpa using consumed

/-- A token that is sealed and not parked. -/
theorem Sound.withSealing (sound : Sound codec state) {nonce : Nonce} (data : Data)
    {token : Token}
    (fresh : ∀ sealing ∈ state.sealings, sealing.nonce ≠ nonce ∧ token ≠ sealing.token) :
    Sound codec { state with sealings := ⟨nonce, data, token⟩ :: state.sealings } where
  accounted := sound.accounted
  backed entry member := by
    have backed := sound.backed entry member
    obtain ⟨other, isSealed, handed⟩ := backed.recorded
    exact ⟨backed.current, backed.owned, other, List.mem_cons_of_mem _ isSealed, handed⟩
  distinct := sound.distinct
  sealedOnce sealing member other otherMember same := by
    rcases List.mem_cons.mp member with rfl | member <;>
      rcases List.mem_cons.mp otherMember with rfl | otherMember
    · rfl
    · obtain ⟨nonceDiffers, tokenDiffers⟩ := fresh other otherMember
      exact (same.elim (fun equal => nonceDiffers equal.symm) tokenDiffers).elim
    · obtain ⟨nonceDiffers, tokenDiffers⟩ := fresh sealing member
      exact (same.elim nonceDiffers fun equal => tokenDiffers equal.symm).elim
    · exact sound.sealedOnce sealing member other otherMember same
  spent consumed binding number logged := by
    obtain ⟨sealing, isSealed, rest⟩ := sound.spent consumed binding number logged
    exact ⟨sealing, List.mem_cons_of_mem _ isSealed, rest⟩
  lawful := sound.lawful

variable {index : Nat}

/-- A caller gives up the reservation it holds. -/
theorem Sound.released (sound : Sound codec state) {reservation : Reservation Owner}
    (found : state.held[index]? = some reservation) :
    Sound codec { state with
      held := state.held.eraseIdx index, dropping := reservation :: state.dropping } where
  accounted := by
    refine sound.accounted.perm (List.perm_middle.trans ?_)
    exact (Runs.eraseIdx_perm found).append_right _
  backed := sound.backed
  distinct := sound.distinct
  sealedOnce := sound.sealedOnce
  spent := sound.spent
  lawful := sound.lawful

/-- A reservation is parked under a nonce that no sealed token had. -/
theorem Sound.parked (sound : Sound codec state) {reservation : Reservation Owner}
    (found : state.held[index]? = some reservation) {binding : ContinuationBinding Owner Digest}
    (value : Value) {nonce : Nonce} {token : Token} (expiresAt : Nat)
    (fresh : ∀ sealing ∈ state.sealings, sealing.nonce ≠ nonce ∧ token ≠ sealing.token)
    (current : Current state.globalGeneration state.owners reservation)
    (owned : binding.principal = reservation.owner)
    (vacant : ∀ entry ∈ state.entries, entry.nonce ≠ nonce) :
    Sound codec { state with
      held := state.held.eraseIdx index
      sealings := ⟨nonce, codec.associatedData binding, token⟩ :: state.sealings
      entries := ⟨nonce, value, binding, expiresAt, reservation⟩ :: state.entries
      log := .inserted token binding reservation.number :: state.log } := by
  have isSealed := sound.withSealing (codec.associatedData binding) fresh
  constructor
  · have moved : List.Perm
        (state.held.eraseIdx index ++
          (state.dropping ++ reservation :: state.entries.map Entry.reservation)) state.live := by
      refine (List.Perm.append_left _ List.perm_middle).trans (List.perm_middle.trans ?_)
      exact (Runs.eraseIdx_perm found).append_right _
    exact (sound.accounted.perm moved).logged fun _ _ kept => kept
  · intro entry member
    rcases List.mem_cons.mp member with rfl | member
    · exact ⟨current, owned, token, List.mem_cons_self .., List.mem_cons_self ..⟩
    · exact (isSealed.backed entry member).logged _
  · exact List.pairwise_cons.mpr ⟨fun entry member => (vacant entry member).symm, sound.distinct⟩
  · exact isSealed.sealedOnce
  · intro consumed other number logged
    have logged : .consumed consumed other number ∈ state.log := by simpa using logged
    obtain ⟨sealing, member, same, gone⟩ := sound.spent consumed other number logged
    refine ⟨sealing, List.mem_cons_of_mem _ member, same, ?_⟩
    intro entry entryMember
    rcases List.mem_cons.mp entryMember with rfl | entryMember
    · exact (fresh sealing member).1.symm
    · exact gone entry entryMember
  · exact sound.lawful

theorem sound_insertReserved [DecidableEq Nonce] (sound : Sound codec state) {ttl : Nat}
    {binding : ContinuationBinding Owner Digest} {value : Value} {nonce : Nonce} {salt : Salt}
    {next : State Owner Digest Nonce Data Token Value}
    (fresh : ∀ sealing ∈ state.sealings, sealing.nonce ≠ nonce ∧ codec.sealToken nonce salt
      (codec.associatedData binding) ≠ some sealing.token)
    (inserted : insertReserved codec ttl state index binding value nonce salt = some next) :
    Sound codec next := by
  unfold insertReserved at inserted
  cases found : state.held[index]? with
  | none =>
    rw [found] at inserted
    cases inserted
  | some reservation =>
    simp only [found] at inserted
    cases sealedAs : codec.sealToken nonce salt (codec.associatedData binding) with
    | none =>
      simp only [sealedAs] at inserted
      rw [← Option.some.inj inserted]
      exact sound.released found
    | some token =>
      have unseen : ∀ sealing ∈ state.sealings,
          sealing.nonce ≠ nonce ∧ token ≠ sealing.token := by
        intro sealing member
        obtain ⟨nonceDiffers, tokenDiffers⟩ := fresh sealing member
        refine ⟨nonceDiffers, ?_⟩
        intro equal
        exact tokenDiffers (equal ▸ sealedAs)
      simp only [sealedAs] at inserted
      split at inserted
      case isTrue accepted =>
        obtain ⟨_, ownerGeneration, owned, generation, vacant⟩ := accepted
        rw [← Option.some.inj inserted]
        exact sound.parked found value (state.clock + ttl) unseen ⟨generation, ownerGeneration⟩
          owned vacant
      case isFalse =>
        rw [← Option.some.inj inserted]
        exact (sound.withSealing _ unseen).released found

/-- The entry under a nonce and the entries under other nonces are all there is. -/
theorem Sound.removed_perm [DecidableEq Nonce] (sound : Sound codec state)
    (member : entry ∈ state.entries) :
    List.Perm (entry :: state.entries.filter fun other => other.nonce ≠ entry.nonce)
      state.entries := by
  have distinct := sound.distinct
  generalize state.entries = entries at member distinct
  induction entries with
  | nil => cases member
  | cons first rest ih =>
    obtain ⟨apart, distinct⟩ := List.pairwise_cons.mp distinct
    rcases List.mem_cons.mp member with rfl | member
    · have all : (rest.filter fun other => other.nonce ≠ entry.nonce) = rest := by
        apply List.filter_eq_self.mpr
        intro other otherMember
        simpa using (apart other otherMember).symm
      simp only [List.filter_cons, ne_eq, not_true_eq_false, decide_false, Bool.false_eq_true,
        if_false] at all ⊢
      rw [all]
    · have differs := apart entry member
      rw [List.filter_cons_of_pos (by simpa using differs)]
      exact (List.Perm.swap first entry _).trans
        ((ih member distinct).cons first)

/-- Taking an entry out of the registry, before it is looked at. -/
theorem Sound.taken [DecidableEq Nonce] (sound : Sound codec state) (member : entry ∈ state.entries)
    {held dropping : List (Reservation Owner)}
    (moved : List.Perm (held ++ dropping) (entry.reservation :: (state.held ++ state.dropping))) :
    Sound codec { state with
      entries := state.entries.filter fun other => other.nonce ≠ entry.nonce
      held := held, dropping := dropping } where
  accounted := by
    refine sound.accounted.perm ?_
    rw [State.live, State.live, ← List.append_assoc, ← List.append_assoc]
    refine (moved.append_right _).trans ?_
    refine List.perm_middle.symm.trans (List.Perm.append_left _ ?_)
    exact (sound.removed_perm member).map Entry.reservation
  backed other otherMember := sound.backed other (List.mem_of_mem_filter otherMember)
  distinct := sound.distinct.filter _
  sealedOnce := sound.sealedOnce
  spent token binding number consumed := by
    obtain ⟨sealing, isSealed, same, gone⟩ := sound.spent token binding number consumed
    exact ⟨sealing, isSealed, same,
      fun other otherMember => gone other (List.mem_of_mem_filter otherMember)⟩
  lawful := sound.lawful

theorem sound_consume [DecidableEq Digest] [DecidableEq Nonce] (sound : Sound codec state)
    {token : Token} {binding : ContinuationBinding Owner Digest}
    (authentic : ∀ nonce,
      codec.openToken state.clock token (codec.associatedData binding) = some nonce →
        ⟨nonce, codec.associatedData binding, token⟩ ∈ state.sealings) :
    Sound codec (consume codec state token binding) := by
  unfold consume
  split
  case isFalse => exact sound
  case isTrue =>
  cases openedAs : codec.openToken state.clock token (codec.associatedData binding) with
  | none => exact sound
  | some nonce =>
    cases found : state.entries.find? fun entry => entry.nonce = nonce with
    | none =>
      simp only [found]
      exact sound
    | some entry =>
      have member : entry ∈ state.entries := List.mem_of_find?_eq_some found
      have matching : entry.nonce = nonce := by simpa using List.find?_some found
      subst matching
      simp only [found]
      split
      case isTrue => exact sound.taken member List.perm_middle
      case isFalse accepted =>
        obtain ⟨_, same⟩ := not_or.mp accepted
        have same : entry.binding = binding := Decidable.not_not.mp same
        subst same
        have isSealed := authentic entry.nonce openedAs
        have backed := sound.backed entry member
        -- The token handed out for this nonce is the one presented now.
        obtain ⟨handedOut, handedSealed, handed⟩ := backed.recorded
        have equal := sound.sealedOnce _ handedSealed _ isSealed (Or.inl rfl)
        have tokens : handedOut = token := congrArg Sealing.token equal
        subst tokens
        have live : entry.reservation ∈ state.live :=
          List.mem_append_right _ (List.mem_append_right _ (List.mem_map_of_mem member))
        have untouched := sound.accounted.untouched entry.reservation live backed.current
        have unspent : ∀ other number, .consumed handedOut other number ∉ state.log := by
          intro other number consumed
          obtain ⟨sealing, sealingMember, tokenSame, gone⟩ :=
            sound.spent handedOut other number consumed
          have same := sound.sealedOnce _ sealingMember _ isSealed (Or.inr tokenSame)
          exact gone entry member (congrArg Sealing.nonce same).symm
        have taken := sound.taken member
          (List.Perm.refl (entry.reservation :: state.held ++ state.dropping))
        refine ⟨taken.accounted.logged fun _ _ kept => kept,
          fun other otherMember => (taken.backed other otherMember).logged _,
          taken.distinct, taken.sealedOnce, ?_, ?_⟩
        · intro consumed other number logged
          cases List.mem_cons.mp logged with
          | inl first =>
            obtain ⟨rfl, rfl, rfl⟩ := Event.consumed.inj first
            refine ⟨_, isSealed, rfl, ?_⟩
            intro other otherMember
            simpa using (List.mem_filter.mp otherMember).2
          | inr logged => exact taken.spent consumed other number logged
        · exact ⟨unspent, handed, backed.owned ▸ untouched, sound.lawful⟩

theorem sound_dropReservation (sound : Sound codec state)
    {next : State Owner Digest Nonce Data Token Value}
    (dropped : dropReservation state index = some next) : Sound codec next := by
  unfold dropReservation at dropped
  cases found : state.dropping[index]? with
  | none =>
    rw [found] at dropped
    cases dropped
  | some reservation =>
    have moved : List.Perm
        (reservation :: (state.held ++
          (state.dropping.eraseIdx index ++ state.entries.map Entry.reservation)))
        state.live := by
      refine List.perm_middle.symm.trans (List.Perm.append_left state.held ?_)
      exact (Runs.eraseIdx_perm found).append_right _
    have accounted := sound.accounted.perm moved
    obtain ⟨ownerState, present⟩ := accounted.present (List.mem_cons_self ..)
    simp only [found, present] at dropped
    rw [← Option.some.inj dropped]
    have after := accounted.drop present
    refine ⟨after, ?_, sound.distinct, sound.sealedOnce, sound.spent, sound.lawful⟩
    intro entry member
    refine (sound.backed entry member).kept (accounted.generation_of_drop present ?_)
    exact List.mem_append_right _ (List.mem_append_right _ (List.mem_map_of_mem member))

end Steps

section Runs

theorem sound_initial [DecidableEq Owner] (codec : Codec Owner Digest Nonce Salt Data Token) :
    Sound codec (initial : State Owner Digest Nonce Data Token Value) where
  accounted := by constructor <;> simp [initial, State.live]
  backed := by simp [initial]
  distinct := List.Pairwise.nil
  sealedOnce := by simp [initial]
  spent := by simp [initial]
  lawful := trivial

variable [DecidableEq Owner] [DecidableEq Digest] [DecidableEq Nonce]

theorem step_sound (codec : Codec Owner Digest Nonce Salt Data Token) (ttl : Nat)
    (state : State Owner Digest Nonce Data Token Value)
    (action : Action Owner Digest Nonce Salt Token Value)
    (next : State Owner Digest Nonce Data Token Value) (trusted : Trusted codec state action)
    (sound : Sound codec state) (stepped : step codec ttl state action = some next) :
    Sound codec next := by
  cases action with
  | reserveAt owner expected quota =>
    rw [← Option.some.inj stepped]
    exact sound_reserveAt sound owner expected quota
  | insertReserved index binding value nonce salt =>
    exact sound_insertReserved sound trusted stepped
  | consume token binding =>
    rw [← Option.some.inj stepped]
    exact sound_consume sound trusted
  | purge =>
    rw [← Option.some.inj stepped]
    exact sound_purgeExpired sound
  | revokeOwnerKey owner =>
    rw [← Option.some.inj stepped]
    exact sound_revokeOwnerKey sound owner
  | clear =>
    rw [← Option.some.inj stepped]
    exact sound_publishWithInvalidation sound true
  | publishWithInvalidation invalidate =>
    rw [← Option.some.inj stepped]
    exact sound_publishWithInvalidation sound invalidate
  | giveUp index =>
    simp only [step] at stepped
    split at stepped
    · cases stepped
    · rename_i found
      rw [← Option.some.inj stepped]
      exact sound.released found
  | drop index => exact sound_dropReservation sound stepped
  | tick elapsed =>
    rw [← Option.some.inj stepped]
    exact ⟨sound.accounted, sound.backed, sound.distinct, sound.sealedOnce, sound.spent,
      sound.lawful⟩

/-- In every interleaving a token is consumed at most once, with the binding it
was inserted with, and only if nothing was invalidated and its owner was not
revoked since its reservation. -/
theorem continuation_used_once (codec : Codec Owner Digest Nonce Salt Data Token) (ttl : Nat)
    (trace : List (Action Owner Digest Nonce Salt Token Value))
    (final : State Owner Digest Nonce Data Token Value)
    (trusted : Runs.Admitted (step codec ttl) (Trusted codec) initial trace)
    (ran : Runs.exec (step codec ttl) initial trace = some final) : Lawful final.log :=
  (Runs.exec_invariant (step codec ttl) (Trusted codec) (Sound codec)
    (step_sound codec ttl) trace initial final (sound_initial codec) trusted ran).lawful

end Runs

/-- A codec whose tokens show what was sealed. -/
def plainCodec :
    Codec Nat Nat Nat Nat (ContinuationBinding Nat Nat) (Nat × Nat × ContinuationBinding Nat Nat)
    where
  associatedData binding := binding
  sealToken nonce salt data := some (nonce, salt, data)
  openToken _ token data := if token.2.2 = data then some token.1 else none
  length _ := 64

def sampleBinding : ContinuationBinding Nat Nat :=
  ⟨1, 10, 20, 0, .nativeToolRound⟩

/-- Two callers present one token; before, an invalidation caught a reservation
that was not parked yet. -/
def presentedTwice : List (Action Nat Nat Nat Nat (Nat × Nat × ContinuationBinding Nat Nat) Unit) :=
  [.reserveAt 1 0 true, .clear, .insertReserved 0 sampleBinding () 6 0, .drop 0,
    .reserveAt 1 1 true, .insertReserved 0 sampleBinding () 7 0,
    .consume (7, 0, sampleBinding) sampleBinding, .consume (7, 0, sampleBinding) sampleBinding]

theorem continuation_used_once_presented_twice :
    ∃ final, Runs.exec (step plainCodec 300) initial presentedTwice = some final ∧
      final.log = [.consumed (7, 0, sampleBinding) sampleBinding 1,
        .inserted (7, 0, sampleBinding) sampleBinding 1, .reserved 1, .invalidated, .reserved 0] ∧
      Lawful final.log := by
  refine ⟨_, rfl, by decide, ?_⟩
  exact continuation_used_once plainCodec 300 presentedTwice _ (by decide) rfl

end Plug.Continuations
