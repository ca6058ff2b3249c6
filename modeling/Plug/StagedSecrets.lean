import Mathlib.Data.List.Induction
import Plug.KeyedMutations

/-!
# What staging records

While credentials are moved to a store, each name that changes is recorded with what it held
before, once. Putting back the recorded values leaves every name as it was, except for those that
are reported. Forgetting removes only what no remaining field refers to.
-/

namespace Plug.Secrets

open Text Operator

variable (digest : Digest) (others : OtherStores) (answers : Answers) (store : StoreId)
  (serverName : List Char)

/-! ### Parts of a value -/

theorem find_text (store : StoreId) : StoreId.find store.text = some store := by
  cases store with
  | keychain => rfl
  | file => rfl

theorem text_of_find {text : List Char} {store : StoreId} (found : StoreId.find text = some store) :
    text = store.text := by
  unfold StoreId.find at found
  split at found
  · rename_i same
    cases found
    exact same
  · split at found
    · rename_i same
      cases found
      exact same
    · cases found

theorem splitOnce_reference (store : StoreId) (name : List Char) :
    splitOnce [':'] (reference store name) = some (store.text, name) := by
  have first : splitOnce [':'] (store.text ++ [':']) = some (store.text, []) := by
    cases store with
    | keychain => decide
    | file => decide
  have whole := splitOnce_append first name
  rw [List.append_assoc] at whole
  exact whole

variable {name value field : List Char} {server : Server} {before : List Char → Option (List Char)}
  {staged : Staged}

theorem parse_reference (valid : validName name = true) :
    parse others (reference store name) = some (store.text, name) := by
  rw [parse, splitOnce_reference, Option.filter_some_pos]
  dsimp only
  rw [find_text]
  exact valid

theorem parse_nameFor (field : List Char) :
    parse others (reference store (nameFor digest serverName field)) =
      some (store.text, nameFor digest serverName field) :=
  parse_reference others store (validName_nameFor digest serverName field)

/-- A reference to one of the two stores is written in one way. -/
theorem reference_of_parse {store : StoreId}
    (parsed : parse others value = some (store.text, name)) :
    value = reference store name ∧ validName name = true := by
  obtain ⟨split, accepted⟩ := Option.filter_eq_some_iff.mp parsed
  dsimp only at accepted
  rw [find_text] at accepted
  have whole := (splitOnce_eq_some_iff.mp split).1
  rw [List.append_assoc] at whole
  exact ⟨whole, accepted⟩

theorem validName_plain (valid : validName name = true) : '$' ∉ name := by
  intro member
  simp only [validName, Bool.and_eq_true, List.all_eq_true] at valid
  exact absurd (valid.2 '$' member) (by decide)

theorem refersToEnv_plain (plain : '$' ∉ value) : refersToEnv value = false := by
  rw [refersToEnv, List.any_eq_false]
  rintro ⟨mark, next⟩ member
  have inside := (List.of_mem_zip member).1
  have other : (mark == '$') = false := beq_false_of_ne fun same => plain (same ▸ inside)
  simp [other]

theorem reference_plain (valid : validName name = true) :
    refersToEnv (reference store name) = false := by
  apply refersToEnv_plain
  rw [reference, List.mem_append, List.mem_cons, not_or, not_or]
  refine ⟨?_, by decide, validName_plain valid⟩
  cases store with
  | keychain => decide
  | file => decide

/-! ### Fields -/

theorem fields_distinct (server : Server) : ((fields server).map Prod.fst).Nodup := by
  have keys : (server.config.env.map fun entry => envField entry.1.toList).Nodup := by
    have injective : Function.Injective fun key : String => envField key.toList := by
      intro first second same
      exact String.toList_injective (envField_injective same)
    have mapped := server.envDistinct.map injective
    rwa [List.map_map] at mapped
  rw [fields, List.map_append, List.map_map, List.map_map, List.nodup_append]
  refine ⟨?_, keys, ?_⟩
  · cases server.config.authToken with
    | none => exact List.nodup_nil
    | some token => exact List.nodup_singleton _
  · intro first token second env same
    obtain ⟨value, _, rfl⟩ := List.mem_map.mp token
    obtain ⟨entry, _, rfl⟩ := List.mem_map.mp env
    exact envField_ne_token _ same.symm

theorem field_unique {other : List Char} (first : (field, value) ∈ fields server)
    (second : (field, other) ∈ fields server) : value = other := by
  have same := List.inj_on_of_nodup_map (fields_distinct server) first second rfl
  exact congrArg Prod.snd same

/-- The fields whose values are moved to a store if they are credentials in the clear. -/
def offered (server : Server) : List (Field × List Char) :=
  (server.config.authToken.toList.map fun token => (Field.bearer, token.toList)) ++
    server.config.env.filterMap fun entry =>
      if secret : looksSecret entry.1.toList = true then
        some (Field.env entry.1.toList secret, entry.2.toList)
      else none

theorem fields_of_offered {field : Field} (member : (field, value) ∈ offered server) :
    (field.stored, value) ∈ fields server := by
  rw [offered, List.mem_append] at member
  rw [fields, List.mem_append]
  rcases member with token | env
  · obtain ⟨text, present, same⟩ := List.mem_map.mp token
    cases same
    exact Or.inl (List.mem_map.mpr ⟨text, present, rfl⟩)
  · obtain ⟨entry, present, same⟩ := List.mem_filterMap.mp env
    split at same
    · cases same
      exact Or.inr (List.mem_map.mpr ⟨entry, present, rfl⟩)
    · cases same

/-! ### Writing under names -/

/-- The value is moved to the store. -/
def accepted (field value : List Char) : Bool :=
  isClear others value && answers.reads field && answers.writes field

def write (staged : Staged) (name value : List Char) : Staged where
  held := Function.update staged.held name (some value)
  kept := if staged.kept.any fun seen => seen.1 == name then staged.kept
    else staged.kept ++ [(name, staged.held name)]

theorem put_eq (field value : List Char) (staged : Staged) :
    put digest others answers store serverName field value staged =
      if accepted others answers field value then
        (some (reference store (nameFor digest serverName field)),
          write staged (nameFor digest serverName field) value)
      else (none, staged) := by
  unfold put accepted isClear
  cases isLiteral value with
  | false => simp
  | true =>
    cases parse others value with
    | some parts => simp
    | none =>
      cases answers.reads field with
      | false => simp
      | true =>
        cases answers.writes field with
        | false => simp
        | true => rfl

/-- The record of what changed since the store held `before`. -/
structure Recorded (before : List Char → Option (List Char)) (staged : Staged) : Prop where
  distinct : (staged.kept.map Prod.fst).Nodup
  former : ∀ entry ∈ staged.kept, entry.2 = before entry.1
  changed : ∀ name, staged.held name ≠ before name → name ∈ staged.kept.map Prod.fst

theorem recorded_start (before : List Char → Option (List Char)) :
    Recorded before ⟨before, []⟩ := by
  refine ⟨List.nodup_nil, ?_, ?_⟩
  · intro entry member
    cases member
  · intro name different
    exact absurd rfl different

theorem Recorded.write (recorded : Recorded before staged) (name value : List Char) :
    Recorded before (write staged name value) := by
  by_cases seen : (staged.kept.any fun entry => entry.1 == name) = true
  · have present : name ∈ staged.kept.map Prod.fst := by
      obtain ⟨entry, member, same⟩ := List.any_eq_true.mp seen
      exact List.mem_map.mpr ⟨entry, member, eq_of_beq same⟩
    have kept : (Secrets.write staged name value).kept = staged.kept := if_pos seen
    refine ⟨kept ▸ recorded.distinct, kept ▸ recorded.former, ?_⟩
    intro other different
    rw [kept]
    by_cases own : other = name
    · exact own ▸ present
    · refine recorded.changed other ?_
      intro same
      exact different ((Function.update_of_ne own _ _).trans same)
  · have absent : name ∉ staged.kept.map Prod.fst := by
      intro member
      obtain ⟨entry, present, same⟩ := List.mem_map.mp member
      exact seen (List.any_eq_true.mpr ⟨entry, present, beq_iff_eq.mpr same⟩)
    have kept : (Secrets.write staged name value).kept =
        staged.kept ++ [(name, staged.held name)] := if_neg seen
    have unchanged : staged.held name = before name := by
      by_contra different
      exact absent (recorded.changed name different)
    refine ⟨?_, ?_, ?_⟩
    · rw [kept, List.map_append, List.map_singleton]
      exact recorded.distinct.append (List.nodup_singleton name)
        (List.disjoint_singleton.mpr absent)
    · intro entry member
      rw [kept, List.mem_append, List.mem_singleton] at member
      rcases member with early | rfl
      · exact recorded.former entry early
      · exact unchanged
    · intro other different
      rw [kept, List.map_append, List.mem_append, List.map_singleton, List.mem_singleton]
      by_cases own : other = name
      · exact Or.inr own
      · refine Or.inl (recorded.changed other ?_)
        intro same
        exact different ((Function.update_of_ne own _ _).trans same)

/-- A field that is offered, after the ones before it. -/
def writeField (staged : Staged) (entry : Field × List Char) : Staged :=
  if accepted others answers entry.1.stored entry.2 then
    write staged (nameFor digest serverName entry.1.stored) entry.2
  else staged

theorem put_offered (field : Field) (value : List Char) (staged : Staged) :
    (put digest others answers store serverName field.stored value staged).2 =
      writeField digest others answers serverName staged (field, value) := by
  rw [put_eq, writeField]
  split
  · rfl
  · rfl

theorem putEnv_staged (env : List (String × String)) (staged : Staged) :
    (putEnv digest others answers store serverName env staged).2 =
      (env.filterMap fun entry =>
        if secret : looksSecret entry.1.toList = true then
          some (Field.env entry.1.toList secret, entry.2.toList)
        else none).foldl (writeField digest others answers serverName) staged := by
  induction env generalizing staged with
  | nil => rfl
  | cons entry rest ih =>
    obtain ⟨key, value⟩ := entry
    rw [putEnv]
    by_cases secret : looksSecret key.toList = true
    · rw [if_pos secret]
      dsimp only
      rw [List.filterMap_cons_some (dif_pos secret), List.foldl_cons, ih,
        ← put_offered digest others answers store]
      rfl
    · rw [if_neg secret]
      dsimp only
      rw [List.filterMap_cons_none (dif_neg secret), ih]

/-- What is staged is written field by field. -/
theorem keepStaged_staged (server : Server) (held : List Char → Option (List Char)) :
    (keepStaged digest others answers store serverName server held).2 =
      (offered server).foldl (writeField digest others answers serverName) ⟨held, []⟩ := by
  rw [offered, List.foldl_append]
  refine (putEnv_staged digest others answers store serverName _ _).trans ?_
  cases server.config.authToken with
  | none => rfl
  | some token =>
    have first := put_offered digest others answers store serverName .bearer token.toList ⟨held, []⟩
    exact congrArg (List.foldl _ · _) first

theorem recorded_fold (entries : List (Field × List Char)) (recorded : Recorded before staged) :
    Recorded before (entries.foldl (writeField digest others answers serverName) staged) := by
  induction entries generalizing staged with
  | nil => exact recorded
  | cons entry rest ih =>
    refine ih ?_
    unfold writeField
    split
    · exact recorded.write _ _
    · exact recorded

theorem keepStaged_recorded (server : Server) (held : List Char → Option (List Char)) :
    Recorded held (keepStaged digest others answers store serverName server held).2 := by
  rw [keepStaged_staged]
  exact recorded_fold digest others answers serverName _ (recorded_start held)

/-- A name that no accepted field has is left alone. -/
theorem fold_other (entries : List (Field × List Char)) (staged : Staged)
    (apart : ∀ entry ∈ entries, accepted others answers entry.1.stored entry.2 = true → nameFor
      digest serverName entry.1.stored ≠ name) :
    (entries.foldl (writeField digest others answers serverName) staged).held name =
      staged.held name := by
  induction entries generalizing staged with
  | nil => rfl
  | cons entry rest ih =>
    rw [List.foldl_cons, ih _ fun later member =>
      apart later (List.mem_cons_of_mem entry member)]
    unfold writeField
    split
    · rename_i taken
      exact Function.update_of_ne (apart entry List.mem_cons_self taken).symm _ _
    · rfl

/-- Under the name of an accepted field there is the value of the last field of that name. -/
theorem fold_stored (entries : List (Field × List Char)) (staged : Staged)
    (named : ∃ entry ∈ entries, accepted others answers entry.1.stored entry.2 = true ∧ nameFor
      digest serverName entry.1.stored = name) :
    ∃ entry ∈ entries, accepted others answers entry.1.stored entry.2 = true ∧
      nameFor digest serverName entry.1.stored = name ∧
      (entries.foldl (writeField digest others answers serverName) staged).held name =
        some entry.2 := by
  induction entries using List.reverseRecOn with
  | nil =>
    obtain ⟨entry, member, _⟩ := named
    cases member
  | append_singleton rest last ih =>
    rw [List.foldl_append, List.foldl_cons, List.foldl_nil]
    by_cases final : accepted others answers last.1.stored last.2 = true ∧
        nameFor digest serverName last.1.stored = name
    · refine ⟨last, by simp, final.1, final.2, ?_⟩
      rw [writeField, if_pos final.1, final.2]
      exact Function.update_self name _ _
    · obtain ⟨entry, member, takes, same⟩ := named
      have early : entry ∈ rest := by
        rcases List.mem_append.mp member with early | own
        · exact early
        · obtain rfl := List.mem_singleton.mp own
          exact absurd ⟨takes, same⟩ final
      obtain ⟨other, present, accepts, called, holds⟩ :=
        ih ⟨entry, early, takes, same⟩
      refine ⟨other, List.mem_append_left _ present, accepts, called, ?_⟩
      unfold writeField
      split
      · rename_i taken
        exact (Function.update_of_ne (fun equal => final ⟨taken, equal.symm⟩) _ _).trans holds
      · exact holds

theorem put_written (field value : List Char) (staged : Staged) :
    (put digest others answers store serverName field value staged).1 =
      if accepted others answers field value then
        some (reference store (nameFor digest serverName field))
      else none := by
  rw [put_eq]
  split
  · rfl
  · rfl

theorem putToken_value {token : Option String} {value : String}
    (present : (putToken digest others answers store serverName token staged).1 = some value) :
    ∃ typed, token = some typed ∧ (value = typed ∨
      (accepted others answers tokenField typed.toList = true ∧
        value = String.ofList (reference store (nameFor digest serverName tokenField)))) := by
  cases token with
  | none => cases present
  | some typed =>
    refine ⟨typed, rfl, ?_⟩
    have written : (((put digest others answers store serverName tokenField typed.toList
        staged).1.map String.ofList).getD typed) = value := Option.some.inj present
    rw [put_written] at written
    split at written
    · rename_i taken
      exact Or.inr ⟨taken, written.symm⟩
    · exact Or.inl written.symm

theorem putEnv_value {env : List (String × String)} {key value : String}
    (present : (key, value) ∈ (putEnv digest others answers store serverName env staged).1) :
    ∃ typed, (key, typed) ∈ env ∧ (value = typed ∨
      (looksSecret key.toList = true ∧
        accepted others answers (envField key.toList) typed.toList = true ∧
        value = String.ofList
          (reference store (nameFor digest serverName (envField key.toList))))) := by
  induction env generalizing staged with
  | nil => cases present
  | cons entry rest ih =>
    obtain ⟨name, typed⟩ := entry
    rw [putEnv] at present
    split at present
    · rename_i secret
      rcases List.mem_cons.mp present with here | later
      · obtain ⟨rfl, written⟩ := Prod.mk.inj here
        refine ⟨typed, List.mem_cons_self, ?_⟩
        rw [put_written] at written
        split at written
        · rename_i taken
          exact Or.inr ⟨secret, taken, written⟩
        · exact Or.inl written
      · obtain ⟨found, member, kinds⟩ := ih later
        exact ⟨found, List.mem_cons_of_mem _ member, kinds⟩
    · rcases List.mem_cons.mp present with here | later
      · cases here
        exact ⟨value, List.mem_cons_self, Or.inl rfl⟩
      · obtain ⟨found, member, kinds⟩ := ih later
        exact ⟨found, List.mem_cons_of_mem _ member, kinds⟩

/-- Nothing that was stored is gone. -/
theorem keepStaged_stored (server : Server) (held : List Char → Option (List Char))
    (stored : (held name).isSome = true) :
    ((keepStaged digest others answers store serverName server held).2.held name).isSome = true := by
  rw [keepStaged_staged]
  by_cases named : ∃ entry ∈ offered server, accepted others answers entry.1.stored entry.2 = true ∧
      nameFor digest serverName entry.1.stored = name
  · obtain ⟨entry, _, _, _, holds⟩ := fold_stored digest others answers serverName _ ⟨held, []⟩ named
    rw [holds]
    rfl
  · rw [fold_other digest others answers serverName _ ⟨held, []⟩ fun entry member taken same =>
      named ⟨entry, member, taken, same⟩]
    exact stored

/-- A field of the kept server is as it was, or has the reference that stands for its value. -/
theorem keepStaged_fields {held : List Char → Option (List Char)}
    (member : (field, value) ∈ fields (keepStaged digest others answers store serverName server
      held).1) :
    (field, value) ∈ fields server ∨
      ∃ own typed, (own, typed) ∈ offered server ∧ own.stored = field ∧
        accepted others answers field typed = true ∧
        value = reference store (nameFor digest serverName field) := by
  rcases List.mem_append.mp member with token | env
  · obtain ⟨text, present, same⟩ := List.mem_map.mp token
    cases same
    obtain ⟨typed, given, kinds⟩ :=
      putToken_value digest others answers store serverName (Option.mem_toList.mp present)
    have offers : (Field.bearer, typed.toList) ∈ offered server := by
      rw [offered, given]
      exact List.mem_append_left _ List.mem_cons_self
    rcases kinds with rfl | ⟨taken, rfl⟩
    · exact Or.inl (fields_of_offered offers)
    · exact Or.inr ⟨.bearer, typed.toList, offers, rfl, taken, String.toList_ofList⟩
  · obtain ⟨⟨key, text⟩, present, same⟩ := List.mem_map.mp env
    cases same
    obtain ⟨typed, given, kinds⟩ := putEnv_value digest others answers store serverName present
    rcases kinds with rfl | ⟨secret, taken, rfl⟩
    · exact Or.inl (List.mem_append_right _ (List.mem_map.mpr ⟨(key, text), given, rfl⟩))
    · refine Or.inr ⟨.env key.toList secret, typed.toList, ?_, rfl, taken, String.toList_ofList⟩
      exact List.mem_append_right _ (List.mem_filterMap.mpr ⟨(key, typed), given, dif_pos secret⟩)

/-! ### Placeholders -/

/-- A restored field is as it was, or has the stored value in place of a placeholder. -/
theorem restore_fields {stored : Option Server}
    (member : (field, value) ∈ fields (server.restoreRedactedSecrets stored)) :
    ((field, value) ∈ fields server ∧ value ≠ redactedSecret.toList) ∨
      ((field, redactedSecret.toList) ∈ fields server ∧
        ∃ former, stored = some former ∧ (field, value) ∈ fields former) := by
  rcases List.mem_append.mp member with token | env
  · obtain ⟨text, present, same⟩ := List.mem_map.mp token
    cases same
    have restored := Option.mem_toList.mp present
    simp only [Server.restoreRedactedSecrets] at restored
    by_cases placeholder : server.config.authToken = some redactedSecret
    · rw [if_pos placeholder] at restored
      obtain ⟨former, given, holds⟩ := Option.bind_eq_some_iff.mp restored
      refine Or.inr ⟨List.mem_append_left _ (List.mem_map.mpr ⟨redactedSecret, ?_, rfl⟩), former,
        given, List.mem_append_left _ (List.mem_map.mpr ⟨text, ?_, rfl⟩)⟩
      · exact Option.mem_toList.mpr placeholder
      · exact Option.mem_toList.mpr holds
    · rw [if_neg placeholder] at restored
      refine Or.inl ⟨List.mem_append_left _ (List.mem_map.mpr ⟨text, ?_, rfl⟩), ?_⟩
      · exact Option.mem_toList.mpr restored
      · intro same
        exact placeholder (restored.trans (congrArg some (String.toList_injective same)))
  · obtain ⟨⟨key, text⟩, present, same⟩ := List.mem_map.mp env
    cases same
    obtain ⟨⟨other, typed⟩, inside, kept⟩ := List.mem_filterMap.mp present
    dsimp only at kept
    by_cases plain : typed ≠ redactedSecret
    · rw [if_pos plain] at kept
      cases kept
      refine Or.inl ⟨List.mem_append_right _ (List.mem_map.mpr ⟨(key, text), inside, rfl⟩), ?_⟩
      exact fun same => plain (String.toList_injective same)
    · rw [if_neg plain] at kept
      obtain ⟨original, found, same⟩ := Option.map_eq_some_iff.mp kept
      cases same
      have placeholder := not_not.mp plain
      cases stored with
      | none => cases found
      | some former =>
        refine Or.inr ⟨List.mem_append_right _ (List.mem_map.mpr ⟨(key, typed), inside, ?_⟩), former,
          rfl, List.mem_append_right _ (List.mem_map.mpr ⟨(key, text), Tables.mem_of_lookup found, rfl⟩)⟩
        rw [placeholder]

/-- A placeholder that is restored twice stands for the same value. -/
theorem restore_placeholder {stored : Option Server}
    (member : (field, redactedSecret.toList) ∈ fields (server.restoreRedactedSecrets stored)) :
    ∃ former, stored = some former ∧ (field, redactedSecret.toList) ∈ fields former := by
  rcases restore_fields member with ⟨_, plain⟩ | ⟨_, restored⟩
  · exact absurd rfl plain
  · exact restored

/-! ### Putting back -/

/-- A name has what it had before, or is reported. -/
theorem putBack_restores (kept : List (List Char × Option (List Char)))
    (held : List Char → Option (List Char)) (lost : List (List Char))
    (former : ∀ entry ∈ kept, entry.2 = before entry.1)
    (changed : ∀ name, held name ≠ before name → name ∈ kept.map Prod.fst ∨ name ∈ lost)
    (name : List Char) :
    (putBack answers held kept).1 name = before name ∨ name ∈ (putBack answers held kept).2 ∨
      name ∈ lost := by
  induction kept generalizing held lost with
  | nil =>
    by_cases same : held name = before name
    · exact Or.inl same
    · rcases changed name same with member | given
      · cases member
      · exact Or.inr (Or.inr given)
  | cons entry rest ih =>
    obtain ⟨key, value⟩ := entry
    have own : value = before key := former (key, value) List.mem_cons_self
    have later : ∀ entry ∈ rest, entry.2 = before entry.1 := fun entry member =>
      former entry (List.mem_cons_of_mem _ member)
    rw [putBack]
    split
    · refine ih (Function.update held key value) lost later ?_
      intro other different
      by_cases same : other = key
      · subst same
        rw [Function.update_self] at different
        exact absurd own different
      · rw [Function.update_of_ne same] at different
        rcases changed other different with member | given
        · rcases List.mem_cons.mp member with equal | inside
          · exact absurd equal same
          · exact Or.inl inside
        · exact Or.inr given
    · have others := ih held (key :: lost) later (by
        intro other different
        rcases changed other different with member | given
        · rcases List.mem_cons.mp member with equal | inside
          · exact Or.inr (equal ▸ List.mem_cons_self)
          · exact Or.inl inside
        · exact Or.inr (List.mem_cons_of_mem key given))
      rcases others with restored | reported | given
      · exact Or.inl restored
      · exact Or.inr (Or.inl (List.mem_cons_of_mem key reported))
      · rcases List.mem_cons.mp given with equal | inside
        · exact Or.inr (Or.inl (equal ▸ List.mem_cons_self))
        · exact Or.inr (Or.inr inside)

theorem Recorded.putBack (recorded : Recorded before staged) (name : List Char) :
    (Secrets.putBack answers staged.held staged.kept).1 name = before name ∨
      name ∈ (Secrets.putBack answers staged.held staged.kept).2 := by
  have restored := putBack_restores answers staged.kept staged.held [] recorded.former
    (fun other different => Or.inl (recorded.changed other different)) name
  simpa using restored

/-- Nothing fails to be put back in a store that answers. -/
theorem putBack_succeeds (kept : List (List Char × Option (List Char)))
    (held : List Char → Option (List Char)) : (putBack Answers.succeed held kept).2 = [] := by
  induction kept generalizing held with
  | nil => rfl
  | cons entry rest ih =>
    obtain ⟨key, value⟩ := entry
    exact ih (Function.update held key value)

/-! ### Forgetting -/

theorem forgetField_keeps {inUse : List (List Char)} (vault : Vault) (entry : List Char × List Char)
    {store : StoreId} (used : reference store name ∈ inUse) :
    forgetField digest others answers serverName inUse vault entry store name =
      vault store name := by
  unfold forgetField
  split
  · rfl
  · rename_i unused
    cases parsed : parse others entry.2 with
    | none => rfl
    | some parts =>
      obtain ⟨id, own⟩ := parts
      dsimp only
      cases found : StoreId.find id with
      | none => rfl
      | some owner =>
        dsimp only
        split
        · obtain rfl := text_of_find found
          have written := (reference_of_parse others parsed).1
          by_cases same : store = owner
          · subst same
            have apart : name ≠ own := by
              rintro rfl
              exact unused (List.contains_iff_mem.mpr (written ▸ used))
            rw [Function.update_self, Function.update_of_ne apart]
          · rw [Function.update_of_ne same]
        · rfl

/-- A value that a remaining server refers to is not removed. -/
theorem forget_keeps (server : Server) (remaining : List Server) (vault : Vault) {store : StoreId}
    {other : Server} (present : other ∈ remaining)
    (refers : (field, reference store name) ∈ fields other) :
    forget digest others answers serverName server remaining vault store name =
      vault store name := by
  have used : reference store name ∈
      remaining.flatMap fun server => (fields server).map Prod.snd :=
    List.mem_flatMap.mpr ⟨other, present, List.mem_map.mpr ⟨_, refers, rfl⟩⟩
  unfold forget
  generalize fields server = entries
  induction entries generalizing vault with
  | nil => rfl
  | cons entry rest ih =>
    rw [List.foldl_cons, ih]
    exact forgetField_keeps digest others answers serverName vault entry used

end Plug.Secrets
