import Mathlib.Data.List.Infix
import Plug.TextSearch

/-!
# Paths of a server's credential files

A server's tokens, its client registration, the lock of its credentials and each of its pending
sign-ins have a file of their own, named after the server. A server's name may have dots and
underscores, so that what is put behind a shorter name can also be the end of a longer one.
-/

namespace Plug.CredentialPaths

open Text (contains byteLength)

/-- A server name that can be part of a path, or why it cannot. -/
def sanitizeServerNameForPath (name : List Char) : Except (List Char) (List Char) :=
  let named := "server name '".toList ++ name
  if contains ['/'] name ∨ contains ['\\'] name ∨ contains [Char.ofNat 0] name then
    .error (named ++ "' contains invalid path characters".toList)
  else if name.head? = some '.' ∨ contains "..".toList name then
    .error (named ++ "' contains directory traversal".toList)
  else if byteLength name > 255 then
    .error (named ++ "' exceeds 255 bytes".toList)
  else .ok name

/-- What `validate_config` says against the name of a server. -/
def nameErrors (prefixDelimiter name : List Char) : List (List Char) :=
  (if name = [] then ["server name must not be empty".toList] else []) ++
    (if contains prefixDelimiter name then
      ["server '".toList ++ name ++ "': name must not contain the prefix delimiter '".toList ++
        prefixDelimiter ++ ['\'']]
    else []) ++
    (match sanitizeServerNameForPath name with
      | .error error => ["server '".toList ++ name ++ "': ".toList ++ error]
      | .ok _ => [])

/-- The configuration accepts a server of this name. -/
def Accepted (prefixDelimiter name : List Char) : Prop :=
  nameErrors prefixDelimiter name = []

instance (prefixDelimiter name : List Char) : Decidable (Accepted prefixDelimiter name) :=
  inferInstanceAs (Decidable (_ = _))

/-! ### The files -/

section Files

variable (tokensDir : List Char)

def safeName (purpose name : List Char) : Except (List Char) (List Char) :=
  (sanitizeServerNameForPath name).mapError fun error =>
    "invalid server name for ".toList ++ purpose ++ " path: ".toList ++ error

def tokenFilePath (name : List Char) : Except (List Char) (List Char) :=
  (safeName "file".toList name).map fun safe => tokensDir ++ '/' :: (safe ++ ".json".toList)

def registrationFilePath (name : List Char) : Except (List Char) (List Char) :=
  (safeName "registration".toList name).map fun safe =>
    tokensDir ++ '/' :: (safe ++ ".registration.json".toList)

def credentialWriteLockPath (name : List Char) : Except (List Char) (List Char) :=
  (safeName "lock".toList name).map fun safe =>
    tokensDir ++ '/' :: (safe ++ ".credentials.lock".toList)

def isSafe (character : Char) : Bool :=
  character.isAlphanum || character = '-' || character = '_'

def stateFilePath (name csrfToken : List Char) : Except (List Char) (List Char) :=
  let safeCsrf := csrfToken.map fun character => if isSafe character then character else '_'
  (safeName "state".toList name).map fun safe =>
    tokensDir ++ '/' :: (safe ++ "_state_".toList ++ safeCsrf ++ ".json".toList)

/-- The files of a server with one pending sign-in. -/
def purposes (name csrfToken : List Char) : List (Except (List Char) (List Char)) :=
  [tokenFilePath tokensDir name, registrationFilePath tokensDir name,
    credentialWriteLockPath tokensDir name, stateFilePath tokensDir name csrfToken]

end Files

/-- The files of two servers and their sign-ins are all different from each other. -/
structure Separate (tokensDir first second csrfFirst csrfSecond : List Char) : Prop where
  own : (purposes tokensDir first csrfFirst).Nodup
  others : ∀ path ∈ purposes tokensDir first csrfFirst, path ∉ purposes tokensDir second csrfSecond
  signIns : csrfFirst ≠ csrfSecond →
    stateFilePath tokensDir first csrfFirst ≠ stateFilePath tokensDir first csrfSecond

/-- An ASCII text of letters, digits, hyphens and underscores. -/
def Safe (text : List Char) : Prop := ∀ character ∈ text, isSafe character = true

instance : DecidablePred Safe := fun text =>
  decidable_of_iff (text.all isSafe = true) List.all_eq_true

/-- A server name is another one with the ending of one of that server's files. -/
def Extends (longer shorter : List Char) : Prop :=
  longer = shorter ++ ".registration".toList ∨ longer = shorter ++ "_state".toList ∨
    ∃ text, Safe text ∧ longer = shorter ++ ("_state_".toList ++ text)

variable {tokensDir delimiter first second name token other csrf csrfFirst csrfSecond : List Char}

/-! ### Names that are accepted -/

theorem safeName_accepted (accepted : Accepted delimiter name) (purpose : List Char) :
    safeName purpose name = .ok name := by
  have noError := (List.append_eq_nil_iff.mp accepted).2
  unfold safeName
  cases sanitized : sanitizeServerNameForPath name with
  | error =>
    rw [sanitized] at noError
    cases noError
  | ok safe =>
    unfold sanitizeServerNameForPath at sanitized
    dsimp only at sanitized
    split_ifs at sanitized
    cases sanitized
    rfl

theorem map_safe (safe : Safe token) :
    token.map (fun character => if isSafe character then character else '_') = token := by
  have each : ∀ character ∈ token, (if isSafe character then character else '_') = id character :=
    fun character among => if_pos (safe character among)
  rw [List.map_congr_left each, List.map_id]

/-- What stands before the ending in the names of a server's JSON files. -/
def stems (name csrfToken : List Char) : List (List Char) :=
  [name, name ++ ".registration".toList, name ++ ("_state_".toList ++ csrfToken)]

/-- The file names of an accepted server. -/
theorem purposes_accepted (accepted : Accepted delimiter name) (safe : Safe csrf) :
    ∀ path, path ∈ purposes tokensDir name csrf ↔
      path = .ok (tokensDir ++ '/' :: (name ++ ".credentials.lock".toList)) ∨
        ∃ stem ∈ stems name csrf, path = .ok (tokensDir ++ '/' :: (stem ++ ".json".toList)) := by
  intro path
  unfold purposes tokenFilePath registrationFilePath credentialWriteLockPath stateFilePath
  simp only [safeName_accepted accepted, map_safe safe]
  simp only [stems, List.mem_cons, List.not_mem_nil, or_false, exists_eq_or_imp, exists_eq_left,
    List.append_assoc]
  constructor
  · rintro (token | registration | lock | state)
    · exact .inr (.inl token)
    · exact .inr (.inr (.inl registration))
    · exact .inl lock
    · exact .inr (.inr (.inr state))
  · rintro (lock | token | registration | state)
    · exact .inr (.inr (.inl lock))
    · exact .inl token
    · exact .inr (.inl registration)
    · exact .inr (.inr (.inr state))

theorem path_injective {file : List Char}
    (same : (.ok (tokensDir ++ '/' :: file) : Except (List Char) (List Char)) =
      .ok (tokensDir ++ '/' :: other)) : file = other := by
  have paths := List.append_cancel_left (Except.ok.inj same)
  exact (List.cons.inj paths).2

theorem lock_not_json (stem name : List Char) :
    stem ++ ".json".toList ≠ name ++ ".credentials.lock".toList := by
  intro same
  have last := congrArg List.getLast? same
  simp at last

/-! ### Stems that meet -/

theorem registration_not_state (safe : Safe csrf) (first second : List Char) :
    first ++ ".registration".toList ≠ second ++ ("_state_".toList ++ csrf) := by
  intro same
  have registration : ".registration".toList <:+ second ++ ("_state_".toList ++ csrf) :=
    ⟨first, same⟩
  have state : "_state_".toList ++ csrf <:+ second ++ ("_state_".toList ++ csrf) :=
    List.suffix_append _ _
  rcases List.suffix_or_suffix_of_suffix registration state with within | within
  · have dot : '.' ∈ "_state_".toList ++ csrf := within.subset (by decide)
    rcases List.mem_append.mp dot with early | late
    · revert early
      decide
    · have := safe '.' late
      revert this
      decide
  · have underscore : '_' ∈ ".registration".toList := within.subset (by simp)
    revert underscore
    decide

/-- The ending of a pending sign-in's file overlaps itself in one character only. -/
theorem state_overlap {ending : List Char} (filled : ending ≠ []) (safe : Safe csrfFirst)
    (same : "_state_".toList ++ csrfFirst = ending ++ ("_state_".toList ++ csrfSecond)) :
    ending = "_state".toList ∨ ∃ text, Safe text ∧ ending = "_state_".toList ++ text := by
  rcases List.append_eq_append_iff.mp same with ⟨text, whole, token⟩ | ⟨rest, whole, later⟩
  · right
    refine ⟨text, fun character among => safe character ?_, whole⟩
    rw [token]
    exact List.mem_append_left _ among
  · have places : ending ∈ "_state_".toList.inits := (List.mem_inits _ _).mpr ⟨rest, whole.symm⟩
    have behind : rest = "_state_".toList.drop ending.length := by
      rw [whole, List.drop_left]
    rw [behind] at later
    have listed : ending ∈ [[], "_".toList, "_s".toList, "_st".toList, "_sta".toList,
        "_stat".toList, "_state".toList, "_state_".toList] := places
    simp only [List.mem_cons, List.not_mem_nil, or_false] at listed
    rcases listed with none | one | two | three | four | five | six | seven
    · exact absurd none filled
    · simp [one] at later
    · simp [two] at later
    · simp [three] at later
    · simp [four] at later
    · simp [five] at later
    · exact .inl six
    · exact .inr ⟨[], fun _ among => absurd among List.not_mem_nil, seven⟩

theorem states_meet (safeFirst : Safe csrfFirst) (safeSecond : Safe csrfSecond)
    (apart : first ≠ second)
    (same : first ++ ("_state_".toList ++ csrfFirst) = second ++ ("_state_".toList ++ csrfSecond)) :
    Extends first second ∨ Extends second first := by
  rcases List.append_eq_append_iff.mp same with ⟨ending, longer, tokens⟩ | ⟨ending, longer, tokens⟩
  · right
    have filled : ending ≠ [] := by
      rintro rfl
      exact apart (longer.trans (List.append_nil _)).symm
    rcases state_overlap filled safeFirst tokens with short | ⟨text, safe, long⟩
    · exact .inr (.inl (short ▸ longer))
    · exact .inr (.inr ⟨text, safe, long ▸ longer⟩)
  · left
    have filled : ending ≠ [] := by
      rintro rfl
      exact apart (longer.trans (List.append_nil _))
    rcases state_overlap filled safeSecond tokens with short | ⟨text, safe, long⟩
    · exact .inr (.inl (short ▸ longer))
    · exact .inr (.inr ⟨text, safe, long ▸ longer⟩)

/-- Two servers share a JSON file only when the name of one is that of the other with an ending. -/
theorem stems_meet (safeFirst : Safe csrfFirst) (safeSecond : Safe csrfSecond)
    (apart : first ≠ second) {stem : List Char} (own : stem ∈ stems first csrfFirst)
    (shared : stem ∈ stems second csrfSecond) : Extends first second ∨ Extends second first := by
  simp only [stems, List.mem_cons, List.not_mem_nil, or_false] at own shared
  rcases own with rfl | rfl | rfl
  · rcases shared with same | same | same
    · exact absurd same apart
    · exact .inl (.inl same)
    · exact .inl (.inr (.inr ⟨csrfSecond, safeSecond, same⟩))
  · rcases shared with same | same | same
    · exact .inr (.inl same.symm)
    · exact absurd (List.append_cancel_right same) apart
    · exact absurd same (registration_not_state safeSecond first second)
  · rcases shared with same | same | same
    · exact .inr (.inr (.inr ⟨csrfFirst, safeFirst, same.symm⟩))
    · exact absurd same.symm (registration_not_state safeFirst second first)
    · exact states_meet safeFirst safeSecond apart same

/-- A server's own files are different, whatever its name. -/
theorem purposes_nodup (accepted : Accepted delimiter name) (safe : Safe csrf) :
    (purposes tokensDir name csrf).Nodup := by
  unfold purposes tokenFilePath registrationFilePath credentialWriteLockPath stateFilePath
  simp only [safeName_accepted accepted, map_safe safe]
  simp [Except.map]

theorem state_injective (accepted : Accepted delimiter name) (safeFirst : Safe csrfFirst)
    (safeSecond : Safe csrfSecond)
    (same : stateFilePath tokensDir name csrfFirst = stateFilePath tokensDir name csrfSecond) :
    csrfFirst = csrfSecond := by
  unfold stateFilePath at same
  simp only [safeName_accepted accepted, map_safe safeFirst, map_safe safeSecond] at same
  have files := path_injective same
  simpa using files

/-- A name with such an ending shares a file with the name that it extends. -/
theorem stems_shared {longer shorter : List Char} (ending : Extends longer shorter) :
    ∃ csrfLonger csrfShorter, Safe csrfLonger ∧ Safe csrfShorter ∧
      ∃ stem ∈ stems longer csrfLonger, stem ∈ stems shorter csrfShorter := by
  rcases ending with rfl | rfl | ⟨text, safe, rfl⟩
  · refine ⟨"x".toList, "x".toList, by decide, by decide, _, List.mem_cons_self, ?_⟩
    simp [stems]
  · refine ⟨"x".toList, "state_x".toList, by decide, by decide,
      shorter ++ "_state_state_x".toList, ?_, ?_⟩
    · simp [stems]
    · simp [stems]
  · refine ⟨"x".toList, text, by decide, safe, _, List.mem_cons_self, ?_⟩
    simp [stems]

/-- The files of two servers are separate for all sign-ins exactly if neither name is the other
one with the ending of one of its files. -/
theorem separate_iff (acceptedFirst : Accepted delimiter first)
    (acceptedSecond : Accepted delimiter second) (apart : first ≠ second) :
    (∀ csrfFirst csrfSecond, Safe csrfFirst → Safe csrfSecond →
        Separate tokensDir first second csrfFirst csrfSecond) ↔
      ¬ Extends first second ∧ ¬ Extends second first := by
  constructor
  · intro separate
    constructor
    · intro longer
      obtain ⟨csrfFirst, csrfSecond, safeFirst, safeSecond, stem, own, shared⟩ := stems_shared longer
      exact (separate csrfFirst csrfSecond safeFirst safeSecond).others _
        ((purposes_accepted acceptedFirst safeFirst _).mpr (.inr ⟨stem, own, rfl⟩))
        ((purposes_accepted acceptedSecond safeSecond _).mpr (.inr ⟨stem, shared, rfl⟩))
    · intro longer
      obtain ⟨csrfSecond, csrfFirst, safeSecond, safeFirst, stem, shared, own⟩ := stems_shared longer
      exact (separate csrfFirst csrfSecond safeFirst safeSecond).others _
        ((purposes_accepted acceptedFirst safeFirst _).mpr (.inr ⟨stem, own, rfl⟩))
        ((purposes_accepted acceptedSecond safeSecond _).mpr (.inr ⟨stem, shared, rfl⟩))
  · rintro ⟨firstPlain, secondPlain⟩ csrfFirst csrfSecond safeFirst safeSecond
    refine ⟨purposes_nodup acceptedFirst safeFirst, ?_,
      fun differ same => differ (state_injective acceptedFirst safeFirst safeSecond same)⟩
    intro path own shared
    rw [purposes_accepted acceptedFirst safeFirst] at own
    rw [purposes_accepted acceptedSecond safeSecond] at shared
    rcases own with rfl | ⟨stem, ownStem, rfl⟩
    · rcases shared with same | ⟨stem, _, same⟩
      · exact apart (List.append_cancel_right (path_injective same))
      · exact lock_not_json stem first (path_injective same).symm
    · rcases shared with same | ⟨other, sharedStem, same⟩
      · exact lock_not_json stem second (path_injective same)
      · obtain rfl := List.append_cancel_right (path_injective same)
        exact (stems_meet safeFirst safeSecond apart ownStem sharedStem).elim firstPlain secondPlain

theorem separate_iff_plain :
    Separate "tokens".toList "notion".toList "github".toList "first".toList "second".toList := by
  have plain : ¬ Extends "notion".toList "github".toList ∧
      ¬ Extends "github".toList "notion".toList := by
    constructor
    · rintro (same | same | ⟨text, _, same⟩) <;> simp at same
    · rintro (same | same | ⟨text, _, same⟩) <;> simp at same
  have accepted : Accepted "__".toList "notion".toList ∧ Accepted "__".toList "github".toList := by
    decide
  exact (separate_iff accepted.1 accepted.2 (by decide)).mpr plain _ _ (by decide) (by decide)

/-- The tokens of one server are where the client registration of another one is. -/
theorem token_is_registration :
    Accepted "__".toList "notion".toList ∧ Accepted "__".toList "notion.registration".toList ∧
      tokenFilePath "tokens".toList "notion.registration".toList =
        .ok "tokens/notion.registration.json".toList ∧
      registrationFilePath "tokens".toList "notion".toList =
        .ok "tokens/notion.registration.json".toList := by
  decide

end Plug.CredentialPaths
