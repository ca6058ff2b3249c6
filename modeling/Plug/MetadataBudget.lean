import Plug.CatalogPages
import Plug.ExtensionMetadata
import Plug.KeyedRuns

/-!
# The budget for catalog metadata

A refresh of the catalog keeps metadata of each server up to a budget. A value that no longer fits
is dropped, and so is all metadata that the server offers later. The values of other servers do not
count.
-/

namespace Plug.ExtensionMetadata

open KeyedRuns (Keyed answers inputsOf run)
open Pages (checkedAdd)

def maxCatalogMetadataBytesPerUpstream : Nat := 256 * 1024

structure CatalogMetadataBudget where
  retainedBytes : List (String × Nat)
  exhaustedServers : List String

def CatalogMetadataBudget.default : CatalogMetadataBudget := ⟨[], []⟩

def CatalogMetadataBudget.retained (budget : CatalogMetadataBudget) (serverName : String) : Nat :=
  (Tables.get budget.retainedBytes serverName).getD 0

def ExtensionEnvelope.intoMeta (envelope : ExtensionEnvelope) : Option MetaObject :=
  if envelope.metadata.members = [] then none else some envelope.metadata

/-- What is left of the metadata, and the budget behind it. There is no result if the sum of the
bytes overflows. -/
def CatalogMetadataBudget.admit (budget : CatalogMetadataBudget) (serverName : String)
    (metadata : Option MetaObject) : Option (Option MetaObject × CatalogMetadataBudget) :=
  if serverName ∈ budget.exhaustedServers then some (none, budget)
  else
    match fromPeerCatalogMeta metadata with
    | .error _ => some (none, budget)
    | .ok envelope =>
      match envelope.intoMeta with
      | none => some (none, budget)
      | some admitted =>
        let retained := budget.retained serverName
        if maxCatalogMetadataBytesPerUpstream - retained < envelope.encodedBytes then
          some (none, ⟨Tables.insert budget.retainedBytes serverName retained,
            serverName :: budget.exhaustedServers⟩)
        else
          (checkedAdd retained envelope.encodedBytes).map fun total =>
            (some admitted, ⟨Tables.insert budget.retainedBytes serverName total,
              budget.exhaustedServers⟩)

/-- What a server offers. -/
def offer (budget : CatalogMetadataBudget) (offered : String × Option MetaObject) :
    Option (Option MetaObject × CatalogMetadataBudget) :=
  budget.admit offered.1 offered.2

def bytesOf (outcomes : List (Option MetaObject)) : Nat :=
  ((outcomes.filterMap id).map encodedBytes).sum

/-! ### One value -/

/-- What the policy for catalogs leaves of metadata, if anything. -/
def passing (metadata : Option MetaObject) : Option MetaObject :=
  match fromPeerCatalogMeta metadata with
  | .error _ => none
  | .ok envelope => envelope.intoMeta

theorem envelope_bytes {metadata : Option MetaObject} {envelope : ExtensionEnvelope}
    {admitted : MetaObject} (passed : fromPeerCatalogMeta metadata = .ok envelope)
    (filled : envelope.intoMeta = some admitted) :
    envelope.encodedBytes = encodedBytes admitted := by
  have own : envelope.metadata = admitted := by
    unfold ExtensionEnvelope.intoMeta at filled
    split at filled
    · cases filled
    · exact Option.some.inj filled
  cases metadata with
  | none =>
    cases passed
    cases filled
  | some metadata =>
    obtain ⟨kept, _, later⟩ := bind_eq_ok.mp passed
    split at later
    · cases later
    · cases later
      exact congrArg encodedBytes own

/-- The part of the budget that one server has: its bytes, and whether it is exhausted. -/
def admitOwn (own : Nat × Bool) (metadata : Option MetaObject) :
    Option (Option MetaObject × Nat × Bool) :=
  if own.2 then some (none, own)
  else
    match passing metadata with
    | none => some (none, own)
    | some admitted =>
      if maxCatalogMetadataBytesPerUpstream - own.1 < encodedBytes admitted then
        some (none, own.1, true)
      else (checkedAdd own.1 (encodedBytes admitted)).map fun total => (some admitted, total, false)

def ownPart (serverName : String) (budget : CatalogMetadataBudget) : Nat × Bool :=
  (budget.retained serverName, decide (serverName ∈ budget.exhaustedServers))

variable {budget next : CatalogMetadataBudget} {serverName : String}
  {metadata outcome : Option MetaObject}

theorem retained_insert (table : List (String × Nat)) (exhausted : List String)
    (serverName other : String) (total : Nat) :
    CatalogMetadataBudget.retained ⟨Tables.insert table serverName total, exhausted⟩ other =
      if other = serverName then total else CatalogMetadataBudget.retained ⟨table, exhausted⟩ other := by
  unfold CatalogMetadataBudget.retained
  split
  · rename_i same
    rw [same, Tables.get_insert_self]
    rfl
  · rename_i apart
    rw [Tables.get_insert_of_ne apart]

/-- What a value does to the budget of its server, and to those of others. -/
theorem admit_own (budget : CatalogMetadataBudget) (serverName : String)
    (metadata : Option MetaObject) :
    match budget.admit serverName metadata with
    | none => admitOwn (ownPart serverName budget) metadata = none
    | some (outcome, next) =>
      admitOwn (ownPart serverName budget) metadata = some (outcome, ownPart serverName next) ∧
        ∀ other ≠ serverName, ownPart other next = ownPart other budget := by
  unfold CatalogMetadataBudget.admit admitOwn
  by_cases exhausted : serverName ∈ budget.exhaustedServers
  · simp [exhausted, ownPart]
  · have latch : (ownPart serverName budget).2 = false := decide_eq_false exhausted
    rw [if_neg exhausted, latch, if_neg Bool.false_ne_true, passing]
    cases passed : fromPeerCatalogMeta metadata with
    | error _ => exact ⟨rfl, fun _ _ => rfl⟩
    | ok envelope =>
      dsimp only
      cases filled : envelope.intoMeta with
      | none => exact ⟨rfl, fun _ _ => rfl⟩
      | some admitted =>
        have bytes := envelope_bytes passed filled
        have first : (ownPart serverName budget).1 = budget.retained serverName := rfl
        dsimp only
        rw [bytes, first]
        have apart : ∀ other ≠ serverName, decide (other ∈ serverName :: budget.exhaustedServers) =
            decide (other ∈ budget.exhaustedServers) := by
          intro other differs
          simp [differs]
        by_cases large : maxCatalogMetadataBytesPerUpstream - budget.retained serverName <
            encodedBytes admitted
        · rw [if_pos large, if_pos large]
          constructor
          · rw [ownPart, retained_insert, if_pos rfl, decide_eq_true List.mem_cons_self]
          · intro other differs
            rw [ownPart, retained_insert, if_neg differs, apart other differs]
            rfl
        · rw [if_neg large, if_neg large]
          cases checkedAdd (budget.retained serverName) (encodedBytes admitted) with
          | none => rfl
          | some total =>
            constructor
            · rw [ownPart, retained_insert, if_pos rfl, decide_eq_false exhausted]
              rfl
            · intro other differs
              rw [ownPart, retained_insert, if_neg differs]
              rfl

theorem admit_outcome (budget : CatalogMetadataBudget) (serverName : String)
    (metadata : Option MetaObject) : ( budget.admit serverName metadata).map Prod.fst =
      (admitOwn (ownPart serverName budget) metadata).map Prod.fst := by
  have own := admit_own budget serverName metadata
  cases admitted : budget.admit serverName metadata with
  | none =>
    rw [admitted] at own
    rw [show admitOwn (ownPart serverName budget) metadata = none from own]
    rfl
  | some result =>
    rw [admitted] at own
    rw [own.1]
    rfl

theorem keyed : Keyed offer ownPart admitOwn where
  same {state key input output next} stepped := by
    have own := admit_own state key input
    rw [show state.admit key input = some (output, next) from stepped] at own
    exact own.1
  other {state key input output next} stepped := by
    have own := admit_own state key input
    rw [show state.admit key input = some (output, next) from stepped] at own
    exact own.2

/-! ### The budget of one server -/

/-- A value is kept if it fits, and is dropped otherwise. It leaves the budget exhausted if it
passed the policy, and an exhausted budget stays so. -/
theorem admitOwn_cases (own : Nat × Bool) (metadata : Option MetaObject)
    (bounded : own.1 ≤ maxCatalogMetadataBytesPerUpstream) : ∃ outcome after,
    admitOwn own metadata = some (outcome, after) ∧
      ((outcome = none ∧ after.1 = own.1 ∧
          (after.2 = false → own.2 = false ∧ passing metadata = none)) ∨
        ∃ kept, outcome = some kept ∧ own.2 = false ∧ after.1 = own.1 + encodedBytes kept ∧
          after.1 ≤ maxCatalogMetadataBytesPerUpstream) := by
  have limit : maxCatalogMetadataBytesPerUpstream = 262144 := rfl
  unfold admitOwn
  by_cases latch : own.2 = true
  · refine ⟨none, own, if_pos latch, Or.inl ⟨rfl, rfl, fun open_ => ?_⟩⟩
    rw [latch] at open_
    cases open_
  · rw [if_neg latch]
    cases passed : passing metadata with
    | none => exact ⟨none, own, rfl, Or.inl ⟨rfl, rfl, fun same => ⟨same, rfl⟩⟩⟩
    | some admitted =>
      dsimp only
      by_cases large : maxCatalogMetadataBytesPerUpstream - own.1 < encodedBytes admitted
      · rw [if_pos large]
        exact ⟨none, _, rfl, Or.inl ⟨rfl, rfl, nofun⟩⟩
      · have fits : own.1 + encodedBytes admitted ≤ 18446744073709551615 := by omega
        rw [if_neg large, checkedAdd, if_pos fits]
        refine ⟨some admitted, _, rfl, Or.inr ⟨admitted, rfl, Bool.eq_false_iff.mpr latch, rfl, ?_⟩⟩
        dsimp only
        omega

theorem bytesOf_cons (outcome : Option MetaObject) (outcomes : List (Option MetaObject)) :
    bytesOf (outcome :: outcomes) = (outcome.map encodedBytes).getD 0 + bytesOf outcomes := by
  cases outcome with
  | none => exact (Nat.zero_add _).symm
  | some kept => rfl

/-- Over a run the bytes of a server are those of what is kept, and within the budget. Nothing is
kept from an exhausted budget. -/
theorem own_run {own final : Nat × Bool} {values outcomes : List (Option MetaObject)}
    (bounded : own.1 ≤ maxCatalogMetadataBytesPerUpstream)
    (ran : run admitOwn own values = some (outcomes, final)) :
    final.1 = own.1 + bytesOf outcomes ∧ final.1 ≤ maxCatalogMetadataBytesPerUpstream ∧
      (own.2 = true → ∀ outcome ∈ outcomes, outcome = none) := by
  induction values generalizing own outcomes with
  | nil =>
    cases ran
    exact ⟨rfl, bounded, fun _ _ member => absurd member List.not_mem_nil⟩
  | cons value values ih =>
    obtain ⟨outcome, after, others, stepped, later, rfl⟩ := KeyedRuns.run_cons_iff.mp ran
    obtain ⟨found, next, same, cases⟩ := admitOwn_cases own value bounded
    rw [stepped] at same
    cases same
    rw [bytesOf_cons]
    rcases cases with ⟨rfl, bytes, latch⟩ | ⟨kept, rfl, free, bytes, within⟩
    · obtain ⟨sum, limit, dropped⟩ := ih (by omega) later
      refine ⟨by simp [sum, bytes], limit, fun exhausted => ?_⟩
      have still : after.2 = true := by
        by_contra other
        have free := (latch (Bool.eq_false_iff.mpr other)).1
        rw [exhausted] at free
        cases free
      exact List.forall_mem_cons.mpr ⟨rfl, dropped still⟩
    · obtain ⟨sum, limit, _⟩ := ih within later
      refine ⟨by simp [sum, bytes, Nat.add_assoc], limit, fun exhausted => ?_⟩
      rw [exhausted] at free
      cases free

/-! ### The whole budget -/

def Bounded (budget : CatalogMetadataBudget) : Prop :=
  ∀ serverName, budget.retained serverName ≤ maxCatalogMetadataBytesPerUpstream

/-- No value overflows the sum of the bytes. -/
theorem offer_total (budget : CatalogMetadataBudget) (offered : String × Option MetaObject)
    (bounded : Bounded budget) :
    ∃ outcome next, offer budget offered = some (outcome, next) ∧ Bounded next := by
  obtain ⟨serverName, metadata⟩ := offered
  have own := admit_own budget serverName metadata
  obtain ⟨outcome, after, stepped, cases⟩ :=
    admitOwn_cases (ownPart serverName budget) metadata (bounded serverName)
  cases admitted : budget.admit serverName metadata with
  | none =>
    rw [admitted] at own
    rw [show admitOwn (ownPart serverName budget) metadata = none from own] at stepped
    cases stepped
  | some result =>
    rw [admitted] at own
    obtain ⟨same, others⟩ := own
    refine ⟨result.1, result.2, admitted, fun other => ?_⟩
    by_cases mine : other = serverName
    · rw [same] at stepped
      obtain ⟨_, rfl⟩ := Prod.mk.inj (Option.some.inj stepped)
      rw [mine]
      have before := bounded serverName
      rcases cases with ⟨_, bytes, _⟩ | ⟨_, _, _, _, within⟩
      · exact bytes.trans_le before
      · exact within
    · exact (congrArg Prod.fst (others other mine)).trans_le (bounded other)

def offerAll (offers : List (String × Option MetaObject)) :
    Option (List (Option MetaObject) × CatalogMetadataBudget) :=
  run offer .default offers

/-- What is kept of a server is within its budget, nothing is kept once that is exhausted, and what
becomes of a value depends on the values of its server before it. -/
theorem budget_kept (offers : List (String × Option MetaObject)) : ∃ outcomes budget,
    offerAll offers = some (outcomes, budget) ∧ ∀ serverName,
      bytesOf (answers serverName offers outcomes) ≤ maxCatalogMetadataBytesPerUpstream ∧
      (∀ metadata next, budget.admit serverName metadata = some (none, next) →
        passing metadata ≠ none → serverName ∈ next.exhaustedServers) ∧
      (serverName ∈ budget.exhaustedServers → ∀ more later final,
        run offer budget more = some (later, final) →
          ∀ outcome ∈ answers serverName more later, outcome = none) ∧
      ∀ others otherOutcomes otherBudget, offerAll others = some (otherOutcomes, otherBudget) →
        inputsOf serverName others = inputsOf serverName offers → ∀ metadata,
          ( otherBudget.admit serverName metadata).map Prod.fst =
            ( budget.admit serverName metadata).map Prod.fst := by
  have start : Bounded .default := fun _ => Nat.zero_le _
  obtain ⟨outcomes, budget, ran, bounded⟩ := KeyedRuns.run_total offer_total start offers
  refine ⟨outcomes, budget, ran, fun serverName => ⟨?_, ?_, ?_, ?_⟩⟩
  · have own := own_run (Nat.zero_le _) (keyed.projected ran serverName)
    have sum := own.1
    rw [show (ownPart serverName .default).1 = 0 from rfl, Nat.zero_add] at sum
    exact sum ▸ own.2.1
  · intro metadata next refused passes
    have own := admit_own budget serverName metadata
    rw [refused] at own
    obtain ⟨_, after, stepped, cases⟩ :=
      admitOwn_cases (ownPart serverName budget) metadata (bounded serverName)
    rw [own.1] at stepped
    cases stepped
    rcases cases with ⟨_, _, latch⟩ | ⟨_, kept, _⟩
    · by_contra free
      exact passes (latch (decide_eq_false free)).2
    · cases kept
  · intro exhausted more later final continued
    exact (own_run (bounded serverName) (keyed.projected continued serverName)).2.2
      (decide_eq_true exhausted)
  · intro others otherOutcomes otherBudget otherRan same metadata
    have here := keyed.projected ran serverName
    have there := keyed.projected otherRan serverName
    rw [same, here] at there
    rw [admit_outcome, admit_outcome, (Prod.mk.inj (Option.some.inj there)).2]

end Plug.ExtensionMetadata
