import Plug.CatalogListings

/-!
# What is carried forward

What is known of a server that is there was answered since it was last stopped, and is the last
that was answered, unless an answer of the pass under way waits to be stored. A pass asks each
server for each list once, so what it carries forward for a server is not its own.
-/

namespace Plug.Upkeep

variable {Items : Type}

def Present (catalog : Catalog Items) (name : String) : Prop :=
  Tables.containsKey catalog.servers name = true

/-- An answer of the pass under way waits to be stored. -/
def Awaited (pass : Option (Pass Items)) (family : Family) (name : String) : Prop :=
  ∃ current ∈ pass, ∃ target ∈ current.targets, target.family = family ∧ target.server = name ∧
    target.answered = true ∧ target.settled = false

def Target.key (target : Target Items) : Family × String := (target.family, target.server)

structure PassSound (catalog : Catalog Items) (pass : Pass Items) : Prop where
  distinct : (pass.targets.map Target.key).Nodup
  asked : ∀ target ∈ pass.targets, pass.asked target.family = true
  unasked : ∀ family, pass.asked family = false → pass.degraded family = []
  ended : ∀ target ∈ pass.targets, target.settled = true → target.outcome.isSome = true
  present : ∀ target ∈ pass.targets, target.settled = false →
    ∀ answer, catalog.lastKnownGood target.family target.server = some answer →
      Present catalog target.server
  answered : ∀ target ∈ pass.targets, target.settled = false →
    ∀ items, target.outcome = some (.fresh items) →
      catalog.latest target.family target.server = some ⟨items, target.incarnation⟩
  pending : ∀ target ∈ pass.targets, target.settled = false →
    target.server ∉ pass.degraded target.family

structure CatalogSound (catalog : Catalog Items) : Prop where
  distinct : Tables.Distinct catalog.servers
  current : ∀ family name answer, Present catalog name →
    catalog.lastKnownGood family name = some answer →
      answer.incarnation = catalog.incarnations name
  latest : ∀ family name answer, catalog.lastKnownGood family name = some answer →
    catalog.latest family name = some answer ∨ Awaited catalog.pass family name
  pass : ∀ pass ∈ catalog.pass, PassSound catalog pass

/-! ### Entries and targets -/

section Entries

variable {table : Family → String → Option (Answer Items)} {family other : Family}
  {name server : String} {answer : Option (Answer Items)}

theorem setEntry_self : setEntry table family name answer family name = answer := by
  rw [setEntry, Function.update_self, Function.update_self]

theorem setEntry_of_ne (apart : (other, server) ≠ (family, name)) :
    setEntry table family name answer other server = table other server := by
  rw [setEntry]
  by_cases same : other = family
  · subst same
    rw [Function.update_self]
    exact Function.update_of_ne (fun equal => apart (by rw [equal])) _ _
  · rw [Function.update_of_ne same]

end Entries

section Targets

variable {pass : Pass Items} {index : Nat} {target former : Target Items}

/-- A target that changed, or one for another list or server. -/
theorem of_mem_put (distinct : (pass.targets.map Target.key).Nodup)
    (found : pass.targets[index]? = some target) {other : Target Items}
    (member : other ∈ (pass.put index former).targets) :
    other = former ∨ other ∈ pass.targets ∧ other.key ≠ target.key := by
  obtain ⟨place, present⟩ := List.getElem?_of_mem member
  rw [Pass.put, Runs.getElem?_set_found found] at present
  by_cases own : place = index
  · rw [if_pos own] at present
    exact Or.inl (Option.some.inj present).symm
  · rw [if_neg own] at present
    refine Or.inr ⟨List.mem_of_getElem? present, ?_⟩
    intro same
    have bound : place < (pass.targets.map Target.key).length := by
      rw [List.length_map]
      exact (List.getElem?_eq_some_iff.mp present).1
    refine own ((List.getElem?_inj bound distinct).mp ?_)
    rw [List.getElem?_map, List.getElem?_map, present, found, Option.map_some, Option.map_some,
      same]

theorem mem_put_of_ne (found : pass.targets[index]? = some target) {other : Target Items}
    (member : other ∈ pass.targets) (apart : other ≠ target) :
    other ∈ (pass.put index former).targets := by
  obtain ⟨place, present⟩ := List.getElem?_of_mem member
  apply List.mem_of_getElem? (i := place)
  rw [Pass.put, Runs.getElem?_set_found found, if_neg]
  · exact present
  · rintro rfl
    exact apart (Option.some.inj (present.symm.trans found))

theorem mem_put_self (found : pass.targets[index]? = some target) :
    former ∈ (pass.put index former).targets :=
  List.mem_set (List.getElem?_eq_some_iff.mp found).1 former

theorem keys_put (found : pass.targets[index]? = some target) (same : former.key = target.key) :
    (pass.put index former).targets.map Target.key = pass.targets.map Target.key := by
  obtain ⟨bound, present⟩ := List.getElem?_eq_some_iff.mp found
  apply List.ext_getElem?
  intro place
  rw [Pass.put, List.getElem?_map, Runs.getElem?_set_found found, List.getElem?_map]
  split
  · rename_i own
    rw [own, found, Option.map_some, Option.map_some, same]
  · rfl

end Targets

/-! ### A pass -/

section Steps

variable {catalog next : Catalog Items} {pass : Pass Items} {index : Nat} {target : Target Items}

theorem sound_begin (sound : CatalogSound catalog) (stepped : beginPass catalog = some next) :
    CatalogSound next := by
  rw [beginPass] at stepped
  split at stepped
  · rename_i idle
    cases stepped
    refine ⟨sound.distinct, sound.current, ?_, ?_⟩
    · intro family name answer known
      cases sound.latest family name answer known with
      | inl last => exact Or.inl last
      | inr awaited =>
        obtain ⟨current, running, _⟩ := awaited
        rw [Option.isNone_iff_eq_none.mp idle] at running
        cases running
    · intro current same
      cases same
      exact ⟨List.nodup_nil, nofun, fun _ _ => rfl, nofun, nofun, nofun, nofun⟩
  · cases stepped

theorem mem_familyTargets {family : Family} (member : target ∈ familyTargets catalog family) :
    target.family = family ∧ target.outcome = none ∧ target.settled = false ∧
      Present catalog target.server := by
  obtain ⟨item, listed, rfl⟩ := List.mem_map.mp member
  refine ⟨rfl, rfl, rfl, ?_⟩
  exact Tables.containsKey_iff.mpr ⟨item.2, (List.mem_filter.mp listed).1⟩

theorem familyTargets_distinct (distinct : Tables.Distinct catalog.servers) (family : Family) :
    ((familyTargets catalog family).map Target.key).Nodup := by
  have names : ((familyTargets catalog family).map fun target => target.server).Nodup := by
    rw [familyTargets, List.map_map]
    exact distinct.filter _
  have keys : (familyTargets catalog family).map Target.key =
      ((familyTargets catalog family).map fun target => target.server).map (Prod.mk family) := by
    rw [List.map_map]
    apply List.map_congr_left
    intro target member
    rw [Target.key, (mem_familyTargets member).1]
    rfl
  rw [keys]
  exact names.map (fun _ _ same => (Prod.mk.inj same).2)

theorem sound_ask {family : Family} (sound : CatalogSound catalog)
    (running : catalog.pass = some pass) (stepped : askFor catalog pass family = some next) :
    CatalogSound next := by
  have passing := sound.pass pass running
  rw [askFor] at stepped
  split at stepped
  · cases stepped
  · rename_i fresh
    rw [Bool.not_eq_true] at fresh
    cases stepped
    refine ⟨sound.distinct, sound.current, ?_, ?_⟩
    · intro other name answer known
      cases sound.latest other name answer known with
      | inl last => exact Or.inl last
      | inr awaited =>
        obtain ⟨current, own, target, member, rest⟩ := awaited
        obtain rfl := Option.some.inj (running.symm.trans own)
        exact Or.inr ⟨_, rfl, target, List.mem_append_left _ member, rest⟩
    · intro current same
      cases same
      refine ⟨?_, ?_, ?_, ?_, ?_, ?_, ?_⟩
      · rw [List.map_append]
        refine passing.distinct.append (familyTargets_distinct sound.distinct family) ?_
        intro key early late
        obtain ⟨target, member, rfl⟩ := List.mem_map.mp early
        obtain ⟨added, other, same⟩ := List.mem_map.mp late
        have families : added.family = target.family := (Prod.mk.inj same).1
        have asked := passing.asked target member
        rw [← families, (mem_familyTargets other).1, fresh] at asked
        cases asked
      · intro target member
        dsimp only
        cases List.mem_append.mp member with
        | inl former =>
          by_cases own : target.family = family
          · rw [own, Function.update_self]
          · rw [Function.update_of_ne own]
            exact passing.asked target former
        | inr added => rw [(mem_familyTargets added).1, Function.update_self]
      · intro other unasked
        dsimp only at unasked
        by_cases own : other = family
        · rw [own, Function.update_self] at unasked
          cases unasked
        · rw [Function.update_of_ne own] at unasked
          exact passing.unasked other unasked
      · intro target member settled
        cases List.mem_append.mp member with
        | inl former => exact passing.ended target former settled
        | inr added =>
          rw [(mem_familyTargets added).2.2.1] at settled
          cases settled
      · intro target member waiting answer known
        cases List.mem_append.mp member with
        | inl former => exact passing.present target former waiting answer known
        | inr added => exact (mem_familyTargets added).2.2.2
      · intro target member waiting items outcome
        cases List.mem_append.mp member with
        | inl former => exact passing.answered target former waiting items outcome
        | inr added =>
          rw [(mem_familyTargets added).2.1] at outcome
          cases outcome
      · intro target member waiting
        cases List.mem_append.mp member with
        | inl former => exact passing.pending target former waiting
        | inr added =>
          rw [(mem_familyTargets added).1, passing.unasked family fresh]
          exact List.not_mem_nil

/-- An answer of another target goes on waiting. -/
theorem awaited_put {former : Target Items} {changed : Pass Items} {family : Family} {name : String}
    (running : catalog.pass = some pass) (found : pass.targets[index]? = some target)
    (targets : changed.targets = (pass.put index former).targets)
    (apart : target.answered = true → target.settled = false → target.key ≠ (family, name))
    (awaited : Awaited catalog.pass family name) : Awaited (some changed) family name := by
  obtain ⟨current, own, other, member, sameFamily, sameServer, answered, waiting⟩ := awaited
  obtain rfl := Option.some.inj (running.symm.trans own)
  refine ⟨changed, rfl, other, ?_, sameFamily, sameServer, answered, waiting⟩
  rw [targets]
  apply mem_put_of_ne found member
  rintro rfl
  apply apart answered waiting
  rw [Target.key, sameFamily, sameServer]

/-- One target of a pass changes, and with it what is known of its list and server. -/
theorem passSound_put (former : Target Items) {changed : Pass Items}
    (passing : PassSound catalog pass) (found : pass.targets[index]? = some target)
    (key : former.key = target.key) (servers : next.servers = catalog.servers)
    (targets : changed.targets = (pass.put index former).targets)
    (asked : changed.asked = pass.asked)
    (known : ∀ other : Target Items, other.key ≠ target.key →
      next.lastKnownGood other.family other.server =
          catalog.lastKnownGood other.family other.server ∧
        next.latest other.family other.server = catalog.latest other.family other.server)
    (degraded : ∀ other : Target Items, other.key ≠ target.key →
      other.server ∈ changed.degraded other.family → other.server ∈ pass.degraded other.family)
    (unasked : ∀ family, pass.asked family = false → changed.degraded family = [])
    (ended : former.settled = true → former.outcome.isSome = true)
    (waiting : former.settled = false →
      (∀ answer, next.lastKnownGood former.family former.server = some answer →
        Present catalog former.server) ∧
      (∀ items, former.outcome = some (.fresh items) →
        next.latest former.family former.server = some ⟨items, former.incarnation⟩) ∧
      former.server ∉ changed.degraded former.family) :
    PassSound next changed := by
  have of_mem : ∀ {other}, other ∈ changed.targets →
      other = former ∨ other ∈ pass.targets ∧ other.key ≠ target.key := by
    intro other member
    rw [targets] at member
    exact of_mem_put passing.distinct found member
  refine ⟨?_, ?_, ?_, ?_, ?_, ?_, ?_⟩
  · rw [targets, keys_put found key]
    exact passing.distinct
  · intro other member
    rw [asked]
    cases of_mem member with
    | inl same =>
      rw [same, (Prod.mk.inj key).1]
      exact passing.asked target (List.mem_of_getElem? found)
    | inr rest => exact passing.asked other rest.1
  · intro family none
    rw [asked] at none
    exact unasked family none
  · intro other member settled
    cases of_mem member with
    | inl same =>
      rw [same] at settled ⊢
      exact ended settled
    | inr rest => exact passing.ended other rest.1 settled
  · intro other member unsettled answer held
    rw [Present, servers]
    cases of_mem member with
    | inl same =>
      rw [same] at unsettled held ⊢
      exact (waiting unsettled).1 answer held
    | inr rest =>
      rw [(known other rest.2).1] at held
      exact passing.present other rest.1 unsettled answer held
  · intro other member unsettled items outcome
    cases of_mem member with
    | inl same =>
      rw [same] at unsettled outcome ⊢
      exact (waiting unsettled).2.1 items outcome
    | inr rest =>
      rw [(known other rest.2).2]
      exact passing.answered other rest.1 unsettled items outcome
  · intro other member unsettled
    cases of_mem member with
    | inl same =>
      rw [same] at unsettled ⊢
      exact (waiting unsettled).2.2
    | inr rest =>
      intro reported
      exact passing.pending other rest.1 unsettled (degraded other rest.2 reported)

theorem sound_endListing {outcome : ListingOutcome Items} (sound : CatalogSound catalog)
    (running : catalog.pass = some pass) (found : pass.targets[index]? = some target)
    (stepped : endListing catalog pass index target outcome = some next) : CatalogSound next := by
  have passing := sound.pass pass running
  have member := List.mem_of_getElem? found
  rw [endListing] at stepped
  split at stepped
  · cases stepped
  · rename_i waits
    have open_outcome : target.outcome = none := by
      rw [← Option.not_isSome_iff_eq_none]
      exact waits
    have unsettled : target.settled = false := by
      rw [← Bool.not_eq_true]
      intro settled
      exact waits (passing.ended target member settled)
    have unanswered : target.answered = true → target.settled = false →
        ∀ key, target.key ≠ key := by
      intro answered
      rw [Target.answered, open_outcome] at answered
      cases answered
    cases outcome with
    | fresh items =>
      cases stepped
      refine ⟨sound.distinct, sound.current, ?_, ?_⟩
      · intro family name answer known
        dsimp only
        by_cases own : (family, name) = target.key
        · right
          cases own
          exact ⟨_, rfl, _, mem_put_self found, rfl, rfl, rfl, unsettled⟩
        · rw [setEntry_of_ne own]
          cases sound.latest family name answer known with
          | inl last => exact Or.inl last
          | inr awaited =>
            exact Or.inr (awaited_put running found rfl
              (fun answered waiting => unanswered answered waiting _) awaited)
      · intro current same
        cases same
        refine passSound_put { target with outcome := some (.fresh items) } passing found
          rfl rfl rfl rfl ?_ (fun _ _ reported => reported)
          passing.unasked (fun _ => rfl) ?_
        · intro other apart
          exact ⟨rfl, setEntry_of_ne apart⟩
        · intro _
          refine ⟨passing.present target member unsettled, ?_, passing.pending target member unsettled⟩
          intro given same
          obtain rfl := ListingOutcome.fresh.inj (Option.some.inj same)
          exact setEntry_self
    | unavailable =>
      cases stepped
      refine ⟨sound.distinct, sound.current, ?_, ?_⟩
      · intro family name answer known
        cases sound.latest family name answer known with
        | inl last => exact Or.inl last
        | inr awaited =>
          exact Or.inr (awaited_put running found rfl
            (fun answered waiting => unanswered answered waiting _) awaited)
      · intro current same
        cases same
        refine passSound_put { target with outcome := some .unavailable } passing found
          rfl rfl rfl rfl (fun _ _ => ⟨rfl, rfl⟩)
          (fun _ _ reported => reported) passing.unasked (fun _ => rfl) ?_
        intro _
        refine ⟨passing.present target member unsettled, ?_, passing.pending target member unsettled⟩
        intro given same
        cases same

/-- The results of a listing are taken up: what was answered is stored, and of a server that did not
answer it is noted. -/
inductive Settled (catalog : Catalog Items) (pass : Pass Items) (index : Nat)
    (target : Target Items) : Catalog Items → Prop
  | stored (items : Items) (listed : Family → List (String × Items))
      (outcome : target.outcome = some (.fresh items)) (unsettled : target.settled = false) :
      Settled catalog pass index target
        { catalog with
          pass := some { pass.put index { target with settled := true } with items := listed }
          lastKnownGood :=
            setEntry catalog.lastKnownGood target.family target.server
              (some ⟨items, target.incarnation⟩) }
  | noted (listed : Family → List (String × Items))
      (outcome : target.outcome = some .unavailable) (unsettled : target.settled = false) :
      Settled catalog pass index target
        { catalog with
          pass := some
            { pass.put index { target with settled := true } with
              items := listed
              degraded :=
                Function.update pass.degraded target.family
                  (pass.degraded target.family ++ [target.server]) } }

theorem settle_cases (stepped : settle catalog pass index target = some next) :
    Settled catalog pass index target next := by
  rw [settle] at stepped
  split at stepped
  · cases stepped
  · rename_i ready
    rw [Bool.or_eq_true, not_or, Bool.not_eq_true] at ready
    split at stepped
    · rename_i items outcome
      cases stepped
      exact .stored items _ outcome ready.1
    · rename_i outcome
      cases stepped
      exact .noted _ outcome ready.1
    · cases stepped

theorem sound_settle (sound : CatalogSound catalog) (running : catalog.pass = some pass)
    (found : pass.targets[index]? = some target)
    (undisturbed : target.answered = true → Present catalog target.server →
      target.incarnation = catalog.incarnations target.server)
    (settled : Settled catalog pass index target next) : CatalogSound next := by
  have passing := sound.pass pass running
  have member := List.mem_of_getElem? found
  cases settled with
  | stored items listed outcome unsettled =>
    have answered : target.answered = true := by rw [Target.answered, outcome]
    refine ⟨sound.distinct, ?_, ?_, ?_⟩
    · intro family name answer there known
      by_cases own : (family, name) = target.key
      · cases own
        dsimp only at known
        rw [setEntry_self] at known
        cases known
        exact undisturbed answered there
      · dsimp only at known
        rw [setEntry_of_ne own] at known
        exact sound.current family name answer there known
    · intro family name answer known
      dsimp only at known ⊢
      by_cases own : (family, name) = target.key
      · left
        cases own
        rw [setEntry_self] at known
        rw [← known]
        exact passing.answered target member unsettled items outcome
      · rw [setEntry_of_ne own] at known
        cases sound.latest family name answer known with
        | inl last => exact Or.inl last
        | inr awaited =>
          exact Or.inr (awaited_put running found rfl (fun _ _ => fun same => own same.symm) awaited)
    · intro current same
      cases same
      refine passSound_put { target with settled := true } passing found
        rfl rfl rfl rfl ?_ (fun _ _ reported => reported)
        passing.unasked ?_ ?_
      · intro other apart
        exact ⟨setEntry_of_ne apart, rfl⟩
      · intro _
        rw [outcome]
        rfl
      · intro waiting
        cases waiting
  | noted listed outcome unsettled =>
    have unanswered : target.answered = true → target.settled = false →
        ∀ key, target.key ≠ key := by
      intro answered
      rw [Target.answered, outcome] at answered
      cases answered
    refine ⟨sound.distinct, sound.current, ?_, ?_⟩
    · intro family name answer known
      cases sound.latest family name answer known with
      | inl last => exact Or.inl last
      | inr awaited =>
        exact Or.inr (awaited_put running found rfl
          (fun answered waiting => unanswered answered waiting _) awaited)
    · intro current same
      cases same
      refine passSound_put { target with settled := true } passing found
        rfl rfl rfl rfl (fun _ _ => ⟨rfl, rfl⟩) ?_ ?_ ?_ ?_
      · intro other apart reported
        dsimp only at reported
        by_cases family : other.family = target.family
        · rw [family, Function.update_self] at reported
          rw [family]
          cases List.mem_append.mp reported with
          | inl former => exact former
          | inr own =>
            refine absurd ?_ apart
            rw [Target.key, Target.key, family, List.mem_singleton.mp own]
        · rw [Function.update_of_ne family] at reported
          exact reported
      · intro family none
        dsimp only
        rw [Function.update_of_ne]
        · exact passing.unasked family none
        · rintro rfl
          rw [passing.asked target member] at none
          cases none
      · intro _
        rw [outcome]
        rfl
      · intro waiting
        cases waiting

theorem sound_updateAvailability (sound : CatalogSound catalog)
    (running : catalog.pass = some pass) (stepped : updateAvailability catalog pass = some next) :
    CatalogSound next := by
  rw [updateAvailability] at stepped
  split at stepped
  · rename_i done
    rw [Bool.and_eq_true, List.all_eq_true] at done
    cases stepped
    refine ⟨sound.distinct, ?_, ?_, nofun⟩
    · intro family name answer there known
      rw [Present] at there
      dsimp only at there known
      rw [if_pos there] at known
      exact sound.current family name answer there known
    · intro family name answer known
      dsimp only at known
      split at known
      · cases sound.latest family name answer known with
        | inl last => exact Or.inl last
        | inr awaited =>
          obtain ⟨current, own, target, member, _, _, _, waiting⟩ := awaited
          obtain rfl := Option.some.inj (running.symm.trans own)
          rw [done.2 target member] at waiting
          cases waiting
      · cases known
  · cases stepped

theorem sound_abandon (sound : CatalogSound catalog) (running : catalog.pass = some pass)
    (settled : ∀ target ∈ pass.targets, target.answered = true → target.settled = true) :
    CatalogSound { catalog with pass := none } := by
  refine ⟨sound.distinct, sound.current, ?_, nofun⟩
  intro family name answer known
  cases sound.latest family name answer known with
  | inl last => exact Or.inl last
  | inr awaited =>
    obtain ⟨current, own, target, member, _, _, answered, waiting⟩ := awaited
    obtain rfl := Option.some.inj (running.symm.trans own)
    rw [settled target member answered] at waiting
    cases waiting

/-! ### Servers that come and go -/

/-- A change that leaves the pass and the answers alone, and loses nothing that is known of a server
that is there. -/
theorem passSound_congr (passing : PassSound catalog pass) (latest : next.latest = catalog.latest)
    (known : ∀ family name answer, next.lastKnownGood family name = some answer →
      catalog.lastKnownGood family name = some answer ∧
        (Present catalog name → Present next name)) :
    PassSound next pass := by
  refine ⟨passing.distinct, passing.asked, passing.unasked, passing.ended, ?_, ?_,
    passing.pending⟩
  · intro target member waiting answer held
    obtain ⟨former, kept⟩ := known target.family target.server answer held
    exact kept (passing.present target member waiting answer former)
  · rw [latest]
    exact passing.answered

theorem sound_stop (sound : CatalogSound catalog) (name : String) :
    CatalogSound (stopServer catalog name) := by
  rw [stopServer]
  by_cases there : Tables.containsKey catalog.servers name = true
  · rw [if_pos there]
    have known : ∀ family other answer,
        Function.update (catalog.lastKnownGood family) name none other = some answer →
        other ≠ name ∧ catalog.lastKnownGood family other = some answer := by
      intro family other answer held
      by_cases own : other = name
      · rw [own, Function.update_self] at held
        cases held
      · rw [Function.update_of_ne own] at held
        exact ⟨own, held⟩
    refine ⟨sound.distinct.filter _, ?_, ?_, ?_⟩
    · intro family other answer present held
      obtain ⟨apart, former⟩ := known family other answer held
      dsimp only
      rw [Function.update_of_ne apart]
      exact sound.current family other answer (Tables.containsKey_remove.mp present).2 former
    · intro family other answer held
      exact sound.latest family other answer (known family other answer held).2
    · intro pass running
      refine passSound_congr (sound.pass pass running) rfl ?_
      intro family other answer held
      obtain ⟨apart, former⟩ := known family other answer held
      exact ⟨former, fun present => Tables.containsKey_remove.mpr ⟨apart, present⟩⟩
  · rw [if_neg there]
    refine ⟨sound.distinct, ?_, sound.latest, ?_⟩
    · intro family other answer present held
      have apart : other ≠ name := by
        rintro rfl
        exact there present
      dsimp only
      rw [Function.update_of_ne apart]
      exact sound.current family other answer present held
    · intro pass running
      exact passSound_congr (sound.pass pass running) rfl fun _ _ _ held => ⟨held, id⟩

theorem unknown_of_forgotten {name : String} (unknown : forgotten catalog name = true)
    (absent : Tables.containsKey catalog.servers name = false) (family : Family) :
    catalog.lastKnownGood family name = none := by
  rw [forgotten, absent, Bool.false_or, List.all_eq_true] at unknown
  apply Option.isNone_iff_eq_none.mp
  apply unknown family
  cases family <;> simp

/-- A server is put in place anew, or takes the place of the former connection. -/
theorem sound_insert (sound : CatalogSound catalog) {name : String}
    (unknown : forgotten catalog name = true) (capabilities : Capabilities)
    (health : String → Option Health.ServerHealth) :
    CatalogSound
      { catalog with
        servers := Tables.insert catalog.servers name capabilities
        health := health } := by
  refine ⟨sound.distinct.insert name capabilities, ?_, sound.latest, ?_⟩
  · intro family other answer present known
    cases Tables.containsKey_insert.mp present with
    | inl own =>
      cases there : Tables.containsKey catalog.servers name with
      | true =>
        rw [own] at known ⊢
        exact sound.current family name answer there known
      | false =>
        rw [own] at known
        dsimp only at known
        rw [unknown_of_forgotten unknown there family] at known
        cases known
    | inr former => exact sound.current family other answer former known
  · intro pass running
    refine passSound_congr (sound.pass pass running) rfl ?_
    intro family other answer held
    exact ⟨held, fun present => Tables.containsKey_insert.mpr (Or.inr present)⟩

/-- Each step keeps what is known. -/
theorem sound_step {action : Action Items} (admitted : undisturbed catalog action = true)
    (sound : CatalogSound catalog) (stepped : step catalog action = some next) :
    CatalogSound next := by
  cases action with
  | beginPass => exact sound_begin sound stepped
  | askFor family =>
    obtain ⟨pass, running, asked⟩ := Option.bind_eq_some_iff.mp stepped
    exact sound_ask sound running asked
  | endListing index outcome =>
    obtain ⟨pass, running, rest⟩ := Option.bind_eq_some_iff.mp stepped
    obtain ⟨target, found, ended⟩ := Option.bind_eq_some_iff.mp rest
    exact sound_endListing sound running found ended
  | settle index =>
    obtain ⟨pass, running, rest⟩ := Option.bind_eq_some_iff.mp stepped
    obtain ⟨target, found, settled⟩ := Option.bind_eq_some_iff.mp rest
    rw [undisturbed, running, Option.all_some, found, Option.all_some, Bool.or_eq_true] at admitted
    refine sound_settle sound running found ?_ (settle_cases settled)
    intro answered present
    rw [answered, show Tables.containsKey catalog.servers target.server = true from present]
      at admitted
    exact eq_of_beq (admitted.resolve_left Bool.false_ne_true)
  | updateAvailability =>
    obtain ⟨pass, running, updated⟩ := Option.bind_eq_some_iff.mp stepped
    exact sound_updateAvailability sound running updated
  | abandonPass =>
    rw [step] at stepped
    split at stepped
    · rename_i present
      obtain ⟨pass, running⟩ := Option.isSome_iff_exists.mp present
      cases stepped
      rw [undisturbed, running, Option.all_some, List.all_eq_true] at admitted
      refine sound_abandon sound running ?_
      intro target member answered
      have kept := admitted target member
      rw [answered] at kept
      exact kept
    · cases stepped
  | stopServer name =>
    cases stepped
    exact sound_stop sound name
  | startAndRegister name capabilities =>
    cases stepped
    exact sound_insert sound admitted capabilities _
  | replaceServer name capabilities =>
    cases stepped
    exact sound_insert sound admitted capabilities _
  | recordHealth name health =>
    cases stepped
    refine ⟨sound.distinct, sound.current, sound.latest, ?_⟩
    intro pass running
    exact passSound_congr (sound.pass pass running) rfl fun _ _ _ held => ⟨held, id⟩

end Steps

/-! ### Every run -/

theorem sound_empty : CatalogSound (Catalog.empty : Catalog Items) :=
  ⟨List.nodup_nil, nofun, nofun, nofun⟩

/-- The server is among those that the pass reports as degraded for the list. -/
def ReportedDegraded (catalog : Catalog Items) (target : Target Items) : Prop :=
  ∃ pass ∈ catalog.pass, target.server ∈ pass.degraded target.family

/-- What a pass carries forward for a server was answered since the server was last stopped, and is
the last that it answered; and the server is reported as degraded exactly if it did not answer this
pass. So it is in every run in which an answer from before a stop is neither stored for a server that
is there, nor still kept when the server is put in place anew, and no answer is thrown away. -/
theorem carried_listing_current (trace : List (Action Items)) (catalog next : Catalog Items)
    (pass : Pass Items) (index : Nat) (target : Target Items)
    (admitted : Runs.Admitted step (fun state action => undisturbed state action = true)
      Catalog.empty trace)
    (ran : Runs.exec step Catalog.empty trace = some catalog)
    (running : catalog.pass = some pass) (found : pass.targets[index]? = some target)
    (stepped : step catalog (.settle index) = some next) :
    (∀ answer, carried catalog target = some answer →
      answer.incarnation = catalog.incarnations target.server ∧
        catalog.latest target.family target.server = some answer) ∧
      (ReportedDegraded next target ↔ target.outcome = some .unavailable) := by
  have sound : CatalogSound catalog := by
    refine Runs.exec_invariant step (fun state action => undisturbed state action = true)
      CatalogSound ?_ trace Catalog.empty catalog sound_empty admitted ran
    intro state action later meets held went
    exact sound_step meets held went
  have passing := sound.pass pass running
  have member := List.mem_of_getElem? found
  have settled : Settled catalog pass index target next := by
    rw [step, running, Option.bind_some, found, Option.bind_some] at stepped
    exact settle_cases stepped
  cases settled with
  | stored items listed outcome unsettled =>
    constructor
    · intro answer forwarded
      rw [carried, outcome] at forwarded
      cases forwarded
    · rw [outcome]
      constructor
      · rintro ⟨current, own, reported⟩
        cases own
        exact absurd reported (passing.pending target member unsettled)
      · intro unavailable
        cases unavailable
  | noted listed outcome unsettled =>
    constructor
    · intro answer forwarded
      rw [carried, outcome] at forwarded
      have there := passing.present target member unsettled answer forwarded
      refine ⟨sound.current target.family target.server answer there forwarded, ?_⟩
      cases sound.latest target.family target.server answer forwarded with
      | inl last => exact last
      | inr awaited =>
        obtain ⟨current, own, other, among, family, server, answered, _⟩ := awaited
        obtain rfl := Option.some.inj (running.symm.trans own)
        have same : other = target := by
          refine List.inj_on_of_nodup_map passing.distinct among member ?_
          rw [Target.key, Target.key, family, server]
        rw [same, Target.answered, outcome] at answered
        cases answered
    · constructor
      · intro _
        exact outcome
      · intro _
        refine ⟨_, rfl, ?_⟩
        dsimp only
        rw [Function.update_self]
        exact List.mem_append_right _ (List.mem_singleton_self _)

/-- A server answers a pass, and is stopped and started again in between. -/
def answeredOnce (between : List (Action (List String))) : List (Action (List String)) :=
  ([.startAndRegister "notes" ⟨true, false⟩, .beginPass, .askFor .resources,
    .askFor .resourceTemplates, .askFor .prompts, .endListing 0 (.fresh ["notes://today"]),
    .endListing 1 (.fresh [])] : List (Action (List String))) ++ between ++
  ([.settle 0, .settle 1, .updateAvailability, .beginPass, .askFor .resources,
    .endListing 0 .unavailable] : List (Action (List String)))

/-- The server that does not answer. -/
def failedTarget (incarnation : Nat) : Target (List String) :=
  ⟨.resources, "notes", incarnation, some .unavailable, false⟩

/-- The server was not stopped, and its list is carried forward. -/
theorem carried_listing_current_kept :
    ∃ catalog next, Runs.exec step Catalog.empty (answeredOnce []) = some catalog ∧
      step catalog (.settle 0) = some next ∧
      (∀ answer, carried catalog (failedTarget 0) = some answer →
        answer.incarnation = catalog.incarnations "notes" ∧
          catalog.latest .resources "notes" = some answer) ∧
      (ReportedDegraded next (failedTarget 0) ↔
        (failedTarget 0).outcome = some .unavailable) := by
  have outcome : (Runs.exec step Catalog.empty (answeredOnce [])).map
      (fun state => (state.pass.bind fun pass => pass.targets[0]?,
        (step state (.settle 0)).isSome)) = some (some (failedTarget 0), true) := by
    decide
  obtain ⟨catalog, ran, same⟩ := Option.map_eq_some_iff.mp outcome
  obtain ⟨asked, goes⟩ := Prod.mk.inj same
  obtain ⟨pass, running, found⟩ := Option.bind_eq_some_iff.mp asked
  obtain ⟨next, stepped⟩ := Option.isSome_iff_exists.mp goes
  exact ⟨catalog, next, ran, stepped,
    carried_listing_current (answeredOnce []) catalog next pass 0 (failedTarget 0) (by decide) ran
      running found stepped⟩

/-- The answer is stored after the server was stopped and started again, and then carried forward
for the new server. -/
theorem carried_from_stopped :
    ¬ ∀ (trace : List (Action (List String))) (catalog next : Catalog (List String))
      (pass : Pass (List String)) (index : Nat) (target : Target (List String)),
      Runs.exec step Catalog.empty trace = some catalog → catalog.pass = some pass →
      pass.targets[index]? = some target → step catalog (.settle index) = some next →
      ∀ answer, carried catalog target = some answer →
        answer.incarnation = catalog.incarnations target.server := by
  intro current
  have outcome : (Runs.exec step Catalog.empty
      (answeredOnce [.stopServer "notes", .startAndRegister "notes" ⟨true, false⟩])).map
      (fun state => (state.pass.bind fun pass => pass.targets[0]?,
        (step state (.settle 0)).isSome, carried state (failedTarget 1),
        state.incarnations "notes")) =
      some (some (failedTarget 1), true, some ⟨["notes://today"], 0⟩, 1) := by
    decide
  obtain ⟨catalog, ran, same⟩ := Option.map_eq_some_iff.mp outcome
  obtain ⟨asked, rest⟩ := Prod.mk.inj same
  obtain ⟨goes, rest⟩ := Prod.mk.inj rest
  obtain ⟨forwarded, stops⟩ := Prod.mk.inj rest
  obtain ⟨pass, running, found⟩ := Option.bind_eq_some_iff.mp asked
  obtain ⟨next, stepped⟩ := Option.isSome_iff_exists.mp goes
  have equal := current _ catalog next pass 0 (failedTarget 1) ran running found stepped _ forwarded
  rw [show (failedTarget 1).server = "notes" from rfl, stops] at equal
  cases equal

end Plug.Upkeep
