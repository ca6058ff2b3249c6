import Plug.HealthStates
import Plug.Tables

/-!
# Listings of the catalog and what is carried forward

A refresh of the catalog asks each server for its resources, resource templates and prompts, all at
the same time, and then stores each list that was answered as the last known good one. Where a
server does not answer, the last known good list is carried forward. Servers are stopped, started
and replaced meanwhile; a stop drops what is known of a server. An answer is kept with the number
of stops of the server before the connection it came from was taken up.
-/

namespace Plug.Upkeep

open Health (ServerHealth)

inductive Family where
  | resources
  | resourceTemplates
  | prompts
deriving DecidableEq

structure Capabilities where
  resources : Bool
  prompts : Bool
deriving DecidableEq

def Capabilities.offers (capabilities : Capabilities) : Family → Bool
  | .resources | .resourceTemplates => capabilities.resources
  | .prompts => capabilities.prompts

/-- A list that a server answered, and how often the server had been stopped before. -/
structure Answer (Items : Type) where
  items : Items
  incarnation : Nat
deriving DecidableEq

inductive ListingOutcome (Items : Type) where
  | fresh (items : Items)
  | unavailable
deriving DecidableEq

structure Target (Items : Type) where
  family : Family
  server : String
  incarnation : Nat
  outcome : Option (ListingOutcome Items)
  settled : Bool
deriving DecidableEq

inductive Availability where
  | healthy
  | degraded
  | absent
deriving DecidableEq

/-- A pass under way: the families it has asked for, from which servers, and its results so far. -/
structure Pass (Items : Type) where
  asked : Family → Bool
  targets : List (Target Items)
  items : Family → List (String × Items)
  degraded : Family → List String

structure Catalog (Items : Type) where
  servers : List (String × Capabilities)
  health : String → Option ServerHealth
  lastKnownGood : Family → String → Option (Answer Items)
  availability : String → Option Availability
  pass : Option (Pass Items)
  incarnations : String → Nat
  latest : Family → String → Option (Answer Items)

variable {Items : Type}

/-- No server has been connected yet. -/
def Catalog.empty : Catalog Items where
  servers := []
  health _ := none
  lastKnownGood _ _ := none
  availability _ := none
  pass := none
  incarnations _ := 0
  latest _ _ := none

def setEntry (table : Family → String → Option (Answer Items)) (family : Family) (name : String)
    (answer : Option (Answer Items)) : Family → String → Option (Answer Items) :=
  Function.update table family (Function.update (table family) name answer)

def isRoutable (catalog : Catalog Items) (name : String) : Bool :=
  (catalog.health name).all fun health => health.isRoutable

/-- The servers that a pass asks for the list of a family. -/
def familyTargets (catalog : Catalog Items) (family : Family) : List (Target Items) :=
  (catalog.servers.filter fun item => isRoutable catalog item.1 && item.2.offers family).map
    fun item => ⟨family, item.1, catalog.incarnations item.1, none, false⟩

/-- At most one pass is under way. -/
def beginPass (catalog : Catalog Items) : Option (Catalog Items) :=
  if catalog.pass.isNone then
    some
      { catalog with
        pass := some
          { asked := fun _ => false
            targets := []
            items := fun _ => []
            degraded := fun _ => [] } }
  else none

/-- The servers are asked for the list of a family, each at the same time. -/
def askFor (catalog : Catalog Items) (pass : Pass Items) (family : Family) :
    Option (Catalog Items) :=
  if pass.asked family then none
  else
    some
      { catalog with
        pass := some
          { pass with
            asked := Function.update pass.asked family true
            targets := pass.targets ++ familyTargets catalog family } }

def Pass.put (pass : Pass Items) (index : Nat) (target : Target Items) : Pass Items :=
  { pass with targets := pass.targets.set index target }

/-- A listing ends: the server answers, or it fails or takes too long. -/
def endListing (catalog : Catalog Items) (pass : Pass Items) (index : Nat) (target : Target Items)
    (outcome : ListingOutcome Items) : Option (Catalog Items) :=
  if target.outcome.isSome then none
  else
    let ended := pass.put index { target with outcome := some outcome }
    match outcome with
    | .fresh items =>
      some
        { catalog with
          pass := some ended
          latest :=
            setEntry catalog.latest target.family target.server
              (some ⟨items, target.incarnation⟩) }
    | .unavailable => some { catalog with pass := some ended }

/-- What is carried forward for a server that did not answer. -/
def carried (catalog : Catalog Items) (target : Target Items) : Option (Answer Items) :=
  match target.outcome with
  | some .unavailable => catalog.lastKnownGood target.family target.server
  | _ => none

/-- The results of a family are taken up one by one, once all of them are there. -/
def settle (catalog : Catalog Items) (pass : Pass Items) (index : Nat) (target : Target Items) :
    Option (Catalog Items) :=
  if target.settled ||
      pass.targets.any fun other => other.family == target.family && other.outcome.isNone then none
  else
    let settled := pass.put index { target with settled := true }
    let append (items : List (String × Items)) :=
      Function.update pass.items target.family (pass.items target.family ++ items)
    match target.outcome with
    | some (.fresh items) =>
      some
        { catalog with
          pass := some { settled with items := append [(target.server, items)] }
          lastKnownGood :=
            setEntry catalog.lastKnownGood target.family target.server
              (some ⟨items, target.incarnation⟩) }
    | some .unavailable =>
      some
        { catalog with
          pass := some
            { settled with
              items :=
                append ((carried catalog target).toList.map fun answer =>
                  (target.server, answer.items))
              degraded :=
                Function.update pass.degraded target.family
                  (pass.degraded target.family ++ [target.server]) } }
    | none => none

/-- The end of a pass: the availability of the servers that are there is recorded anew, and what is
known of others is dropped. -/
def updateAvailability (catalog : Catalog Items) (pass : Pass Items) : Option (Catalog Items) :=
  if pass.asked .resources && pass.asked .resourceTemplates && pass.asked .prompts &&
      pass.targets.all fun target => target.settled then
    let degraded := pass.degraded .resources ++ pass.degraded .resourceTemplates ++
      pass.degraded .prompts
    some
      { catalog with
        pass := none
        availability := fun name =>
          if Tables.containsKey catalog.servers name then
            some
              (if !isRoutable catalog name then .absent
              else if degraded.contains name then .degraded
              else .healthy)
          else none
        lastKnownGood := fun family name =>
          if Tables.containsKey catalog.servers name then catalog.lastKnownGood family name
          else none }
  else none

/-- A stop drops what is known of a server that is there. -/
def stopServer (catalog : Catalog Items) (name : String) : Catalog Items :=
  let stopped :=
    { catalog with
      health := Function.update catalog.health name none
      incarnations := Function.update catalog.incarnations name (catalog.incarnations name + 1) }
  if Tables.containsKey catalog.servers name then
    { stopped with
      servers := Tables.remove catalog.servers name
      availability := Function.update catalog.availability name none
      lastKnownGood := fun family => Function.update (catalog.lastKnownGood family) name none }
  else stopped

/-- A server is started. -/
def startAndRegister (catalog : Catalog Items) (name : String) (capabilities : Capabilities) :
    Catalog Items :=
  { catalog with
    servers := Tables.insert catalog.servers name capabilities
    health := Function.update catalog.health name (some .healthy) }

/-- A server is reconnected: what is known of it stays. -/
def replaceServer (catalog : Catalog Items) (name : String) (capabilities : Capabilities) :
    Catalog Items :=
  { catalog with
    servers := Tables.insert catalog.servers name capabilities
    health := Function.update catalog.health name
      ((catalog.health name).map fun _ => .healthy) }

inductive Action (Items : Type) where
  | beginPass
  | askFor (family : Family)
  | endListing (index : Nat) (outcome : ListingOutcome Items)
  | settle (index : Nat)
  | updateAvailability
  | abandonPass
  | stopServer (name : String)
  | startAndRegister (name : String) (capabilities : Capabilities)
  | replaceServer (name : String) (capabilities : Capabilities)
  | recordHealth (name : String) (health : ServerHealth)

def step (catalog : Catalog Items) : Action Items → Option (Catalog Items)
  | .beginPass => beginPass catalog
  | .askFor family => catalog.pass.bind fun pass => askFor catalog pass family
  | .endListing index outcome =>
    catalog.pass.bind fun pass =>
      pass.targets[index]?.bind fun target => endListing catalog pass index target outcome
  | .settle index =>
    catalog.pass.bind fun pass =>
      pass.targets[index]?.bind fun target => settle catalog pass index target
  | .updateAvailability => catalog.pass.bind fun pass => updateAvailability catalog pass
  | .abandonPass => if catalog.pass.isSome then some { catalog with pass := none } else none
  | .stopServer name => some (stopServer catalog name)
  | .startAndRegister name capabilities => some (startAndRegister catalog name capabilities)
  | .replaceServer name capabilities => some (replaceServer catalog name capabilities)
  | .recordHealth name health =>
    some { catalog with health := Function.update catalog.health name (some health) }

def Target.answered (target : Target Items) : Bool :=
  match target.outcome with
  | some (.fresh _) => true
  | _ => false

/-- Nothing is known of a server that is put in place anew. -/
def forgotten (catalog : Catalog Items) (name : String) : Bool :=
  Tables.containsKey catalog.servers name ||
    [Family.resources, .resourceTemplates, .prompts].all fun family =>
      (catalog.lastKnownGood family name).isNone

/-- What was answered before a server was stopped is neither stored nor kept for one that is there,
and no answer is thrown away. -/
def undisturbed (catalog : Catalog Items) : Action Items → Bool
  | .settle index =>
    catalog.pass.all fun pass =>
      pass.targets[index]?.all fun target =>
        !(target.answered && Tables.containsKey catalog.servers target.server) ||
          target.incarnation == catalog.incarnations target.server
  | .startAndRegister name _ | .replaceServer name _ => forgotten catalog name
  | .abandonPass =>
    catalog.pass.all fun pass =>
      pass.targets.all fun target => !target.answered || target.settled
  | .beginPass | .askFor _ | .endListing _ _ | .updateAvailability | .stopServer _
  | .recordHealth _ _ => true

end Plug.Upkeep
