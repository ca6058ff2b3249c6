import Plug.Runs

/-!
# The list of tools of a connection

A connection asks for the tools when it is made, and again each time the server says that they
changed. Each listing stores its own answer when it goes on, the first one only after the probe for
tasks has ended as well. Nothing orders the listings that are under way at the same time.
-/

namespace Plug.Listings

/-- A listing, with the number of changes that had been announced when it was asked for. -/
inductive ListingPhase (Tools : Type) where
  | notified
  | requested (since : Nat)
  | answered (since : Nat) (tools : Tools)
  | stored (since : Nat)
  | failed
deriving DecidableEq

structure Listing (Tools : Type) where
  initial : Bool
  phase : ListingPhase Tools
deriving DecidableEq

structure Connection (Tools : Type) where
  notifications : Nat
  probing : Bool
  listings : List (Listing Tools)
  tools : Tools
  answers : List (Nat × Tools)
deriving DecidableEq

variable {Tools : Type}

/-- A connection to a server that is asked whether it knows tasks, or is not. -/
def finishUpstreamConnection (empty : Tools) (legacy : Bool) : Connection Tools where
  notifications := 0
  probing := legacy
  listings := [⟨true, .notified⟩]
  tools := empty
  answers := []

inductive ListingAction (Tools : Type) where
  | onToolListChanged
  | request (index : Nat)
  | answer (index : Nat) (tools : Tools)
  | fail (index : Nat)
  | endProbe
  | store (index : Nat)
deriving DecidableEq

def Connection.put (connection : Connection Tools) (index : Nat) (listing : Listing Tools)
    (phase : ListingPhase Tools) : Connection Tools :=
  { connection with
    listings := connection.listings.set index { listing with phase := phase } }

/-- The listing at a place goes on, if it is in the phase for it. -/
def advanceListing (connection : Connection Tools) (index : Nat)
    (go : Listing Tools → Option (Connection Tools)) : Option (Connection Tools) :=
  connection.listings[index]?.bind go

def listingStep (connection : Connection Tools) :
    ListingAction Tools → Option (Connection Tools)
  | .onToolListChanged =>
    some
      { connection with
        notifications := connection.notifications + 1
        listings := connection.listings ++ [⟨false, .notified⟩] }
  | .request index =>
    advanceListing connection index fun listing =>
      match listing.phase with
      | .notified => some (connection.put index listing (.requested connection.notifications))
      | _ => none
  | .answer index tools =>
    advanceListing connection index fun listing =>
      match listing.phase with
      | .requested since =>
        some
          { connection.put index listing (.answered since tools) with
            answers := connection.answers ++ [(since, tools)] }
      | _ => none
  | .fail index =>
    advanceListing connection index fun listing =>
      match listing.phase with
      | .requested _ => some (connection.put index listing .failed)
      | _ => none
  | .endProbe => some { connection with probing := false }
  | .store index =>
    advanceListing connection index fun listing =>
      match listing.phase with
      | .answered since tools =>
        if listing.initial && connection.probing then none
        else some { connection.put index listing (.stored since) with tools := tools }
      | _ => none

/-- Every listing has stored its answer. -/
def Quiescent (connection : Connection Tools) : Prop :=
  ∀ listing ∈ connection.listings, ∃ since, listing.phase = .stored since

/-- The stored tools are an answer to a request that was made after the last change was announced. -/
def CaughtUp (connection : Connection Tools) : Prop :=
  (connection.notifications, connection.tools) ∈ connection.answers

/-- A listing with an answer was not asked for before one that has stored its own. -/
def ListingPhase.notBefore : ListingPhase Tools → ListingPhase Tools → Bool
  | .answered since _, .stored earlier => decide (earlier ≤ since)
  | _, _ => true

/-- No listing stores its answer after one that was asked for when more changes had been
announced. -/
def storesInOrder (connection : Connection Tools) : ListingAction Tools → Bool
  | .store index =>
    connection.listings[index]?.all fun listing =>
      connection.listings.all fun other => listing.phase.notBefore other.phase
  | _ => true

end Plug.Listings
