import Plug.Runs
import Mathlib.Logic.Function.Basic

/-!
# The continuation registry

A round that may park reserves capacity before its upstream call and publishes a
one-time token after it; a later request presents the token and takes the parked
value. Between these steps all state may be invalidated or an owner revoked. A
reservation carries the generations it was made under, and they are compared when
it is inserted; entries are removed when a generation moves.

Each section under the registry's lock is one step. Dropping a reservation takes
the owners' lock on its own: a reservation on its way out is in `dropping` until
its drop step. Where the source drops reservations with the registry still
locked, the model lets other steps come in between, so it has every run of the
source and more. The log is not part of the source: it records, newest first,
what the result is about.
-/

namespace Plug.Continuations

variable {Owner Digest Nonce Salt Data Token Value : Type}

inductive ContinuationKind where
  | elicitation
  | sampling
  | nativeToolRound
deriving DecidableEq

/-- The facts that must still be true when a continuation is used. -/
structure ContinuationBinding (Owner Digest : Type) where
  principal : Owner
  requestDigest : Digest
  routeDigest : Digest
  routeGeneration : Nat
  kind : ContinuationKind
deriving DecidableEq

/-- The request-state codec under the registry's key, and the digest that ties a
token to its binding. What sealing reads besides its arguments, the time and the
codec's own randomness, is the salt. -/
structure Codec (Owner Digest Nonce Salt Data Token : Type) where
  associatedData : ContinuationBinding Owner Digest → Data
  sealToken : Nonce → Salt → Data → Option Token
  openToken : Nat → Token → Data → Option Nonce
  length : Token → Nat

/-- `MRTR_MAX_REQUEST_STATE_BYTES`. -/
def maxRequestStateBytes : Nat :=
  4 * 1024

/-- Capacity held across an upstream round. The number tells reservations apart
in the log. -/
structure Reservation (Owner : Type) where
  number : Nat
  owner : Owner
  globalGeneration : Nat
  ownerGeneration : Nat

structure OwnerState where
  generation : Nat
  reservations : Nat

structure Entry (Owner Digest Nonce Value : Type) where
  nonce : Nonce
  value : Value
  binding : ContinuationBinding Owner Digest
  expiresAt : Nat
  reservation : Reservation Owner

/-- A token the codec sealed, over which nonce and with which data. -/
structure Sealing (Nonce Data Token : Type) where
  nonce : Nonce
  data : Data
  token : Token
deriving DecidableEq

inductive Event (Owner Digest Token : Type) where
  | reserved (number : Nat)
  | inserted (token : Token) (binding : ContinuationBinding Owner Digest) (number : Nat)
  | consumed (token : Token) (binding : ContinuationBinding Owner Digest) (number : Nat)
  | invalidated
  | revoked (owner : Owner)
deriving DecidableEq

structure State (Owner Digest Nonce Data Token Value : Type) where
  entries : List (Entry Owner Digest Nonce Value)
  globalGeneration : Nat
  owners : Owner → Option OwnerState
  held : List (Reservation Owner)
  dropping : List (Reservation Owner)
  sealings : List (Sealing Nonce Data Token)
  nextNumber : Nat
  clock : Nat
  log : List (Event Owner Digest Token)

def initial : State Owner Digest Nonce Data Token Value where
  entries := []
  globalGeneration := 0
  owners := fun _ => none
  held := []
  dropping := []
  sealings := []
  nextNumber := 0
  clock := 0
  log := []

/-- The locked part of `reserve_at`, with what the quotas answered. -/
def reserveAt [DecidableEq Owner] (state : State Owner Digest Nonce Data Token Value)
    (owner : Owner) (expectedGlobalGeneration : Nat) (quota : Bool) :
    State Owner Digest Nonce Data Token Value :=
  if quota && state.globalGeneration == expectedGlobalGeneration then
    let ownerState := (state.owners owner).getD ⟨0, 0⟩
    { state with
      owners := Function.update state.owners owner
        (some { ownerState with reservations := ownerState.reservations + 1 })
      held := ⟨state.nextNumber, owner, expectedGlobalGeneration, ownerState.generation⟩ ::
        state.held
      nextNumber := state.nextNumber + 1
      log := .reserved state.nextNumber :: state.log }
  else state

/-- `insert_reserved` with the held reservation at `index`. A reservation that is
not parked is dropped. -/
def insertReserved [DecidableEq Owner] [DecidableEq Nonce]
    (codec : Codec Owner Digest Nonce Salt Data Token) (ttl : Nat)
    (state : State Owner Digest Nonce Data Token Value) (index : Nat)
    (binding : ContinuationBinding Owner Digest) (value : Value) (nonce : Nonce) (salt : Salt) :
    Option (State Owner Digest Nonce Data Token Value) :=
  match state.held[index]? with
  | none => none
  | some reservation =>
    let taken := { state with held := state.held.eraseIdx index }
    let refused := { taken with dropping := reservation :: taken.dropping }
    match codec.sealToken nonce salt (codec.associatedData binding) with
    | none => some refused
    | some token =>
      let sealings := ⟨nonce, codec.associatedData binding, token⟩ :: state.sealings
      if codec.length token ≤ maxRequestStateBytes ∧
          (state.owners reservation.owner).map OwnerState.generation =
            some reservation.ownerGeneration ∧
          binding.principal = reservation.owner ∧
          state.globalGeneration = reservation.globalGeneration ∧
          ∀ entry ∈ state.entries, entry.nonce ≠ nonce then
        some { taken with
          sealings
          entries := ⟨nonce, value, binding, state.clock + ttl, reservation⟩ :: state.entries
          log := .inserted token binding reservation.number :: state.log }
      else some { refused with sealings }

/-- `consume`: open the token, take the entry out, and only then look at it. -/
def consume [DecidableEq Owner] [DecidableEq Digest] [DecidableEq Nonce]
    (codec : Codec Owner Digest Nonce Salt Data Token)
    (state : State Owner Digest Nonce Data Token Value) (token : Token)
    (binding : ContinuationBinding Owner Digest) : State Owner Digest Nonce Data Token Value :=
  if codec.length token ≤ maxRequestStateBytes then
    match codec.openToken state.clock token (codec.associatedData binding) with
    | none => state
    | some nonce =>
      match state.entries.find? fun entry => entry.nonce = nonce with
      | none => state
      | some entry =>
        let removed := { state with
          entries := state.entries.filter fun other => other.nonce ≠ nonce }
        if entry.expiresAt ≤ state.clock ∨ entry.binding ≠ binding then
          { removed with dropping := entry.reservation :: removed.dropping }
        else
          { removed with
            held := entry.reservation :: removed.held
            log := .consumed token binding entry.reservation.number :: removed.log }
  else state

/-- Entries taken out of the registry, whose reservations are to be dropped. -/
def State.removing (state : State Owner Digest Nonce Data Token Value)
    (removed : Entry Owner Digest Nonce Value → Bool) : State Owner Digest Nonce Data Token Value :=
  { state with
    entries := state.entries.filter fun entry => !removed entry
    dropping := (state.entries.filter removed).map Entry.reservation ++ state.dropping }

def purgeExpired (state : State Owner Digest Nonce Data Token Value) :
    State Owner Digest Nonce Data Token Value :=
  state.removing fun entry => entry.expiresAt ≤ state.clock

/-- An owner without reservations has no generation to move. -/
def revokeOwnerKey [DecidableEq Owner] (state : State Owner Digest Nonce Data Token Value)
    (owner : Owner) : State Owner Digest Nonce Data Token Value :=
  let revoked := { state with log := .revoked owner :: state.log }
  match state.owners owner with
  | none => revoked
  | some ownerState =>
    { revoked with
      owners := Function.update state.owners owner
        (some { ownerState with generation := ownerState.generation + 1 }) }.removing
      fun entry => entry.binding.principal = owner

def publishWithInvalidation (state : State Owner Digest Nonce Data Token Value)
    (invalidate : Bool) : State Owner Digest Nonce Data Token Value :=
  if invalidate then
    { state with
      globalGeneration := state.globalGeneration + 1
      log := .invalidated :: state.log }.removing fun _ => true
  else state

def clear (state : State Owner Digest Nonce Data Token Value) :
    State Owner Digest Nonce Data Token Value :=
  publishWithInvalidation state true

/-- The drop of a reservation: the last one of an owner takes the owner's state
with it. -/
def dropReservation [DecidableEq Owner] (state : State Owner Digest Nonce Data Token Value)
    (index : Nat) : Option (State Owner Digest Nonce Data Token Value) :=
  match state.dropping[index]? with
  | none => none
  | some reservation =>
    let dropped := { state with dropping := state.dropping.eraseIdx index }
    match state.owners reservation.owner with
    | none => some dropped
    | some ownerState => some { dropped with
        owners := Function.update state.owners reservation.owner
          (if ownerState.reservations - 1 = 0 then none
            else some { ownerState with reservations := ownerState.reservations - 1 }) }

/-- One step of the callers of the registry. A caller may also give up a
reservation it holds. -/
inductive Action (Owner Digest Nonce Salt Token Value : Type) where
  | reserveAt (owner : Owner) (expectedGlobalGeneration : Nat) (quota : Bool)
  | insertReserved (index : Nat) (binding : ContinuationBinding Owner Digest) (value : Value)
      (nonce : Nonce) (salt : Salt)
  | consume (token : Token) (binding : ContinuationBinding Owner Digest)
  | purge
  | revokeOwnerKey (owner : Owner)
  | clear
  | publishWithInvalidation (invalidate : Bool)
  | giveUp (index : Nat)
  | drop (index : Nat)
  | tick (elapsed : Nat)

def step [DecidableEq Owner] [DecidableEq Digest] [DecidableEq Nonce]
    (codec : Codec Owner Digest Nonce Salt Data Token) (ttl : Nat)
    (state : State Owner Digest Nonce Data Token Value) :
    Action Owner Digest Nonce Salt Token Value → Option (State Owner Digest Nonce Data Token Value)
  | .reserveAt owner expected quota => some (reserveAt state owner expected quota)
  | .insertReserved index binding value nonce salt =>
    insertReserved codec ttl state index binding value nonce salt
  | .consume token binding => some (consume codec state token binding)
  | .purge => some (purgeExpired state)
  | .revokeOwnerKey owner => some (revokeOwnerKey state owner)
  | .clear => some (clear state)
  | .publishWithInvalidation invalidate => some (publishWithInvalidation state invalidate)
  | .giveUp index =>
    match state.held[index]? with
    | none => none
    | some reservation => some { state with
        held := state.held.eraseIdx index, dropping := reservation :: state.dropping }
  | .drop index => dropReservation state index
  | .tick elapsed => some { state with clock := state.clock + elapsed }

/-- What the codec and the nonces are trusted for: a new token is sealed over a
new nonce and is itself new, and a token opens with some data only if it was
sealed with that data. -/
def Trusted (codec : Codec Owner Digest Nonce Salt Data Token)
    (state : State Owner Digest Nonce Data Token Value) :
    Action Owner Digest Nonce Salt Token Value → Prop
  | .insertReserved _ binding _ nonce salt => ∀ sealing ∈ state.sealings,
    sealing.nonce ≠ nonce ∧
      codec.sealToken nonce salt (codec.associatedData binding) ≠ some sealing.token
  | .consume token binding =>
    ∀ nonce ∈ codec.openToken state.clock token (codec.associatedData binding),
      ⟨nonce, codec.associatedData binding, token⟩ ∈ state.sealings
  | _ => True

instance Trusted.decidable [DecidableEq Nonce] [DecidableEq Data] [DecidableEq Token]
    (codec : Codec Owner Digest Nonce Salt Data Token)
    (state : State Owner Digest Nonce Data Token Value) :
    ∀ action : Action Owner Digest Nonce Salt Token Value, Decidable (Trusted codec state action)
  | .insertReserved .. => List.decidableBAll _ _
  | .consume .. => Option.decidableForallMem _
  | .reserveAt .. | .purge | .revokeOwnerKey _ | .clear | .publishWithInvalidation _
  | .giveUp _ | .drop _ | .tick _ => isTrue trivial

/-- Since the reservation was made nothing was invalidated and its owner was not
revoked. -/
def Untouched (number : Nat) (owner : Owner) : List (Event Owner Digest Token) → Prop
  | [] => False
  | .reserved other :: rest => other = number ∨ Untouched number owner rest
  | .invalidated :: _ => False
  | .revoked other :: rest => other ≠ owner ∧ Untouched number owner rest
  | _ :: rest => Untouched number owner rest

/-- A token is consumed once, with the binding it was inserted with, and with
nothing invalidated or revoked since its reservation. -/
def Lawful : List (Event Owner Digest Token) → Prop
  | [] => True
  | .consumed token binding number :: rest =>
    (∀ other otherNumber, .consumed token other otherNumber ∉ rest) ∧
      .inserted token binding number ∈ rest ∧ Untouched number binding.principal rest ∧
      Lawful rest
  | _ :: rest => Lawful rest

end Plug.Continuations
