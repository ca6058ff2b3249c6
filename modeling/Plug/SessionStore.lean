import Plug.Queues
import Plug.Runs
import Mathlib.Data.List.AList

/-!
# The store of downstream sessions

Sessions are opened under one admission lock, by `create_session` and `reopen_session`, and
taken out at any time: by expiry, at the end of an access, to make room, or because the client
closed them. A closed session is also put on a list of the latest 512 closed ones, which
`reopen_session` consults. Every section that holds a lock is one step; a walk over the
sessions looks at one of them at a time.

`remove` takes a session out of the store in one section and records it as closed in another.
-/

namespace Plug.Sessions

def closedSessionsKept : Nat := 512
def quietFor : Nat := 60

structure Settings (Id : Type) where
  timeout : Nat
  maxSessions : Nat
  /-- `Uuid::parse_str` accepts the id. -/
  isUuid : Id → Bool

structure SessionState where
  lastActivity : Nat
  /-- A stream is attached and open. -/
  streaming : Bool
  reopened : Bool
deriving DecidableEq

def SessionState.new (now : Nat) : SessionState := ⟨now, false, false⟩

def SessionState.expired (entry : SessionState) (timeout now : Nat) : Bool :=
  decide (timeout < now - entry.lastActivity)

/-- A session that may be dropped to make room. -/
def SessionState.quiet (entry : SessionState) (now : Nat) : Bool :=
  !entry.streaming && decide (quietFor ≤ now - entry.lastActivity)

inductive Request (Id : Type) where
  | create
  | reopen (id : Id)
deriving DecidableEq

/-- Where a call under the admission lock has come to. `room` is set from the second sweep
on, the one of `make_room`. -/
inductive Stage (Id : Type) where
  /-- `prune_expired_sessions` collects candidates. -/
  | visiting (room : Bool) (left expired : List Id)
  /-- It removes those that are still expired. -/
  | dropping (room : Bool) (expired : List Id)
  | lookingUp
  | checkingClosed
  | counting
  | choosing (left : List Id) (quietest : Option (Id × Nat))
  | evicting (quietest : Id × Nat)
  | recounting
  | inserting
  | marking
deriving DecidableEq

inductive Event (Id : Type) where
  /-- `remove` has taken the session out of the store. -/
  | taken (id : Id)
  /-- `remove` has put it on the list of closed sessions. -/
  | closed (id : Id)
  /-- `reopen_session` has succeeded; `opened` says that it opened the session. -/
  | reopened (id : Id) (opened : Bool)
deriving DecidableEq

/-- `removing` has the removals between their sections, `issued` every id that was ever in the
store, and `log` what happened, newest last. -/
structure Store (Id : Type) where
  sessions : AList fun _ : Id => SessionState
  closed : List Id
  removing : List Id
  admission : Option (Request Id × Stage Id)
  issued : List Id
  log : List (Event Id)

variable {Id : Type}

def Store.new : Store Id := ⟨∅, [], [], none, [], []⟩

def Store.size (store : Store Id) : Nat := store.sessions.entries.length

/-- The call goes on under the lock. -/
def Store.goTo (store : Store Id) (request : Request Id) (stage : Stage Id) : Store Id :=
  { store with admission := some (request, stage) }

/-- The call returns. -/
def Store.unlock (store : Store Id) : Store Id :=
  { store with admission := none }

def Store.note (store : Store Id) (event : Event Id) : Store Id :=
  { store with log := store.log ++ [event] }

variable [DecidableEq Id]

def Store.erase (store : Store Id) (id : Id) : Store Id :=
  { store with sessions := store.sessions.erase id }

/-- `remove_if`: the session is removed if it still meets the condition. -/
def Store.removeIf (store : Store Id) (id : Id) (meets : SessionState → Bool) : Store Id :=
  if (store.sessions.lookup id).any meets then store.erase id else store

def Store.update (store : Store Id) (id : Id) (change : SessionState → SessionState) : Store Id :=
  match store.sessions.lookup id with
  | some entry => { store with sessions := store.sessions.replace id (change entry) }
  | none => store

def Store.insertNew (store : Store Id) (id : Id) (now : Nat) : Store Id :=
  { store with
    sessions := store.sessions.insert id (.new now)
    issued := id :: store.issued }

inductive Act (Id : Type) where
  /-- The calls that take the admission lock. -/
  | createSession
  | reopenSession (id : Id)
  /-- The walk under the lock comes to a session. -/
  | visit (id : Id) (now : Nat)
  /-- The call under the lock goes on with what it has collected. -/
  | proceed
  | dropExpired (now : Nat)
  | lookUp
  | checkClosed
  /-- The sessions are counted part by part: `stale` of those counted are gone. -/
  | count (stale : Nat)
  | evict
  /-- The new session; `fresh` is the UUID that a creation draws. -/
  | insert (now : Nat) (fresh : Id)
  | mark
  /-- What other calls do to a session. -/
  | touch (id : Id) (now : Nat)
  | attach (id : Id) (now : Nat)
  | detach (id : Id)
  | expire (id : Id) (now : Nat)
  | finish (id : Id)
  /-- The two sections of `remove`. -/
  | remove (id : Id)
  | recordClosed (id : Id)

def Request.sessionId (fresh : Id) : Request Id → Id
  | .create => fresh
  | .reopen id => id

/-- The candidate of a walk for the session that has been quiet the longest. -/
def quieter (id : Id) (entry : SessionState) (quietest : Option (Id × Nat)) : Option (Id × Nat) :=
  if quietest.any fun found => found.2 ≤ entry.lastActivity then quietest
  else some (id, entry.lastActivity)

/-- The call under the admission lock takes its next section. A random UUID is one that was
not in the store before. -/
def advance (settings : Settings Id) (store : Store Id) (request : Request Id) :
    Stage Id → Act Id → Option (Store Id)
  | .visiting room left expired, .visit id now =>
    if id ∈ left then
      let found := (store.sessions.lookup id).any fun entry => entry.expired settings.timeout now
      some (store.goTo request
        (.visiting room (left.erase id) (if found then expired ++ [id] else expired)))
    else none
  | .visiting room [] expired, .proceed => some (store.goTo request (.dropping room expired))
  | .dropping room (id :: rest), .dropExpired now =>
    some ((store.removeIf id fun entry => entry.expired settings.timeout now).goTo request
      (.dropping room rest))
  | .dropping room [], .proceed =>
    some (store.goTo request (if room then .counting else .lookingUp))
  | .lookingUp, .lookUp =>
    match request with
    | .create => none
    | .reopen id =>
      if id ∈ store.sessions then some (store.unlock.note (.reopened id false))
      else some (store.goTo request .checkingClosed)
  | .checkingClosed, .checkClosed =>
    match request with
    | .create => none
    | .reopen id =>
      if id ∈ store.closed then some store.unlock
      else some (store.goTo request (.visiting true store.sessions.keys []))
  | .counting, .count stale =>
    some (store.goTo request (if store.size + stale < settings.maxSessions then .inserting
      else .choosing store.sessions.keys none))
  | .choosing left quietest, .visit id now =>
    if id ∈ left then
      let found := (store.sessions.lookup id).filter fun entry => entry.quiet now
      some (store.goTo request (.choosing (left.erase id)
        (match found with
        | some entry => quieter id entry quietest
        | none => quietest)))
    else none
  | .choosing [] (some quietest), .proceed => some (store.goTo request (.evicting quietest))
  | .choosing [] none, .proceed => some store.unlock
  | .evicting quietest, .evict =>
    some ((store.removeIf quietest.1 fun entry => entry.lastActivity = quietest.2).goTo request
      .recounting)
  | .recounting, .count stale =>
    if store.size + stale < settings.maxSessions then some (store.goTo request .inserting)
    else some store.unlock
  | .inserting, .insert now fresh =>
    match request with
    | .create =>
      if fresh ∈ store.issued then none else some (store.insertNew fresh now).unlock
    | .reopen id =>
      some (((store.insertNew id now).goTo request .marking).note (.reopened id true))
  | .marking, .mark =>
    match request with
    | .create => none
    | .reopen id =>
      some (store.update id fun entry => { entry with reopened := true }).unlock
  | _, _ => none

def step (settings : Settings Id) (store : Store Id) : Act Id → Option (Store Id)
  | .createSession =>
    if store.admission.isNone then
      some (store.goTo .create (.visiting true store.sessions.keys []))
    else none
  | .reopenSession id =>
    if store.admission.isNone then
      if settings.isUuid id then
        some (store.goTo (.reopen id) (.visiting false store.sessions.keys []))
      else some store
    else none
  | .touch id now =>
    some (store.update id fun entry =>
      if entry.expired settings.timeout now then entry else { entry with lastActivity := now })
  | .attach id now =>
    some (store.update id fun entry =>
      { entry with
        lastActivity := now
        streaming := true
        reopened := false })
  | .detach id => some (store.update id fun entry => { entry with streaming := false })
  | .expire id now =>
    some (store.removeIf id fun entry => entry.expired settings.timeout now)
  | .finish id => some (store.erase id)
  | .remove id =>
    if id ∈ store.sessions then
      some ({ store.erase id with removing := store.removing ++ [id] }.note (.taken id))
    else some store
  | .recordClosed id =>
    if id ∈ store.removing then
      some ({ store with
        removing := store.removing.erase id
        closed := Queues.push closedSessionsKept store.closed id }.note (.closed id))
    else none
  | act => store.admission.bind fun (request, stage) => advance settings store request stage act

/-- No id is looked up among the closed ones while its removal is between its sections. -/
def removalRecorded (store : Store Id) : Act Id → Bool
  | .checkClosed =>
    match store.admission with
    | some (.reopen id, _) => decide (id ∉ store.removing)
    | _ => true
  | _ => true

end Plug.Sessions
