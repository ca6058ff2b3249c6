import Plug.SessionStore

/-!
# What is kept for HTTP sessions

Apart from the store, a session has entries in structures that are keyed by its id: resource
subscriptions, its bridge, roots, log level and others. Request handlers write them after they
have looked the session up, `reopen_lost_session` registers the bridge of a session that was
opened again, and `teardown_session` clears the structures one after the other, by the expiry
listener for each id that it was sent and by a DELETE for the session that it removed.

Every section between two awaits or under one lock is a step. A walk that clears a structure
reaches every entry that was there when it began, and may reach those that are put meanwhile.
The tasks of a session, which the task store guards by itself, are left out.
-/

namespace Plug.HttpSessions

open Sessions (Store)

structure ClientCapabilities where
  roots : Bool
  elicitation : Bool
  sampling : Bool
deriving DecidableEq

/-- The capabilities of a client that has not stated any. -/
def ClientCapabilities.none : ClientCapabilities := ⟨false, false, false⟩

inductive LoggingLevel where
  | debug | info | notice | warning | error | critical | alert | emergency
deriving DecidableEq

/-- The structures, as `teardown_session` clears them. -/
inductive Part where
  | subscriptions | subscriberKeys | rootsCapable | clientCapabilities | pendingRequests
  | bridges | roots | logLevels | lazySets
deriving DecidableEq

def teardownParts : List Part :=
  [.subscriptions, .subscriberKeys, .rootsCapable, .clientCapabilities, .pendingRequests, .bridges,
    .roots, .logLevels, .lazySets]

/-- What an entry of a session is found by. -/
inductive Key where
  | subscription (uri : List Char)
  | pendingRequest (number : Nat)
  /-- The one entry of the session in a structure that has one for each. -/
  | whole (part : Part)
deriving DecidableEq

def Key.part : Key → Part
  | .subscription _ => .subscriptions
  | .pendingRequest _ => .pendingRequests
  | .whole part => part

inductive Item where
  | subscription (uri : List Char)
  | subscriberKey (clientKey : List Char)
  | rootsCapable
  | capabilities (capabilities : ClientCapabilities)
  | pendingRequest (number : Nat)
  | bridge (capabilities : ClientCapabilities)
  | roots (roots : List (List Char))
  | logLevel (level : LoggingLevel)
  | lazyTools (loaded : List (List Char))
deriving DecidableEq

def Item.key : Item → Key
  | .subscription uri => .subscription uri
  | .subscriberKey _ => .whole .subscriberKeys
  | .rootsCapable => .whole .rootsCapable
  | .capabilities _ => .whole .clientCapabilities
  | .pendingRequest number => .pendingRequest number
  | .bridge _ => .whole .bridges
  | .roots _ => .whole .roots
  | .logLevel _ => .whole .logLevels
  | .lazyTools _ => .whole .lazySets

/-- What a handler does next. -/
inductive Op where
  | put (item : Item)
  | release (key : Key)
  /-- `maybe_request_http_roots`; the client answers with the roots, or with something else. -/
  | requestRoots (number : Nat) (answer : Option (List (List Char)))
  /-- The session must be in the store, to look at its stream or to send to it. -/
  | checkStream
  /-- The entry is taken back in any case: `PendingReverseRequest` is dropped, or the server does
  not confirm a subscription. -/
  | undo (key : Key)
  /-- The bridge with the capabilities that are stored for the client. -/
  | registerBridge
  /-- `plug__search_tools` loads the tools it has found. -/
  | searchTools (available : List (List Char))
  /-- `bind_session_to_caller`, of a reopened session. -/
  | bind
  /-- The bridge of a reopened session. -/
  | wire
  /-- The two sections of `remove`, after a session could not be bound. -/
  | dismiss
  | recordDismissed
deriving DecidableEq

/-- It is carried out although the handler ends early: on drop, by a task of its own, or because
no await comes before it. -/
def Op.lasting : Op → Bool
  | .undo _ | .bind | .wire | .dismiss | .recordDismissed => true
  | _ => false

structure Handler (Id : Type) where
  id : Id
  ops : List Op
deriving DecidableEq

inductive Request where
  | initialized (number : Nat) (answer : Option (List (List Char)))
  | rootsListChanged (number : Nat) (answer : Option (List (List Char)))
  | subscribe (uri : List Char) (confirmed : Bool) (clientKey : Option (List Char))
  | unsubscribe (uri : List Char)
  | setLevel (level : LoggingLevel)
  /-- The answer to a reverse request. -/
  | response (number : Nat)
  | searchTools (available : List (List Char))
deriving DecidableEq

/-- `send_http_client_request`. -/
def sendHttpClientRequest (number : Nat) : List Op :=
  [.checkStream, .put (.pendingRequest number), .checkStream,
    .undo (.pendingRequest number)]

/-- What comes after the session was validated. -/
def Request.ops : Request → List Op
  | .initialized number answer => [.requestRoots number answer, .registerBridge]
  | .rootsListChanged number answer => [.requestRoots number answer]
  | .subscribe uri confirmed clientKey =>
    .put (.subscription uri) ::
      if confirmed then (clientKey.map fun key => Op.put (.subscriberKey key)).toList
      else [.undo (.subscription uri)]
  | .unsubscribe uri => [.release (.subscription uri)]
  | .setLevel level => [.put (.logLevel level)]
  | .response number => [.release (.pendingRequest number)]
  | .searchTools available => [.searchTools available]

/-- What initialize does after it has created the session. -/
def initializeOps (capabilities : ClientCapabilities) : List Op :=
  (if capabilities.roots then [.put .rootsCapable] else []) ++ [.put (.capabilities capabilities)]

def reopenLostSession : List Op := [.bind, .wire]

/-- A `teardown_session` under way. Of the structure that it is at, the head of those left,
`due` are the keys that it still reaches and `visited` those that it is past. -/
structure Teardown (Id : Type) where
  id : Id
  /-- It is the one of the expiry listener, which takes one id after the other. -/
  listener : Bool
  parts : List Part
  due : List Key
  visited : List Key
deriving DecidableEq

/-- `own` and `reopened` only record: what was put for each session since it last came into the
store, and the ids under which a session was opened again. -/
structure State (Id : Type) where
  store : Store Id
  held : List (Id × Item)
  /-- Expired sessions whose report is not sent yet, and the channel to the listener. -/
  unsent : List Id
  queue : List Id
  teardowns : List (Teardown Id)
  /-- Sessions that a DELETE has removed and not yet recorded as closed. -/
  deleting : List Id
  /-- Sessions that an initialize has created. -/
  created : List Id
  handlers : List (Handler Id)
  own : List (Id × Item)
  reopened : List Id

variable {Id : Type}

def State.new : State Id := ⟨.new, [], [], [], [], [], [], [], [], []⟩

variable [DecidableEq Id]

def forget (held : List (Id × Item)) (id : Id) (key : Key) : List (Id × Item) :=
  held.filter fun entry => !(entry.1 = id && entry.2.key = key)

/-- An entry takes the place of the one with its key. -/
def insert (held : List (Id × Item)) (id : Id) (item : Item) : List (Id × Item) :=
  (id, item) :: forget held id item.key

def find (held : List (Id × Item)) (id : Id) (key : Key) : Option Item :=
  (held.find? fun entry => entry.1 = id && entry.2.key = key).map Prod.snd

/-- The keys that a walk over the structure reaches in any case. -/
def dueKeys (held : List (Id × Item)) (id : Id) : Part → List Key
  | .subscriptions =>
    (held.filter fun entry => entry.1 = id && entry.2.key.part = .subscriptions).map (·.2.key)
  | .pendingRequests =>
    (held.filter fun entry => entry.1 = id && entry.2.key.part = .pendingRequests).map (·.2.key)
  | part => [.whole part]

def Teardown.start (held : List (Id × Item)) (id : Id) (listener : Bool) : Teardown Id :=
  ⟨id, listener, teardownParts, dueKeys held id .subscriptions, []⟩

def bridgeWorkingSetMaxTools : Nat := 20

/-- The tools found come last, and the oldest ones go. -/
def loadTools (loaded available : List (List Char)) : List (List Char) :=
  let all := available.foldl (fun loaded name => loaded.erase name ++ [name]) loaded
  all.drop (all.length - bridgeWorkingSetMaxTools)

/-- What the operation puts for the session. -/
def Op.item? (held : List (Id × Item)) (id : Id) : Op → Option Item
  | .put item => some item
  | .registerBridge =>
    match find held id (.whole .clientCapabilities) with
    | some (.capabilities capabilities) => some (.bridge capabilities)
    | _ => some (.bridge .none)
  | .searchTools available =>
    match find held id (.whole .lazySets) with
    | some (.lazyTools loaded) => some (.lazyTools (loadTools loaded available))
    | _ => some (.lazyTools (loadTools [] available))
  | .wire => some (.bridge .none)
  | _ => none

inductive Act (Id : Type) where
  /-- Any step of the store apart from `remove`. -/
  | store (act : Sessions.Act Id)
  /-- The report of an expired session is sent. -/
  | send (id : Id)
  | receive
  /-- A teardown comes to a key of the structure that it is at, or leaves the structure. -/
  | clear (index : Nat) (key : Key)
  | pass (index : Nat)
  /-- The two sections of `remove` in a DELETE; its teardown follows. -/
  | delete (id : Id)
  | record (id : Id)
  /-- A request arrives whose session is validated. -/
  | accept (id : Id) (now : Nat) (request : Request)
  | initializeRequest (id : Id) (capabilities : ClientCapabilities)
  /-- A server asks the client of a session through its bridge. -/
  | reverse (id : Id) (number : Nat)
  | perform (index : Nat)
  /-- A handler returns an error or is dropped. -/
  | fail (index : Nat)

/-! ### Steps -/

namespace State

/-- The store goes on. What a session has put goes with it. -/
def withStore (state : State Id) (next : Store Id) : State Id :=
  { state with
    store := next
    own := state.own.filter fun entry => decide (entry.1 ∈ next.sessions) }

/-- An entry of the session is put. -/
def establish (state : State Id) (id : Id) (item : Item) : State Id :=
  { state with
    held := insert state.held id item
    own := if id ∈ state.store.sessions then insert state.own id item else state.own }

def release (state : State Id) (id : Id) (key : Key) : State Id :=
  { state with
    held := forget state.held id key
    own := forget state.own id key }

def spawn (state : State Id) (id : Id) (ops : List Op) : State Id :=
  { state with handlers := state.handlers ++ [⟨id, ops⟩] }

/-- The handler goes on with these operations. -/
def goOn (state : State Id) (index : Nat) (id : Id) (ops : List Op) : State Id :=
  { state with handlers := state.handlers.set index ⟨id, ops⟩ }

end State

/-- The id that `reopen_session` has put into the store and not yet answered for. -/
def markingId (store : Store Id) : Option Id :=
  match store.admission with
  | some (.reopen id, .marking) => some id
  | _ => none

/-- The ids that `create_session` has put into the store. -/
def createdIds (store next : Store Id) : List Id :=
  match store.admission with
  | some (.create, .inserting) => next.sessions.keys.filter fun id => decide (id ∉ store.sessions)
  | _ => []

/-- The store takes a step. What leaves it is to be reported; a session that `reopen_session` has
opened is bound and wired by its caller. -/
def State.follow (state : State Id) (next : Store Id) : State Id :=
  let marking := markingId state.store
  let opened := if markingId next = marking then none else markingId next
  let answered := if markingId next = marking then none else marking
  { state with
    store := next
    unsent := state.unsent ++
      state.store.sessions.keys.filter fun id => decide (id ∉ next.sessions)
    created := state.created ++ createdIds state.store next
    handlers := state.handlers ++ (answered.map fun id => Handler.mk id reopenLostSession).toList
    own := state.own.filter fun entry =>
      decide (entry.1 ∈ next.sessions) && decide (opened ≠ some entry.1)
    reopened := state.reopened ++ opened.toList }

/-- A handler carries out its next operation. -/
def perform (settings : Sessions.Settings Id) (state : State Id) (index : Nat) :
    Option (State Id) :=
  match state.handlers[index]? with
  | some ⟨id, op :: rest⟩ =>
    match op.item? state.held id with
    | some item => some ((state.goOn index id rest).establish id item)
    | none =>
      match op with
      | .release key => some ((state.goOn index id rest).release id key)
      | .undo key => some ((state.goOn index id rest).release id key)
      | .requestRoots number answer =>
        if (find state.held id (.whole .rootsCapable)).isSome then
          some ((state.goOn index id rest).spawn id
            (sendHttpClientRequest number ++ (answer.map fun roots => Op.put (.roots roots)).toList))
        else some (state.goOn index id rest)
      | .checkStream =>
        some (state.goOn index id
          (if id ∈ state.store.sessions then rest else rest.filter Op.lasting))
      | .bind =>
        some (state.goOn index id (if id ∈ state.store.sessions then rest else [.dismiss]))
      | .dismiss =>
        (Sessions.step settings state.store (.remove id)).map fun next =>
          (state.withStore next).goOn index id
            (if id ∈ state.store.sessions then .recordDismissed :: rest else rest)
      | .recordDismissed =>
        (Sessions.step settings state.store (.recordClosed id)).map fun next =>
          (state.withStore next).goOn index id rest
      | _ => none
  | _ => none

def step (settings : Sessions.Settings Id) (state : State Id) : Act Id → Option (State Id)
  | .store (.remove _) => none
  | .store (.recordClosed _) => none
  | .store act => (Sessions.step settings state.store act).map state.follow
  | .send id =>
    if id ∈ state.unsent then
      some { state with unsent := state.unsent.erase id, queue := state.queue ++ [id] }
    else none
  | .receive =>
    match state.queue with
    | id :: rest =>
      if state.teardowns.any Teardown.listener then none
      else some { state with
        queue := rest
        teardowns := state.teardowns ++ [.start state.held id true] }
    | [] => none
  | .clear index key =>
    match state.teardowns[index]? with
    | some teardown =>
      if teardown.parts.head? = some key.part ∧ key ∉ teardown.visited then
        some { state with
          held := forget state.held teardown.id key
          teardowns := state.teardowns.set index { teardown with
            due := teardown.due.filter fun other => decide (other ≠ key)
            visited := key :: teardown.visited } }
      else none
    | none => none
  | .pass index =>
    match state.teardowns[index]? with
    | some teardown =>
      if teardown.due = [] then
        match teardown.parts.tail with
        | [] => some { state with teardowns := state.teardowns.eraseIdx index }
        | part :: rest =>
          some { state with
            teardowns := state.teardowns.set index { teardown with
              parts := part :: rest
              due := dueKeys state.held teardown.id part
              visited := [] } }
      else none
    | none => none
  | .delete id =>
    if id ∈ state.store.sessions then
      (Sessions.step settings state.store (.remove id)).map fun next =>
        { state.withStore next with deleting := state.deleting ++ [id] }
    else none
  | .record id =>
    if id ∈ state.deleting then
      (Sessions.step settings state.store (.recordClosed id)).map fun next =>
        { state.withStore next with
          deleting := state.deleting.erase id
          teardowns := state.teardowns ++ [.start state.held id false] }
    else none
  | .accept id now request =>
    if (state.store.sessions.lookup id).any fun entry => !entry.expired settings.timeout now then
      (Sessions.step settings state.store (.touch id now)).map fun next =>
        (state.withStore next).spawn id request.ops
    else none
  | .initializeRequest id capabilities =>
    if id ∈ state.created then
      some ({ state with created := state.created.erase id }.spawn id (initializeOps capabilities))
    else none
  | .reverse id number =>
    match find state.held id (.whole .bridges) with
    | some (.bridge capabilities) =>
      if capabilities.elicitation || capabilities.sampling then
        some (state.spawn id (sendHttpClientRequest number))
      else none
    | _ => none
  | .perform index => perform settings state index
  | .fail index =>
    match state.handlers[index]? with
    | some ⟨id, ops⟩ => some (state.goOn index id (ops.filter Op.lasting))
    | none => none

/-- What a step puts, and for which session. -/
def State.establishes (state : State Id) : Act Id → Option (Id × Item)
  | .perform index =>
    match state.handlers[index]? with
    | some ⟨id, op :: _⟩ => (op.item? state.held id).map fun item => (id, item)
    | _ => none
  | _ => none

/-- All handlers and teardowns are through. -/
def State.finished (state : State Id) : Bool :=
  state.unsent.isEmpty && state.queue.isEmpty && state.teardowns.isEmpty &&
    state.deleting.isEmpty && state.created.isEmpty && state.store.admission.isNone &&
    state.handlers.all fun handler => handler.ops.isEmpty

/-- A whole teardown of the session is to come. -/
def State.Reported (state : State Id) (id : Id) : Prop :=
  id ∈ state.unsent ∨ id ∈ state.queue ∨ id ∈ state.deleting

/-! ### Entries -/

section Entries

variable {held : List (Id × Item)} {id other : Id} {key : Key} {item entry : Item}

theorem mem_forget : (other, entry) ∈ forget held id key ↔
    (other, entry) ∈ held ∧ ¬ (other = id ∧ entry.key = key) := by
  simp [forget, List.mem_filter, imp_iff_not_or]

theorem mem_insert : (other, entry) ∈ insert held id item ↔
    (other = id ∧ entry = item) ∨
      (other, entry) ∈ held ∧ ¬ (other = id ∧ entry.key = item.key) := by
  rw [insert, List.mem_cons, mem_forget, Prod.mk.injEq]

/-- A walk reaches the entries that are there when it begins. -/
theorem key_due (present : (id, entry) ∈ held) : entry.key ∈ dueKeys held id entry.key.part := by
  have found (part : Part) (same : entry.key.part = part) : entry.key ∈
      (held.filter fun other => other.1 = id && other.2.key.part = part).map (·.2.key) :=
    List.mem_map.mpr ⟨(id, entry), List.mem_filter.mpr ⟨present, by simp [same]⟩, rfl⟩
  cases entry with
  | subscription uri => exact found .subscriptions rfl
  | pendingRequest number => exact found .pendingRequests rfl
  | _ => exact List.mem_singleton_self _

end Entries

end Plug.HttpSessions
