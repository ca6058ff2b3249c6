import Plug.Queues
import Plug.HealthStates
import Plug.ListChanged

/-!
# The fan-out of notifications

Each downstream transport has a loop that reads the notifications from a broadcast channel and
sends them to its clients: one loop for a stdio client, one for all HTTP sessions, and one for an
IPC connection. A loop that lags behind is told how many notifications it has missed, and sends
its clients a log message about that.
-/

namespace Plug.FanOut

open BroadcastChannels (Received)
open ListChanged (Kind)

def notificationChannelSize : Nat := 128

inductive NotificationTarget where
  | stdio (clientId : List Char)
  | http (sessionId : List Char)
  | ipc (clientId : List Char)
deriving DecidableEq

/-- `Params` stands for what a notification carries. -/
inductive ProtocolNotification (Params : Type) where
  | toolListChanged
  | toolListChangedFor (target : NotificationTarget)
  | resourceListChanged
  | promptListChanged
  | progress (target : NotificationTarget) (params : Params)
  | cancelled (target : NotificationTarget) (params : Params)
  | resourceUpdated (target : NotificationTarget) (params : Params)
  | loggingMessage (params : Params)
  | tokenRefreshExchanged (serverId : List Char)
  | authStateChanged (serverId : List Char) (newState : Health.ServerHealth)
deriving DecidableEq

/-- What a client is sent. The last four are log messages to a client that is not on IPC. -/
inductive Message (Params : Type) where
  | listChanged (kind : Kind)
  | progress (params : Params)
  | cancelled (params : Params)
  | resourceUpdated (params : Params)
  | authStateChanged (serverId : List Char) (newState : Health.ServerHealth)
  | logging (params : Params)
  | tokenRefreshLog (serverId : List Char)
  | authStateLog (serverId : List Char) (newState : Health.ServerHealth)
  /-- `control_lagged_logging_params`. -/
  | controlLaggedLog (skipped : Nat) (transport : List Char)
deriving DecidableEq

variable {Params : Type}

/-- The list that the notification says has changed. -/
def ProtocolNotification.listKind : ProtocolNotification Params → Option Kind
  | .toolListChanged | .toolListChangedFor _ => some .tool
  | .resourceListChanged => some .resource
  | .promptListChanged => some .prompt
  | _ => none

/-- `to_server_jsonrpc_message`. -/
def ProtocolNotification.toServerMessage : ProtocolNotification Params → Message Params
  | .toolListChanged | .toolListChangedFor _ => .listChanged .tool
  | .resourceListChanged => .listChanged .resource
  | .promptListChanged => .listChanged .prompt
  | .progress _ params => .progress params
  | .cancelled _ params => .cancelled params
  | .resourceUpdated _ params => .resourceUpdated params
  | .loggingMessage params => .logging params
  | .tokenRefreshExchanged serverId => .tokenRefreshLog serverId
  | .authStateChanged serverId newState => .authStateLog serverId newState

theorem toServerMessage_listKind {notification : ProtocolNotification Params} {kind : Kind}
    (changed : notification.listKind = some kind) :
    notification.toServerMessage = .listChanged kind := by
  cases notification with
  | toolListChanged | toolListChangedFor | resourceListChanged | promptListChanged =>
    cases changed
    rfl
  | _ => cases changed

inductive ResolvedDelivery where
  | broadcast
  | toTarget (target : NotificationTarget)
deriving DecidableEq

/-- `resolve` of `classify`. -/
def resolve : ProtocolNotification Params → ResolvedDelivery
  | .toolListChangedFor target | .progress target _ | .cancelled target _
  | .resourceUpdated target _ => .toTarget target
  | _ => .broadcast

def ResolvedDelivery.deliverTo (identity : NotificationTarget) : ResolvedDelivery → Bool
  | .broadcast => true
  | .toTarget target => target = identity

/-- The rules of the owner, by the key of a client. -/
structure Rules where
  mayUseServer : Option (List Char) → List Char → Bool
  keptFromAServer : Option (List Char) → Bool

def Rules.clientMayBeTold (rules : Rules) (clientKey : Option (List Char)) :
    ProtocolNotification Params → Bool
  | .authStateChanged serverId _ | .tokenRefreshExchanged serverId =>
    rules.mayUseServer clientKey serverId
  | .loggingMessage _ => !rules.keptFromAServer clientKey
  | _ => true

/-- A loop: what it sends, and to whom, of a notification that it has read and after a lag, given
the clients and rules at the time. It tells of a changed list whoever may be told, and of a lag
whoever may be sent log messages. -/
structure Loop (Params Clients : Type) where
  deliver : Clients → ProtocolNotification Params → List (NotificationTarget × Message Params)
  deliverLag : Clients → Nat → List (NotificationTarget × Message Params)
  transport : List Char
  mayBeTold : Clients → NotificationTarget → ProtocolNotification Params → Prop
  mayBeSentLogs : Clients → NotificationTarget → Prop
  tells : ∀ clients notification kind client, notification.listKind = some kind →
    mayBeTold clients client notification →
      (client, .listChanged kind) ∈ deliver clients notification
  tellsLag : ∀ clients skipped client, mayBeSentLogs clients client →
    (client, .controlLaggedLog skipped transport) ∈ deliverLag clients skipped

/-! ### The three loops -/

/-- The client of `ProxyHandler`. -/
def stdioDeliver (clientId : List Char) (notification : ProtocolNotification Params) :
    List (NotificationTarget × Message Params) :=
  if (resolve notification).deliverTo (.stdio clientId) then
    [(.stdio clientId, notification.toServerMessage)]
  else []

/-- The notification is for all clients, or for this one. -/
def MeantFor (client : NotificationTarget) (notification : ProtocolNotification Params) : Prop :=
  ∀ target, resolve notification = .toTarget target → target = client

theorem deliverTo_of_meant {client : NotificationTarget}
    {notification : ProtocolNotification Params} (meant : MeantFor client notification) :
    (resolve notification).deliverTo client = true := by
  cases delivery : resolve notification with
  | broadcast => rfl
  | toTarget target => exact decide_eq_true (meant target delivery)

theorem stdio_tells (clientId : List Char) {notification : ProtocolNotification Params}
    {kind : Kind} {client : NotificationTarget} (changed : notification.listKind = some kind)
    (meant : client = .stdio clientId ∧ MeantFor client notification) :
    (client, .listChanged kind) ∈ stdioDeliver clientId notification := by
  obtain ⟨rfl, meant⟩ := meant
  rw [stdioDeliver, if_pos (deliverTo_of_meant meant), toServerMessage_listKind changed]
  exact List.mem_cons_self

/-- The task that `initialize` spawns for a stdio client. -/
def stdioLoop (clientId : List Char) : Loop Params Unit where
  deliver _ := stdioDeliver clientId
  deliverLag _ skipped := [(.stdio clientId, .controlLaggedLog skipped "stdio".toList)]
  transport := "stdio".toList
  mayBeTold _ client notification := client = .stdio clientId ∧ MeantFor client notification
  mayBeSentLogs _ client := client = .stdio clientId
  tells _ _ _ _ := stdio_tells clientId
  tellsLag _ _ _ same := same ▸ List.mem_cons_self

structure BroadcastAudience where
  tools : Bool
  resources : Bool
  prompts : Bool
  logging : Bool
deriving DecidableEq

/-- `live`: it has not expired, and its grant lives. -/
structure HttpSession where
  id : List Char
  live : Bool
  audience : BroadcastAudience
  grant : Option (List Char)
deriving DecidableEq

structure HttpClients where
  sessions : List HttpSession
  rules : Rules
  /-- The keys of the clients with a grant, and the one that the others share. -/
  grantClientKey : List Char → List Char
  sharedRemoteClientKey : List Char

/-- Whether the session is admitted to a broadcast notification of this class. -/
def BroadcastAudience.admits (audience : BroadcastAudience) :
    ProtocolNotification Params → Bool
  | .toolListChanged => audience.tools
  | .resourceListChanged => audience.resources
  | .promptListChanged => audience.prompts
  | .loggingMessage _ | .tokenRefreshExchanged _ | .authStateChanged _ _ => audience.logging
  | _ => false

def HttpClients.mayBeTold (clients : HttpClients) (grant : Option (List Char))
    (notification : ProtocolNotification Params) : Bool :=
  clients.rules.clientMayBeTold
    (some ((grant.map clients.grantClientKey).getD clients.sharedRemoteClientKey)) notification

def httpDeliver (clients : HttpClients) (notification : ProtocolNotification Params) :
    List (NotificationTarget × Message Params) :=
  match resolve notification with
  | .toTarget (.http sessionId) =>
    if clients.sessions.any fun session => session.id = sessionId && session.live then
      [(.http sessionId, notification.toServerMessage)]
    else []
  | .toTarget _ => []
  | .broadcast =>
    (clients.sessions.filter fun session =>
      session.live && session.audience.admits notification &&
        clients.mayBeTold session.grant notification).map fun session =>
      (.http session.id, notification.toServerMessage)

def httpDeliverLag (clients : HttpClients) (skipped : Nat) :
    List (NotificationTarget × Message Params) :=
  (clients.sessions.filter fun session => session.live && session.audience.logging).map
    fun session => (.http session.id, .controlLaggedLog skipped "http".toList)

/-- A live session is told of what is meant for it, or, of what is for all, what it is admitted to
and its grant's rules allow. -/
def HttpClients.MayTell (clients : HttpClients) (client : NotificationTarget)
    (notification : ProtocolNotification Params) : Prop :=
  ∃ session ∈ clients.sessions, client = .http session.id ∧ session.live = true ∧
    match resolve notification with
    | .toTarget target => target = client
    | .broadcast => session.audience.admits notification = true ∧
        clients.mayBeTold session.grant notification = true

def HttpClients.MaySendLogs (clients : HttpClients) (client : NotificationTarget) : Prop :=
  ∃ session ∈ clients.sessions,
    client = .http session.id ∧ session.live = true ∧ session.audience.logging = true

theorem http_tells {clients : HttpClients} {notification : ProtocolNotification Params}
    {kind : Kind} {client : NotificationTarget} (changed : notification.listKind = some kind)
    (told : clients.MayTell client notification) :
    (client, .listChanged kind) ∈ httpDeliver clients notification := by
  obtain ⟨session, member, rfl, live, meant⟩ := told
  unfold httpDeliver
  cases delivery : resolve notification with
  | broadcast =>
    rw [delivery] at meant
    obtain ⟨admitted, allowed⟩ := meant
    rw [← toServerMessage_listKind changed]
    exact List.mem_map_of_mem (List.mem_filter.mpr ⟨member, by simp [live, admitted, allowed]⟩)
  | toTarget target =>
    rw [delivery] at meant
    obtain rfl : target = .http session.id := meant
    have there : (clients.sessions.any fun other => other.id = session.id && other.live) = true :=
      List.any_eq_true.mpr ⟨session, member, by simp [live]⟩
    dsimp only
    rw [if_pos there, toServerMessage_listKind changed]
    exact List.mem_cons_self

theorem http_tells_lag {clients : HttpClients} {client : NotificationTarget}
    (told : clients.MaySendLogs client) (skipped : Nat) :
    ((client, .controlLaggedLog skipped "http".toList) : NotificationTarget × Message Params) ∈
      httpDeliverLag clients skipped := by
  obtain ⟨session, member, rfl, live, logging⟩ := told
  exact List.mem_map_of_mem (List.mem_filter.mpr ⟨member, by simp [live, logging]⟩)

/-- `spawn_notification_fanout`. -/
def httpLoop : Loop Params HttpClients where
  deliver := httpDeliver
  deliverLag := httpDeliverLag
  transport := "http".toList
  mayBeTold := HttpClients.MayTell
  mayBeSentLogs := HttpClients.MaySendLogs
  tells _ _ _ _ := http_tells
  tellsLag _ skipped _ told := http_tells_lag told skipped

structure IpcClient where
  rules : Rules
  /-- The key of the connection's client in the registry. -/
  clientKey : Option (List Char)

/-- `send_ipc_control_notification`; log messages have a channel of their own. -/
def ipcMessage : ProtocolNotification Params → Option (Message Params)
  | .loggingMessage _ => none
  | .authStateChanged serverId newState => some (.authStateChanged serverId newState)
  | notification => some notification.toServerMessage

def ipcDeliver (sessionId : List Char) (client : IpcClient)
    (notification : ProtocolNotification Params) : List (NotificationTarget × Message Params) :=
  if client.rules.clientMayBeTold client.clientKey notification &&
      (resolve notification).deliverTo (.ipc sessionId) then
    (ipcMessage notification).toList.map fun message => (.ipc sessionId, message)
  else []

theorem ipc_tells {sessionId : List Char} {own : IpcClient}
    {notification : ProtocolNotification Params} {kind : Kind} {client : NotificationTarget}
    (changed : notification.listKind = some kind)
    (told : client = .ipc sessionId ∧
      own.rules.clientMayBeTold own.clientKey notification = true ∧ MeantFor client notification) :
    (client, .listChanged kind) ∈ ipcDeliver sessionId own notification := by
  obtain ⟨rfl, allowed, meant⟩ := told
  have message : ipcMessage notification = some (.listChanged kind) := by
    rw [← toServerMessage_listKind changed]
    cases notification with
    | loggingMessage | authStateChanged => cases changed
    | _ => rfl
  rw [ipcDeliver, allowed, deliverTo_of_meant meant, Bool.and_self, if_pos rfl, message]
  exact List.mem_cons_self

/-- The loop of an IPC connection with a registered session. -/
def ipcLoop (sessionId : List Char) : Loop Params IpcClient where
  deliver := ipcDeliver sessionId
  deliverLag _ skipped := [(.ipc sessionId, .controlLaggedLog skipped "ipc".toList)]
  transport := "ipc".toList
  mayBeTold own client notification :=
    client = .ipc sessionId ∧ own.rules.clientMayBeTold own.clientKey notification = true ∧
      MeantFor client notification
  mayBeSentLogs _ client := client = .ipc sessionId
  tells _ _ _ _ := ipc_tells
  tellsLag _ _ _ same := same ▸ List.mem_cons_self

end Plug.FanOut
