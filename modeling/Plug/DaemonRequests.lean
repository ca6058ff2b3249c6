import Plug.DaemonMux

/-!
# What the daemon reads from a proxy

A frame is a request, or the reply to a request that the daemon sent the other way. Both may carry
an id beside their fields, and both are told apart by their type.
-/

namespace Plug.Daemon

open Proxy (removeWaiter waiterOf insertWaiter)

inductive RequestKind where
  | status
  | operatorHandshake
  | activitySnapshot
  | operatorSnapshot
  | getServerConfig
  | revokeDownstreamClient
  | validateServer
  | describeApi
  | addServer
  | updateServer
  | removeServer
  | addAccount
  | setServerEnabled
  | setToolEnabled
  | renameClient
  | moveClientSettings
  | setClientPlace
  | setClientBlock
  | addWatch
  | removeWatch
  | restartServer
  | reload
  | shutdown
  | register
  | deregister
  | updateSession
  | ping
  | listTools
  | listLiveSessions
  | capabilities
  | modernDownstreamGate
  | mcpRequest
  | mcpRequestWithContext
  | cancelMcpRequest
  | updateRoots
  | updateCapabilities
  | restoreResourceSubscriptions
  | authStatus
deriving DecidableEq

def RequestKind.name : RequestKind → String
  | .status => "Status"
  | .operatorHandshake => "OperatorHandshake"
  | .activitySnapshot => "ActivitySnapshot"
  | .operatorSnapshot => "OperatorSnapshot"
  | .getServerConfig => "GetServerConfig"
  | .revokeDownstreamClient => "RevokeDownstreamClient"
  | .validateServer => "ValidateServer"
  | .describeApi => "DescribeApi"
  | .addServer => "AddServer"
  | .updateServer => "UpdateServer"
  | .removeServer => "RemoveServer"
  | .addAccount => "AddAccount"
  | .setServerEnabled => "SetServerEnabled"
  | .setToolEnabled => "SetToolEnabled"
  | .renameClient => "RenameClient"
  | .moveClientSettings => "MoveClientSettings"
  | .setClientPlace => "SetClientPlace"
  | .setClientBlock => "SetClientBlock"
  | .addWatch => "AddWatch"
  | .removeWatch => "RemoveWatch"
  | .restartServer => "RestartServer"
  | .reload => "Reload"
  | .shutdown => "Shutdown"
  | .register => "Register"
  | .deregister => "Deregister"
  | .updateSession => "UpdateSession"
  | .ping => "Ping"
  | .listTools => "ListTools"
  | .listLiveSessions => "ListLiveSessions"
  | .capabilities => "Capabilities"
  | .modernDownstreamGate => "ModernDownstreamGate"
  | .mcpRequest => "McpRequest"
  | .mcpRequestWithContext => "McpRequestWithContext"
  | .cancelMcpRequest => "CancelMcpRequest"
  | .updateRoots => "UpdateRoots"
  | .updateCapabilities => "UpdateCapabilities"
  | .restoreResourceSubscriptions => "RestoreResourceSubscriptions"
  | .authStatus => "AuthStatus"

def requestKinds : List RequestKind :=
  [.status, .operatorHandshake, .activitySnapshot, .operatorSnapshot, .getServerConfig,
    .revokeDownstreamClient, .validateServer, .describeApi, .addServer, .updateServer,
    .removeServer, .addAccount, .setServerEnabled, .setToolEnabled, .renameClient,
    .moveClientSettings, .setClientPlace, .setClientBlock, .addWatch, .removeWatch, .restartServer,
    .reload, .shutdown, .register, .deregister, .updateSession, .ping, .listTools,
    .listLiveSessions, .capabilities, .modernDownstreamGate, .mcpRequest, .mcpRequestWithContext,
    .cancelMcpRequest, .updateRoots, .updateCapabilities, .restoreResourceSubscriptions,
    .authStatus]

/-- Besides its token, what a request says matters to its dispatch alone. -/
structure IpcRequest where
  kind : RequestKind
  authToken : String
deriving DecidableEq

def carriesAuthToken : RequestKind → Bool
  | .restartServer | .reload | .shutdown | .activitySnapshot | .operatorSnapshot
  | .getServerConfig | .revokeDownstreamClient | .validateServer | .describeApi | .addServer
  | .updateServer | .removeServer | .addAccount | .setServerEnabled | .setToolEnabled
  | .renameClient | .moveClientSettings | .setClientPlace | .setClientBlock | .addWatch
  | .removeWatch => true
  | _ => false

def requiresAuth (request : IpcRequest) : Bool :=
  carriesAuthToken request.kind

def extractAuthToken (request : IpcRequest) : Option String :=
  if carriesAuthToken request.kind then some request.authToken else none

def mustRunInline (request : IpcRequest) : Bool :=
  match request.kind with
  | .register | .deregister | .shutdown | .ping | .modernDownstreamGate => true
  | _ => false

inductive ReplyKind where
  | createElicitation
  | createMessage
  | error
deriving DecidableEq

def ReplyKind.name : ReplyKind → String
  | .createElicitation => "CreateElicitation"
  | .createMessage => "CreateMessage"
  | .error => "Error"

def replyKinds : List ReplyKind :=
  [.createElicitation, .createMessage, .error]

variable {Content Result Body : Type}

inductive IpcClientResponse (Result : Type) where
  | createElicitation (result : Result)
  | createMessage (result : Result)
  | error (message : String)
deriving DecidableEq

inductive IpcResponse (Body : Type) where
  | ok
  | registered (body : Body)
  | error (code message : String)
  | other (body : Body)
deriving DecidableEq

/-- The ids at the top of a frame. -/
structure FrameIds where
  ipcId : Option Nat
  reverseId : Option Nat
deriving DecidableEq

/-- `type` is the name of the variant, and `content` the fields. -/
structure Frame (Content : Type) where
  ids : FrameIds
  type : String
  content : Content
deriving DecidableEq

/-- How the fields of a variant are read, and what the library says when they cannot be. Of a
request it is the token that is read, or an empty text where there is none. -/
structure Serde (Content Result : Type) where
  request : RequestKind → Content → Option String
  result : ReplyKind → Content → Except String Result
  message : Content → Except String String
  unknownVariant : String → String
  /-- No protocol version, or no client. -/
  lacksRegistration : Content → Bool

variable (serde : Serde Content Result)

def parseRequest (frame : Frame Content) : Option IpcRequest :=
  (requestKinds.find? fun kind => kind.name = frame.type).bind fun kind =>
    (serde.request kind frame.content).map fun token => ⟨kind, token⟩

def parseReply (frame : Frame Content) : Except String (IpcClientResponse Result) :=
  match replyKinds.find? fun kind => kind.name = frame.type with
  | some .createElicitation =>
    (serde.result .createElicitation frame.content).map .createElicitation
  | some .createMessage => (serde.result .createMessage frame.content).map .createMessage
  | some .error => (serde.message frame.content).map .error
  | none => .error (serde.unknownVariant frame.type)

/-- What a frame says that is handed over as a reply. -/
def replyOf (frame : Frame Content) : IpcClientResponse Result :=
  match parseReply serde frame with
  | .ok response => response
  | .error reason => .error ("invalid reverse-request response: " ++ reason)

def protocolParseErrorResponse (frame : Frame Content) : Option (IpcResponse Body) :=
  if frame.type = RequestKind.register.name ∧ serde.lacksRegistration frame.content = true then
    some (.error "PROTOCOL_VERSION_UNSUPPORTED"
      "daemon requires IPC protocol v4 registration fields")
  else none

/-- The reverse requests that wait for a reply, oldest first, each with the call that waits. -/
abbrev PendingReverse : Type := List (Nat × Nat)

def reverseReplyTarget (pending : PendingReverse) (frame : Frame Content) : Option Nat :=
  if frame.ids.reverseId.isSome then frame.ids.reverseId
  else if frame.ids.ipcId.isSome then none
  else
    pending.head?.bind fun oldest =>
      if (parseReply serde frame).isOk then some oldest.1 else none

/-- A frame that a proxy means as a reply: it says so, or it reads as one. -/
def isReply (frame : Frame Content) : Bool :=
  frame.ids.reverseId.isSome || (parseReply serde frame).isOk

variable {serde}

/-- Only a frame that is meant as a reply is taken for one. -/
theorem reverseReplyTarget_request {frame : Frame Content} (request : isReply serde frame = false)
    (pending : PendingReverse) : reverseReplyTarget serde pending frame = none := by
  obtain ⟨untagged, unread⟩ := Bool.or_eq_false_iff.mp request
  rw [reverseReplyTarget, if_neg (by rw [untagged]; exact Bool.false_ne_true)]
  by_cases tagged : frame.ids.ipcId.isSome = true
  · rw [if_pos tagged]
  · rw [if_neg tagged]
    cases pending with
    | nil => rfl
    | cons oldest rest =>
      rw [List.head?_cons, Option.bind_some, unread, if_neg Bool.false_ne_true]

end Plug.Daemon
