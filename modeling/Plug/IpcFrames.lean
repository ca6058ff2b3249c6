import Plug.ByteStreams

/-!
# Frames between the daemon and the proxies

A frame is its length in four bytes and then a JSON document. A response is written plainly, with
the id of the request it answers beside its fields, or, when it is longer than a frame may be, in
chunks in envelopes. The proxy tells an envelope by the bytes it starts with, and puts the chunks
of a response together again.

What JSON and base64 a value is written as is left to a `Codec`.
-/

namespace Plug.Ipc

open ByteStreams

def maxFrameSize : Nat := 4194304

def responseChunkBytes : Nat := 524288

/-- The bytes of a text. -/
def bytes (text : String) : List UInt8 :=
  text.toUTF8.data.toList

/-- Every envelope starts with its tag. -/
def envelopeFramePrefix : List UInt8 := bytes "\x7b\"envelope\":"

variable (Response Request : Type)

/-- A fragment of a response. The payload is the text of its bytes in base64. -/
structure ResponseChunk where
  chunkIndex : UInt32
  chunkCount : UInt32
  payloadB64 : List UInt8
deriving DecidableEq

inductive DaemonToProxyMessage where
  | response (inner : Response)
  | responseChunk (chunk : ResponseChunk)
  | reverseRequest (id : UInt64) (request : Request)
deriving DecidableEq

/-- The ids at the top of a frame. -/
structure FrameIds where
  ipcId : Option UInt64
  reverseId : Option UInt64
deriving DecidableEq

/-- The JSON and base64 libraries, at the types that are sent. -/
structure Codec where
  toVec : Response → List UInt8
  encodeTagged : UInt64 → Response → List UInt8
  messageToVec : DaemonToProxyMessage Response Request → List UInt8
  fromSlice : List UInt8 → Except String Response
  messageFromSlice : List UInt8 → Except String (DaemonToProxyMessage Response Request)
  peek : List UInt8 → FrameIds
  base64Encode : List UInt8 → List UInt8
  base64Decode : List UInt8 → Except String (List UInt8)

structure TransportFailure where
  message : String
  reconnectable : Bool
  neverSent : Bool
deriving DecidableEq

variable {Response Request} (codec : Codec Response Request)

/-! ### Writing -/

def writeFrame (payload : List UInt8) : Except String (List UInt8) :=
  if maxFrameSize < payload.length then
    .error s!"payload too large: {payload.length} bytes (max {maxFrameSize})"
  else .ok (bigEndian payload.length ++ payload)

def sendResponse (response : Response) : Except String (List UInt8) :=
  writeFrame (codec.toVec response)

def sendDaemonMessage (message : DaemonToProxyMessage Response Request) :
    Except String (List UInt8) :=
  writeFrame (codec.messageToVec message)

/-- The payload of a reply: the id travels inside. -/
def replyPayload (ipcId : Option UInt64) (response : Response) : List UInt8 :=
  match ipcId with
  | none => codec.toVec response
  | some id => codec.encodeTagged id response

def chunkMessage (payload : List UInt8) (index : Nat) : DaemonToProxyMessage Response Request :=
  .responseChunk
    { chunkIndex := UInt32.ofNat index
      chunkCount := UInt32.ofNat (chunkCount responseChunkBytes payload)
      payloadB64 := codec.base64Encode (chunkAt responseChunkBytes payload index) }

/-- What is written one after the other, up to the first that fails. -/
def writeAll {Item : Type} (write : Item → Except String (List UInt8)) :
    List Item → Except String (List UInt8)
  | [] => .ok []
  | item :: rest => do
    let first ← write item
    let later ← writeAll write rest
    pure (first ++ later)

def sendChunkedResponseWithId (ipcId : Option UInt64) (response : Response) :
    Except String (List UInt8) :=
  let payload := replyPayload codec ipcId response
  if payload.length ≤ maxFrameSize then writeFrame payload
  else
    writeAll (fun index => sendDaemonMessage codec (chunkMessage codec payload index))
      (List.range (chunkCount responseChunkBytes payload))

/-! ### Reading -/

inductive FrameError where
  | tooLarge (length : Nat)
  | unexpectedEof
deriving DecidableEq

def FrameError.text : FrameError → String
  | .tooLarge length => s!"frame too large: {length} bytes (max {maxFrameSize})"
  | .unexpectedEof => "early eof"

/-- A connection that broke can be opened again. -/
def transportFailure (context : String) (error : FrameError) : TransportFailure :=
  ⟨context ++ ": " ++ error.text, error = .unexpectedEof, false⟩

/-- The next frame of a stream; nothing when the stream ends before its payload. -/
def readFrame (pieces : List (List UInt8)) :
    Except FrameError (Option (List UInt8 × List (List UInt8))) :=
  match readExact 4 pieces with
  | none => .ok none
  | some (header, rest) =>
    let length := fromBigEndian header
    if maxFrameSize < length then .error (.tooLarge length)
    else
      match readExact length rest with
      | none => .error .unexpectedEof
      | some read => .ok (some read)

/-- The chunks of the response in progress. -/
structure ChunkAssembler where
  buffer : List UInt8 := []
  expected : Option UInt32 := none
deriving DecidableEq

inductive DaemonFrame (Response Request : Type) where
  | reply (ipcId : Option UInt64) (response : Response)
  | reverse (id : UInt64) (request : Request)
deriving DecidableEq

def TransportFailure.invalid (message : String) : TransportFailure := ⟨message, false, false⟩

def decodeReply (frame : List UInt8) (context : String) :
    Except TransportFailure (DaemonFrame Response Request) :=
  match codec.fromSlice frame with
  | .error e => .error (.invalid (context ++ ": " ++ e))
  | .ok response => .ok (.reply (codec.peek frame).ipcId response)

/-- The chunks with one more, unless it does not belong to them. -/
def appendChunk (chunk : ResponseChunk) (chunks : ChunkAssembler) :
    Except TransportFailure ChunkAssembler :=
  if chunk.chunkCount = 0 then .error (.invalid "invalid response chunk count 0")
  else if chunk.chunkIndex ≠ 0 ∧ chunks.expected ≠ some chunk.chunkCount then
    .error (.invalid "response chunk count changed mid-stream")
  else
    match codec.base64Decode chunk.payloadB64 with
    | .error e => .error (.invalid ("invalid chunk payload: " ++ e))
    | .ok decoded =>
      if chunk.chunkIndex = 0 then .ok ⟨decoded, some chunk.chunkCount⟩
      else .ok ⟨chunks.buffer ++ decoded, chunks.expected⟩

/-- A chunk that fails leaves nothing behind. The addition wraps, as it does in a release build. -/
def decodeChunk (chunk : ResponseChunk) (chunks : ChunkAssembler) :
    ChunkAssembler × Except TransportFailure (Option (DaemonFrame Response Request)) :=
  match appendChunk codec chunk chunks with
  | .error failure => ({}, .error failure)
  | .ok extended =>
    if chunk.chunkIndex + 1 ≠ chunk.chunkCount then (extended, .ok none)
    else ({}, (decodeReply codec extended.buffer "invalid chunked IPC response").map some)

section
variable {codec}

theorem refused_chunk {chunk : ResponseChunk} {chunks : ChunkAssembler} {failure : TransportFailure}
    (refused : appendChunk codec chunk chunks = .error failure) :
    decodeChunk codec chunk chunks = ({}, .error failure) := by
  simp [decodeChunk, refused]

theorem consumed_chunk {chunk : ResponseChunk} {chunks extended : ChunkAssembler}
    (appended : appendChunk codec chunk chunks = .ok extended)
    (more : chunk.chunkIndex + 1 ≠ chunk.chunkCount) :
    decodeChunk codec chunk chunks = (extended, .ok none) := by
  simp [decodeChunk, appended, more]

theorem completed_chunk {chunk : ResponseChunk} {chunks extended : ChunkAssembler}
    (appended : appendChunk codec chunk chunks = .ok extended)
    (last : chunk.chunkIndex + 1 = chunk.chunkCount) :
    decodeChunk codec chunk chunks =
      ({}, (decodeReply codec extended.buffer "invalid chunked IPC response").map some) := by
  simp [decodeChunk, appended, last]

end

/-- The addition is reached with the last index there is. -/
def indexOverflows (chunk : ResponseChunk) (chunks : ChunkAssembler) : Bool :=
  (appendChunk codec chunk chunks).toBool && decide (4294967296 ≤ chunk.chunkIndex.toNat + 1)

/-- Nothing means that a chunk was consumed and the response is not complete yet. -/
def decodeDaemonFrame (frame : List UInt8) (chunks : ChunkAssembler) :
    ChunkAssembler × Except TransportFailure (Option (DaemonFrame Response Request)) :=
  if !envelopeFramePrefix.isPrefixOf frame then
    (chunks, (decodeReply codec frame "invalid IPC response").map some)
  else
    match codec.messageFromSlice frame with
    | .error e => (chunks, .error (.invalid ("invalid envelope message: " ++ e)))
    | .ok (.response inner) => (chunks, .ok (some (.reply none inner)))
    | .ok (.responseChunk chunk) => decodeChunk codec chunk chunks
    | .ok (.reverseRequest id request) => (chunks, .ok (some (.reverse id request)))

/-- The assembler after frames, and what each frame was decoded to. -/
def decodeFrames (chunks : ChunkAssembler) : List (List UInt8) →
    ChunkAssembler × List (Except TransportFailure (Option (DaemonFrame Response Request)))
  | [] => (chunks, [])
  | frame :: rest =>
    let (next, decoded) := decodeDaemonFrame codec frame chunks
    let (final, later) := decodeFrames next rest
    (final, decoded :: later)

/-- What the frames have been decoded to, and why the reader stopped; nothing when it has not
stopped yet. Frames that only carry on a response are left out. -/
def readLoop : Nat → List (List UInt8) → ChunkAssembler →
    Option (List (Except TransportFailure (DaemonFrame Response Request)) × TransportFailure)
  | 0, _, _ => none
  | fuel + 1, pieces, chunks =>
    match readFrame pieces with
    | .ok none => some ([], ⟨"daemon closed connection", true, false⟩)
    | .error error => some ([], transportFailure "IPC read failed" error)
    | .ok (some (frame, rest)) =>
      let (next, decoded) := decodeDaemonFrame codec frame chunks
      (readLoop fuel rest next).map fun (frames, failure) =>
        match decoded with
        | .ok none => (frames, failure)
        | .ok (some decoded) => (.ok decoded :: frames, failure)
        | .error failed => (.error failed :: frames, failure)

end Plug.Ipc
