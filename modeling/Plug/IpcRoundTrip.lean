import Plug.IpcCodec

/-!
# What the daemon writes, the proxy reads

A message is written as one frame or as several, and the stream of frames is read back however it
is cut. A single frame is decoded at once; the chunks of a long response are collected, and the
last one completes it with nothing left behind. So the messages are read in the order they were
written in, each with its id.
-/

namespace Plug.Ipc

open ByteStreams

variable {Response Request : Type} (codec : Codec Response Request)

/-- A message of the daemon: a reply, a push notification, or a request of its own. -/
inductive Outgoing (Response Request : Type) where
  | reply (ipcId : Option UInt64) (response : Response)
  | push (response : Response)
  | reverse (id : UInt64) (request : Request)
deriving DecidableEq

def send : Outgoing Response Request → Except String (List UInt8)
  | .reply ipcId response => sendChunkedResponseWithId codec ipcId response
  | .push response => sendResponse codec response
  | .reverse id request => sendDaemonMessage codec (.reverseRequest id request)

/-- What the proxy makes of a message. -/
def Outgoing.frame : Outgoing Response Request → DaemonFrame Response Request
  | .reply ipcId response => .reply ipcId response
  | .push response => .reply none response
  | .reverse id request => .reverse id request

/-- A response is in fewer than 2^32 chunks, and anything else in one frame. -/
def Fits : Outgoing Response Request → Prop
  | .reply ipcId response =>
    chunkCount responseChunkBytes (replyPayload codec ipcId response) < 4294967296
  | .push response => (codec.toVec response).length ≤ maxFrameSize
  | .reverse id request =>
    (codec.messageToVec (.reverseRequest id request)).length ≤ maxFrameSize

/-- The messages are written, and read as they were written wherever the stream is cut. -/
def RoundTrips (messages : List (Outgoing Response Request)) : Prop :=
  ∃ written, writeAll (send codec) messages = .ok written ∧
    ∀ pieces : List (List UInt8), pieces.flatten = written →
      readLoop codec (written.length + 1) pieces {} =
        some (messages.map fun message => .ok message.frame,
          ⟨"daemon closed connection", true, false⟩)

variable {codec}

/-! ### Frames on the stream -/

/-- A frame as it is written. -/
def framed (payload : List UInt8) : List UInt8 := bigEndian payload.length ++ payload

theorem writeFrame_framed {payload : List UInt8} (short : payload.length ≤ maxFrameSize) :
    writeFrame payload = .ok (framed payload) := by
  simp [writeFrame, framed, Nat.not_lt_of_ge short]

theorem readFrame_framed {payload rest : List UInt8} {pieces : List (List UInt8)}
    (short : payload.length ≤ maxFrameSize) (whole : pieces.flatten = framed payload ++ rest) :
    ∃ left, readFrame pieces = .ok (some (payload, left)) ∧ left.flatten = rest := by
  rw [framed, List.append_assoc] at whole
  obtain ⟨middle, header, same⟩ := readExact_some whole (bigEndian_length _)
  obtain ⟨left, body, ending⟩ := readExact_some same rfl
  have small : payload.length < 4294967296 := by
    unfold maxFrameSize at short
    omega
  refine ⟨left, ?_, ending⟩
  simp only [readFrame, header, fromBigEndian_bigEndian small, body]
  rw [if_neg (Nat.not_lt_of_ge short)]

theorem readFrame_end {pieces : List (List UInt8)} (ended : pieces.flatten = []) :
    readFrame pieces = .ok none := by
  rw [readFrame, readExact_empty (by decide) ended]

/-- The frames that are more than a chunk on the way. -/
def delivered : List (Except TransportFailure (Option (DaemonFrame Response Request))) →
    List (Except TransportFailure (DaemonFrame Response Request))
  | [] => []
  | .ok none :: rest => delivered rest
  | .ok (some frame) :: rest => .ok frame :: delivered rest
  | .error failure :: rest => .error failure :: delivered rest

theorem delivered_append
    (first rest : List (Except TransportFailure (Option (DaemonFrame Response Request)))) :
    delivered (first ++ rest) = delivered first ++ delivered rest := by
  induction first using delivered.induct with
  | case1 => rfl
  | case2 first ih => simpa [delivered] using ih
  | case3 frame first ih => simpa [delivered] using ih
  | case4 failure first ih => simpa [delivered] using ih

theorem delivered_consumed (count : Nat) :
    delivered (List.replicate count (.ok none) :
      List (Except TransportFailure (Option (DaemonFrame Response Request)))) = [] := by
  induction count with
  | zero => rfl
  | succ count ih => simpa [List.replicate_succ, delivered]

/-- A stream of frames is decoded frame by frame, wherever it is cut. -/
theorem readLoop_framed (frames : List (List UInt8)) (chunks : ChunkAssembler)
    (short : ∀ frame ∈ frames, frame.length ≤ maxFrameSize) {fuel : Nat}
    (enough : frames.length < fuel) {pieces : List (List UInt8)}
    (whole : pieces.flatten = frames.flatMap framed) :
    readLoop codec fuel pieces chunks =
      some (delivered (decodeFrames codec chunks frames).2,
        ⟨"daemon closed connection", true, false⟩) := by
  induction frames generalizing chunks fuel pieces with
  | nil =>
    cases fuel with
    | zero => cases enough
    | succ fuel => simp [readLoop, readFrame_end whole, decodeFrames, delivered]
  | cons frame frames ih =>
    cases fuel with
    | zero => cases enough
    | succ fuel =>
      rw [List.forall_mem_cons] at short
      rw [List.flatMap_cons] at whole
      obtain ⟨left, read, rest⟩ := readFrame_framed short.1 whole
      have later := ih (decodeDaemonFrame codec frame chunks).1 short.2
        (Nat.lt_of_succ_lt_succ enough) rest
      simp only [readLoop, read, later, Option.map_some, decodeFrames]
      cases decoded : (decodeDaemonFrame codec frame chunks).2 with
      | error failure => simp [delivered]
      | ok result =>
        cases result with
        | none => simp [delivered]
        | some frame => simp [delivered]

theorem decodeFrames_append (chunks : ChunkAssembler) (first rest : List (List UInt8)) :
    decodeFrames codec chunks (first ++ rest) =
      ((decodeFrames codec (decodeFrames codec chunks first).1 rest).1,
        (decodeFrames codec chunks first).2 ++
          (decodeFrames codec (decodeFrames codec chunks first).1 rest).2) := by
  induction first generalizing chunks with
  | nil => rfl
  | cons frame first ih =>
    simp [decodeFrames, ih]

/-! ### One frame -/

/-- A text with another start is not an envelope. -/
theorem plain {start text : List UInt8} (starts : start <+: text)
    (differs : (envelopeFramePrefix.zip start).any fun pair => decide (pair.1 ≠ pair.2)) :
    envelopeFramePrefix.isPrefixOf text = false := by
  obtain ⟨rest, rfl⟩ := starts
  have none := strip_other differs rest
  unfold strip at none
  split at none
  · cases none
  · rename_i other
    exact Bool.eq_false_iff.mpr other

theorem decode_plain {text : List UInt8}
    (other : envelopeFramePrefix.isPrefixOf text = false) (chunks : ChunkAssembler) :
    decodeDaemonFrame codec text chunks =
      (chunks, (decodeReply codec text "invalid IPC response").map some) := by
  simp [decodeDaemonFrame, other]

section Faithful

variable (faithful : codec.Faithful)
include faithful

theorem reply_read (ipcId : Option UInt64) (response : Response) (context : String) :
    decodeReply codec (replyPayload codec ipcId response) context = .ok (.reply ipcId response) := by
  cases ipcId with
  | none => simp [decodeReply, replyPayload, faithful.fromSlice_toVec, faithful.peek_toVec]
  | some id =>
    simp [decodeReply, replyPayload, faithful.fromSlice_encodeTagged, faithful.peek_encodeTagged]

theorem reply_plain (ipcId : Option UInt64) (response : Response) :
    envelopeFramePrefix.isPrefixOf (replyPayload codec ipcId response) = false := by
  cases ipcId with
  | none => exact plain (faithful.toVec_type response) (by decide +kernel)
  | some id => exact plain (faithful.encodeTagged_id id response) (by decide +kernel)

theorem reply_decoded (ipcId : Option UInt64) (response : Response) (chunks : ChunkAssembler) :
    decodeDaemonFrame codec (replyPayload codec ipcId response) chunks =
      (chunks, .ok (some (.reply ipcId response))) := by
  rw [decode_plain (reply_plain faithful ipcId response), reply_read faithful]
  rfl

theorem envelope_decoded (message : DaemonToProxyMessage Response Request)
    (chunks : ChunkAssembler) :
    decodeDaemonFrame codec (codec.messageToVec message) chunks =
      match message with
      | .response inner => (chunks, .ok (some (.reply none inner)))
      | .responseChunk chunk => decodeChunk codec chunk chunks
      | .reverseRequest id request => (chunks, .ok (some (.reverse id request))) := by
  have envelope : envelopeFramePrefix.isPrefixOf (codec.messageToVec message) = true :=
    List.isPrefixOf_iff_prefix.mpr (faithful.messageToVec_envelope message)
  cases message with
  | response inner =>
    simp [decodeDaemonFrame, envelope, faithful.messageFromSlice_messageToVec]
  | responseChunk chunk =>
    simp [decodeDaemonFrame, envelope, faithful.messageFromSlice_messageToVec]
  | reverseRequest id request =>
    simp [decodeDaemonFrame, envelope, faithful.messageFromSlice_messageToVec]

end Faithful

/-! ### The chunks of a response -/

/-- Small numbers are told apart as 32-bit ones. -/
theorem ofNat_inj {first second : Nat} (small : first < 4294967296) (other : second < 4294967296) :
    UInt32.ofNat first = UInt32.ofNat second ↔ first = second := by
  constructor
  · intro same
    have numbers := congrArg UInt32.toNat same
    rw [UInt32.toNat_ofNat', UInt32.toNat_ofNat', Nat.mod_eq_of_lt small,
      Nat.mod_eq_of_lt other] at numbers
    exact numbers
  · rintro rfl
    rfl

theorem decimal_length {number : Nat} (small : number < 4294967296) :
    (decimal number).length ≤ 10 := by
  rw [decimal, List.length_map]
  apply (Nat.length_toDigits_le_iff (by decide) (by decide)).mpr
  omega


/-- The assembler after some of the chunks. -/
def collected (payload : List UInt8) (index : Nat) : ChunkAssembler :=
  ⟨payload.take (index * responseChunkBytes),
    if index = 0 then none else some (UInt32.ofNat (chunkCount responseChunkBytes payload))⟩

/-- A payload that is in chunks. -/
structure Chunked (payload : List UInt8) : Prop where
  positive : 0 < chunkCount responseChunkBytes payload
  few : chunkCount responseChunkBytes payload < 4294967296

section Faithful

variable (faithful : codec.Faithful) {payload : List UInt8} (chunked : Chunked payload)
include faithful chunked

theorem append_collected {index : Nat} (within : index < chunkCount responseChunkBytes payload) :
    appendChunk codec
      { chunkIndex := UInt32.ofNat index
        chunkCount := UInt32.ofNat (chunkCount responseChunkBytes payload)
        payloadB64 := codec.base64Encode (chunkAt responseChunkBytes payload index) }
      (collected payload index) = .ok (collected payload (index + 1)) := by
  have few := chunked.few
  have count : UInt32.ofNat (chunkCount responseChunkBytes payload) ≠ 0 := by
    rw [show (0 : UInt32) = UInt32.ofNat 0 from rfl, ne_eq, ofNat_inj few (by decide)]
    omega
  have first : UInt32.ofNat index = 0 ↔ index = 0 :=
    ofNat_inj (by omega) (by decide)
  have joined := @take_chunk _ responseChunkBytes payload index
  by_cases zero : index = 0
  · subst zero
    rw [Nat.zero_mul, List.take_zero, List.nil_append] at joined
    simp [appendChunk, collected, count, faithful.base64Decode_base64Encode, joined]
  · simp [appendChunk, collected, count, first, zero, faithful.base64Decode_base64Encode, joined]

theorem chunk_consumed {index : Nat}
    (within : index + 1 < chunkCount responseChunkBytes payload) :
    decodeDaemonFrame codec (codec.messageToVec (chunkMessage codec payload index))
      (collected payload index) = (collected payload (index + 1), .ok none) := by
  have few := chunked.few
  have more : UInt32.ofNat index + 1 ≠ UInt32.ofNat (chunkCount responseChunkBytes payload) := by
    rw [show (1 : UInt32) = UInt32.ofNat 1 from rfl, ← UInt32.ofNat_add, ne_eq,
      ofNat_inj (by omega) few]
    omega
  rw [envelope_decoded faithful]
  exact consumed_chunk (append_collected faithful chunked (show index < _ by omega)) more

/-- The chunks but the last are only collected. -/
theorem chunks_consumed {count : Nat} (within : count < chunkCount responseChunkBytes payload) :
    decodeFrames codec {} ((List.range count).map fun index =>
        codec.messageToVec (chunkMessage codec payload index)) =
      (collected payload count, List.replicate count (.ok none)) := by
  induction count with
  | zero => simp [decodeFrames, collected]
  | succ count ih =>
    have earlier := ih (by omega)
    rw [List.range_succ, List.map_append, decodeFrames_append, earlier]
    simp only [List.map_cons, List.map_nil, decodeFrames, chunk_consumed faithful chunked within]
    rw [List.replicate_succ']

theorem chunks_decoded {ipcId : Option UInt64} {response : Response}
    (own : payload = replyPayload codec ipcId response) :
    decodeFrames codec {} ((List.range (chunkCount responseChunkBytes payload)).map fun index =>
        codec.messageToVec (chunkMessage codec payload index)) =
      ({}, List.replicate (chunkCount responseChunkBytes payload - 1) (.ok none) ++
        [.ok (some (.reply ipcId response))]) := by
  obtain ⟨last, same⟩ := Nat.exists_eq_add_one_of_ne_zero (Nat.ne_of_gt chunked.positive)
  have within : last < chunkCount responseChunkBytes payload := by omega
  have whole : (collected payload (last + 1)).buffer = payload := by
    rw [← same]
    exact take_chunks (by decide)
  have few := chunked.few
  have ends : UInt32.ofNat last + 1 = UInt32.ofNat (chunkCount responseChunkBytes payload) := by
    rw [same, UInt32.ofNat_add]
    rfl
  have completed : decodeDaemonFrame codec (codec.messageToVec (chunkMessage codec payload last))
      (collected payload last) = ({}, .ok (some (.reply ipcId response))) := by
    have joined := completed_chunk (append_collected faithful chunked within) ends
    rw [whole] at joined
    rw [envelope_decoded faithful]
    refine joined.trans ?_
    rw [own, reply_read faithful]
    rfl
  rw [show (List.range (chunkCount responseChunkBytes payload)) = List.range last ++ [last] by
      rw [same, List.range_succ],
    List.map_append, decodeFrames_append, chunks_consumed faithful chunked within]
  simp only [List.map_cons, List.map_nil, decodeFrames, completed]
  rw [same, Nat.add_sub_cancel]

omit chunked in
/-- An envelope with a chunk is much shorter than a frame may be. -/
theorem chunk_short (payload : List UInt8) (index : Nat) :
    (codec.messageToVec (chunkMessage codec payload index)).length ≤ maxFrameSize := by
  have own := @chunkAt_length _ responseChunkBytes payload index
  have encoded := faithful.base64Encode_length (chunkAt responseChunkBytes payload index)
  have index' := decimal_length (UInt32.ofNat index).toNat_lt
  have count := decimal_length
    (UInt32.ofNat (chunkCount responseChunkBytes payload)).toNat_lt
  have names : (envelopeFramePrefix ++ bytes "\"ResponseChunk\",\"chunk_index\":").length = 42 ∧
      (bytes ",\"chunk_count\":").length = 15 ∧ (bytes ",\"payload_b64\":\"").length = 16 ∧
      (bytes "\"\x7d").length = 2 := by
    decide +kernel
  rw [chunkMessage, faithful.messageToVec_chunk _
    (faithful.base64Encode_isBase64 _)]
  simp only [chunkJson, List.length_append] at names ⊢
  have bound : responseChunkBytes = 524288 := rfl
  have most : maxFrameSize = 4194304 := rfl
  omega

end Faithful

/-! ### Messages -/

/-- The frames of a message. -/
def framesOf (codec : Codec Response Request) : Outgoing Response Request → List (List UInt8)
  | .reply ipcId response =>
    let payload := replyPayload codec ipcId response
    if payload.length ≤ maxFrameSize then [payload]
    else
      (List.range (chunkCount responseChunkBytes payload)).map fun index =>
        codec.messageToVec (chunkMessage codec payload index)
  | .push response => [codec.toVec response]
  | .reverse id request => [codec.messageToVec (.reverseRequest id request)]

theorem writeAll_ok {Item : Type} {write : Item → Except String (List UInt8)}
    {result : Item → List UInt8} {items : List Item}
    (succeeds : ∀ item ∈ items, write item = .ok (result item)) :
    writeAll write items = .ok (items.flatMap result) := by
  induction items with
  | nil => rfl
  | cons item items ih =>
    rw [List.forall_mem_cons] at succeeds
    rw [writeAll, succeeds.1, ih succeeds.2]
    rfl

theorem frames_count (frames : List (List UInt8)) :
    frames.length ≤ (frames.flatMap framed).length := by
  induction frames with
  | nil => simp
  | cons frame frames ih =>
    simp only [List.flatMap_cons, List.length_append, List.length_cons, framed, bigEndian_length]
    omega

section Faithful

variable (faithful : codec.Faithful)
include faithful

theorem framesOf_short {message : Outgoing Response Request} (fits : Fits codec message) :
    ∀ frame ∈ framesOf codec message, frame.length ≤ maxFrameSize := by
  cases message with
  | reply ipcId response =>
    by_cases short : (replyPayload codec ipcId response).length ≤ maxFrameSize
    · simp [framesOf, short]
    · simp only [framesOf, short, if_false, List.forall_mem_map]
      exact fun index _ => chunk_short faithful _ index
  | push response => simpa [framesOf, Fits] using fits
  | reverse id request => simpa [framesOf, Fits] using fits

theorem send_framed {message : Outgoing Response Request} (fits : Fits codec message) :
    send codec message = .ok ((framesOf codec message).flatMap framed) := by
  cases message with
  | reply ipcId response =>
    by_cases short : (replyPayload codec ipcId response).length ≤ maxFrameSize
    · simp [send, sendChunkedResponseWithId, framesOf, short, writeFrame_framed short]
    · simp only [send, sendChunkedResponseWithId, framesOf, short, if_false]
      have written (index : Nat) := writeFrame_framed
        (chunk_short faithful (replyPayload codec ipcId response) index)
      simp only [sendDaemonMessage, written]
      rw [writeAll_ok fun index _ => rfl, List.flatMap_map]
  | push response => simp [send, sendResponse, framesOf, writeFrame_framed fits]
  | reverse id request => simp [send, sendDaemonMessage, framesOf, writeFrame_framed fits]

/-- The frames of a message are decoded to it, and leave nothing behind. -/
theorem message_decoded {message : Outgoing Response Request} (fits : Fits codec message) :
    ∃ decoded, decodeFrames codec {} (framesOf codec message) = ({}, decoded) ∧
      delivered decoded = [.ok message.frame] := by
  cases message with
  | reply ipcId response =>
    by_cases short : (replyPayload codec ipcId response).length ≤ maxFrameSize
    · refine ⟨[.ok (some (.reply ipcId response))], ?_, rfl⟩
      simp [framesOf, short, decodeFrames, reply_decoded faithful]
    · have chunked : Chunked (replyPayload codec ipcId response) :=
        ⟨chunkCount_positive (by decide) (by omega), fits⟩
      have read := chunks_decoded faithful chunked rfl
      refine ⟨_, by simpa only [framesOf, short, if_false] using read, ?_⟩
      rw [delivered_append, delivered_consumed]
      rfl
  | push response =>
    refine ⟨[.ok (some (.reply none response))], ?_, rfl⟩
    have read := reply_decoded faithful none response {}
    simp only [replyPayload] at read
    simp [framesOf, decodeFrames, read]
  | reverse id request =>
    refine ⟨[.ok (some (.reverse id request))], ?_, rfl⟩
    simp [framesOf, decodeFrames, envelope_decoded faithful]

theorem messages_decoded {messages : List (Outgoing Response Request)}
    (fits : ∀ message ∈ messages, Fits codec message) :
    ∃ decoded, decodeFrames codec {} (messages.flatMap (framesOf codec)) = ({}, decoded) ∧
      delivered decoded = messages.map fun message => .ok message.frame := by
  induction messages with
  | nil => exact ⟨[], rfl, rfl⟩
  | cons message messages ih =>
    rw [List.forall_mem_cons] at fits
    obtain ⟨first, read, own⟩ := message_decoded faithful fits.1
    obtain ⟨later, rest, others⟩ := ih fits.2
    refine ⟨first ++ later, ?_, ?_⟩
    · rw [List.flatMap_cons, decodeFrames_append, read, rest]
    · rw [delivered_append, own, others]
      rfl

/-- Messages that fit are written, and read as they were. -/
theorem messages_round_trip (messages : List (Outgoing Response Request))
    (fits : ∀ message ∈ messages, Fits codec message) : RoundTrips codec messages := by
  refine ⟨_, writeAll_ok fun message member => send_framed faithful (fits message member), ?_⟩
  intro pieces whole
  have short : ∀ frame ∈ messages.flatMap (framesOf codec), frame.length ≤ maxFrameSize := by
    intro frame member
    obtain ⟨message, present, within⟩ := List.mem_flatMap.mp member
    exact framesOf_short faithful (fits message present) frame within
  rw [← List.flatMap_assoc] at whole ⊢
  obtain ⟨decoded, read, own⟩ := messages_decoded faithful fits
  rw [readLoop_framed _ {} short (Nat.lt_succ_of_le (frames_count _)) whole, read, own]

end Faithful

/-- A pong with an id and a notification are read in the order they were written in. -/
theorem messages_round_trip_sample :
    Fits sampleCodec (.reply (some 7) .pong) ∧ Fits sampleCodec (.push (.logging 3)) ∧
      RoundTrips sampleCodec
        [.reply (some 7) .pong, .push (.logging 3), .reverse 1 .elicitation] := by
  have fits : ∀ message ∈ ([.reply (some 7) .pong, .push (.logging 3), .reverse 1 .elicitation] :
      List (Outgoing SampleResponse SampleRequest)), Fits sampleCodec message := by
    simp only [List.forall_mem_cons]
    refine ⟨?_, ?_, ?_, nofun⟩
    · show _ < _
      decide +kernel
    · show _ ≤ _
      decide +kernel
    · show _ ≤ _
      decide +kernel
  exact ⟨fits _ (by simp), fits _ (by simp), messages_round_trip sampleCodec_faithful _ fits⟩

/-- A notification that is longer than a frame is not written. -/
theorem long_push_refused : ¬ RoundTrips sampleCodec [.push (.logging 4194304)] := by
  rintro ⟨written, sent, -⟩
  have long : maxFrameSize < (sampleCodec.toVec (.logging 4194304)).length := by
    have opening : (bytes "\x7b").length = 1 := by decide +kernel
    have most : maxFrameSize = 4194304 := rfl
    simp only [sampleCodec, SampleResponse.fields, List.length_append, List.length_replicate]
    omega
  simp only [writeAll, send, sendResponse, writeFrame, if_pos long] at sent
  cases sent

end Plug.Ipc
