import Mathlib.Data.List.Induction
import Plug.IpcCodec

/-!
# Responses put together from chunks

The assembler keeps the bytes collected and the count it expects, not how many chunks there were.
So a chunk that is not the next one is noticed when its count differs, and taken otherwise.
`gapless_iff` says when no response has a gap in it: whenever each chunk that has the expected
count is the next one, or does not complete anything that can be read.
-/

namespace Plug.Ipc

variable {Response Request : Type} (codec : Codec Response Request)

/-- The chunk in a frame. -/
def chunkOf (frame : List UInt8) : Option ResponseChunk :=
  if envelopeFramePrefix.isPrefixOf frame then
    match codec.messageFromSlice frame with
    | .ok (.responseChunk chunk) => some chunk
    | _ => none
  else none

/-- The chunks since the last one that begins a response. -/
def sinceFirst (chunks : List ResponseChunk) : List ResponseChunk :=
  chunks.foldl (fun collected chunk =>
    if chunk.chunkIndex = 0 then [chunk] else collected ++ [chunk]) []

/-- The chunks of a response with this many, from the first one on. -/
structure Ordered (chunks : List ResponseChunk) (count : UInt32) : Prop where
  indices : ∀ (place : Nat) (chunk : ResponseChunk), chunks[place]? = some chunk →
    chunk.chunkIndex.toNat = place
  counts : ∀ chunk ∈ chunks, chunk.chunkCount = count
  within : chunks.length ≤ count.toNat

/-- All the chunks of a response. -/
def Whole (chunks : List ResponseChunk) : Prop :=
  ∃ count, Ordered chunks count ∧ chunks.length = count.toNat

def assembled (frames : List (List UInt8)) : ChunkAssembler :=
  frames.foldl (fun chunks frame => (decodeDaemonFrame codec frame chunks).1) {}

def received (frames : List (List UInt8)) : List ResponseChunk :=
  sinceFirst (frames.filterMap (chunkOf codec))

/-- What one chunk frame does after others. A reply is only delivered whole, what is out of order
fails and leaves nothing behind, and the index does not overflow. -/
structure Sequenced (before : List (List UInt8)) (frame : List UInt8) (chunk : ResponseChunk) :
    Prop where
  whole : ∀ reply,
    (decodeDaemonFrame codec frame (assembled codec before)).2 = .ok (some reply) →
      Whole (received codec (before ++ [frame]))
  refused : (¬ ∃ count, Ordered (received codec (before ++ [frame])) count) →
    ∃ failure, decodeDaemonFrame codec frame (assembled codec before) = ({}, .error failure)
  bounded : indexOverflows codec chunk (assembled codec before) = false

/-- No response with a gap is delivered from these frames. -/
def Gapless (frames : List (List UInt8)) : Prop :=
  ∀ before frame after chunk, frames = before ++ frame :: after →
    chunkOf codec frame = some chunk → Sequenced codec before frame chunk

/-- A chunk with the expected count is the next one, or completes what cannot be read. -/
def Follows (before : List (List UInt8)) (chunk : ResponseChunk) : Prop :=
  ∀ decoded, chunk.chunkIndex ≠ 0 → (assembled codec before).expected = some chunk.chunkCount →
    codec.base64Decode chunk.payloadB64 = .ok decoded →
    chunk.chunkIndex.toNat = (received codec before).length ∨
      (chunk.chunkIndex.toNat + 1 = chunk.chunkCount.toNat ∧
        (codec.fromSlice ((assembled codec before).buffer ++ decoded)).toBool = false)

def InOrder (frames : List (List UInt8)) : Prop :=
  ∀ before frame after chunk, frames = before ++ frame :: after →
    chunkOf codec frame = some chunk → Follows codec before chunk

variable {codec} {before frames : List (List UInt8)} {frame : List UInt8} {chunk : ResponseChunk}

/-! ### Frames and chunks -/

theorem decode_chunk (found : chunkOf codec frame = some chunk) (chunks : ChunkAssembler) :
    decodeDaemonFrame codec frame chunks = decodeChunk codec chunk chunks := by
  unfold chunkOf at found
  split at found
  · rename_i envelope
    unfold decodeDaemonFrame
    rw [envelope]
    cases message : codec.messageFromSlice frame with
    | error e => simp [message] at found
    | ok message' =>
      cases message' with
      | response inner => simp [message] at found
      | responseChunk other =>
        simp only [message, Option.some.injEq] at found
        simp [found]
      | reverseRequest id request => simp [message] at found
  · cases found

/-- A frame without a chunk leaves the assembler alone. -/
theorem decode_other (none : chunkOf codec frame = none) (chunks : ChunkAssembler) :
    (decodeDaemonFrame codec frame chunks).1 = chunks := by
  unfold chunkOf at none
  unfold decodeDaemonFrame
  split at none
  · rename_i envelope
    rw [envelope]
    cases message : codec.messageFromSlice frame with
    | error e => simp
    | ok message' =>
      cases message' with
      | response inner => simp
      | responseChunk other => simp [message] at none
      | reverseRequest id request => simp
  · rename_i plain
    simp [plain]

theorem assembled_concat (before : List (List UInt8)) (frame : List UInt8) :
    assembled codec (before ++ [frame]) =
      (decodeDaemonFrame codec frame (assembled codec before)).1 := by
  simp [assembled]

theorem received_chunk (found : chunkOf codec frame = some chunk) (before : List (List UInt8)) :
    received codec (before ++ [frame]) =
      if chunk.chunkIndex = 0 then [chunk] else received codec before ++ [chunk] := by
  simp [received, sinceFirst, found]

theorem received_other (none : chunkOf codec frame = none) (before : List (List UInt8)) :
    received codec (before ++ [frame]) = received codec before := by
  simp [received, sinceFirst, none]

/-! ### One chunk -/

/-- A chunk is refused, begins a response, or carries one on. -/
theorem append_cases (codec : Codec Response Request) (chunk : ResponseChunk)
    (chunks : ChunkAssembler) :
    (∃ failure, appendChunk codec chunk chunks = .error failure) ∨
    (∃ decoded, chunk.chunkCount ≠ 0 ∧ chunk.chunkIndex = 0 ∧
      codec.base64Decode chunk.payloadB64 = .ok decoded ∧
      appendChunk codec chunk chunks = .ok ⟨decoded, some chunk.chunkCount⟩) ∨
    (∃ decoded, chunk.chunkCount ≠ 0 ∧ chunk.chunkIndex ≠ 0 ∧
      chunks.expected = some chunk.chunkCount ∧
      codec.base64Decode chunk.payloadB64 = .ok decoded ∧
      appendChunk codec chunk chunks =
        .ok ⟨chunks.buffer ++ decoded, some chunk.chunkCount⟩) := by
  by_cases empty : chunk.chunkCount = 0
  · exact Or.inl ⟨_, by rw [appendChunk, if_pos empty]⟩
  by_cases stray : chunk.chunkIndex ≠ 0 ∧ chunks.expected ≠ some chunk.chunkCount
  · exact Or.inl ⟨_, by rw [appendChunk, if_neg empty, if_pos stray]⟩
  cases read : codec.base64Decode chunk.payloadB64 with
  | error e => exact Or.inl ⟨_, by rw [appendChunk, if_neg empty, if_neg stray, read]⟩
  | ok decoded =>
    by_cases first : chunk.chunkIndex = 0
    · refine Or.inr (Or.inl ⟨decoded, empty, first, rfl, ?_⟩)
      simp [appendChunk, empty, first, read]
    · have expected : chunks.expected = some chunk.chunkCount := by
        simpa [first] using stray
      refine Or.inr (Or.inr ⟨decoded, empty, first, expected, rfl, ?_⟩)
      simp [appendChunk, empty, first, expected, read]

/-- After the last index there is none. -/
theorem succ_toNat {index count : UInt32} (last : index + 1 = count) (positive : count ≠ 0) :
    index.toNat + 1 = count.toNat := by
  have small := index.toNat_lt
  have wrapped : count.toNat = (index.toNat + 1) % 4294967296 := by
    rw [← last, UInt32.toNat_add]
    rfl
  have some : count.toNat ≠ 0 := fun zero => positive (UInt32.toNat_inj.mp zero)
  omega

/-! ### What the assembler expects -/

/-- What is expected has been received in order so far. -/
def Expects (codec : Codec Response Request) (before : List (List UInt8)) : Prop :=
  ∀ count, (assembled codec before).expected = some count →
    Ordered (received codec before) count ∧ (received codec before).length < count.toNat

theorem ordered_first (first : chunk.chunkIndex = 0) (positive : chunk.chunkCount ≠ 0) :
    Ordered [chunk] chunk.chunkCount := by
  have some : chunk.chunkCount.toNat ≠ 0 := fun zero => positive (UInt32.toNat_inj.mp zero)
  constructor
  · intro place other found
    cases place with
    | zero => simp_all
    | succ place => simp at found
  · simp
  · simp
    omega

theorem ordered_next {chunks : List ResponseChunk} {count : UInt32} (ordered : Ordered chunks count)
    (count' : chunk.chunkCount = count) (next : chunk.chunkIndex.toNat = chunks.length)
    (fewer : chunks.length < count.toNat) : Ordered (chunks ++ [chunk]) count := by
  constructor
  · intro place other found
    rw [List.getElem?_append] at found
    split at found
    · exact ordered.indices place other found
    · rename_i behind
      obtain ⟨last, same⟩ := List.getElem?_eq_some_iff.mp found
      rw [List.length_singleton] at last
      rw [List.getElem_singleton] at same
      rw [← same, next]
      omega
  · simp only [List.forall_mem_append, List.forall_mem_singleton]
    exact ⟨ordered.counts, count'⟩
  · rw [List.length_append, List.length_singleton]
    omega

/-- A chunk out of its place is not in order. -/
theorem not_ordered {chunks : List ResponseChunk} {count : UInt32}
    (other : chunk.chunkIndex.toNat ≠ chunks.length) : ¬ Ordered (chunks ++ [chunk]) count := by
  intro ordered
  exact other (ordered.indices chunks.length chunk (by simp))

/-! ### What one chunk frame does -/

theorem unreadable {frame : List UInt8} (unread : (codec.fromSlice frame).toBool = false)
    (context : String) : ∃ failure, decodeReply codec frame context = .error failure := by
  unfold decodeReply
  cases read : codec.fromSlice frame with
  | error e => exact ⟨_, rfl⟩
  | ok response => simp [read, Except.toBool] at unread

theorem not_last {index count : UInt32} (more : index + 1 ≠ count)
    (small : index.toNat + 1 < 4294967296) : index.toNat + 1 ≠ count.toNat := by
  intro same
  apply more
  apply UInt32.toNat_inj.mp
  rw [UInt32.toNat_add, ← same]
  exact Nat.mod_eq_of_lt small

/-- An assembler that has nothing expects nothing. -/
theorem expects_nothing (nothing : (assembled codec before).expected = none) :
    Expects codec before := by
  intro count expected
  rw [nothing] at expected
  cases expected

theorem expects_other (none : chunkOf codec frame = none) (expects : Expects codec before) :
    Expects codec (before ++ [frame]) := by
  intro count expected
  rw [assembled_concat, decode_other none] at expected
  rw [received_other none]
  exact expects count expected

/-- A response without chunks is never expected. -/
theorem expected_positive (frames : List (List UInt8)) :
    (assembled codec frames).expected ≠ some 0 := by
  induction frames using List.reverseRecOn with
  | nil => simp [assembled]
  | append_singleton before frame ih =>
    rw [assembled_concat]
    cases found : chunkOf codec frame with
    | none =>
      rw [decode_other found]
      exact ih
    | some chunk =>
      rw [decode_chunk found]
      rcases append_cases codec chunk (assembled codec before) with
        ⟨failure, refused⟩ | ⟨decoded, positive, _, _, appended⟩ |
        ⟨decoded, positive, _, _, _, appended⟩
      · rw [refused_chunk refused]
        simp
      · by_cases last : chunk.chunkIndex + 1 = chunk.chunkCount
        · simp [completed_chunk appended last]
        · simp [consumed_chunk appended last, positive]
      · by_cases last : chunk.chunkIndex + 1 = chunk.chunkCount
        · simp [completed_chunk appended last]
        · simp [consumed_chunk appended last, positive]

/-- Nothing is expected after the last chunk, and the one before it was in its place. -/
theorem sequenced_ordered {count : UInt32} (found : chunkOf codec frame = some chunk)
    {extended : ChunkAssembler}
    (appended : appendChunk codec chunk (assembled codec before) = .ok extended)
    (expected : extended.expected = some count) (own : chunk.chunkCount = count)
    (ordered : Ordered (received codec (before ++ [frame])) count)
    (length : (received codec (before ++ [frame])).length = chunk.chunkIndex.toNat + 1) :
    Sequenced codec before frame chunk ∧ Expects codec (before ++ [frame]) := by
  have within := ordered.within
  have small := count.toNat_lt
  have bounded : indexOverflows codec chunk (assembled codec before) = false := by
    simp only [indexOverflows, Bool.and_eq_false_iff, decide_eq_false_iff_not]
    omega
  by_cases last : chunk.chunkIndex + 1 = chunk.chunkCount
  · have positive : chunk.chunkCount ≠ 0 := by
      rintro zero
      rw [own] at zero
      rw [zero] at within
      simp only [length, UInt32.toNat_zero] at within
      omega
    have all := succ_toNat last positive
    rw [own] at all
    constructor
    · constructor
      · exact fun _ _ => ⟨count, ordered, length.trans all⟩
      · exact fun disordered => absurd ⟨count, ordered⟩ disordered
      · exact bounded
    · apply expects_nothing
      rw [assembled_concat, decode_chunk found, completed_chunk appended last]
  · have more := not_last last (by omega)
    rw [own] at more
    constructor
    · constructor
      · intro reply delivered
        rw [decode_chunk found, consumed_chunk appended last] at delivered
        cases delivered
      · exact fun disordered => absurd ⟨count, ordered⟩ disordered
      · exact bounded
    · intro other same
      rw [assembled_concat, decode_chunk found, consumed_chunk appended last, expected] at same
      cases same
      exact ⟨ordered, by omega⟩

theorem sequenced_refused (found : chunkOf codec frame = some chunk) {failure : TransportFailure}
    (failed : decodeChunk codec chunk (assembled codec before) = ({}, .error failure))
    (bounded : indexOverflows codec chunk (assembled codec before) = false) :
    Sequenced codec before frame chunk ∧ Expects codec (before ++ [frame]) := by
  have decoded := decode_chunk found (assembled codec before)
  rw [failed] at decoded
  constructor
  · constructor
    · intro reply delivered
      rw [decoded] at delivered
      cases delivered
    · exact fun _ => ⟨failure, decoded⟩
    · exact bounded
  · apply expects_nothing
    rw [assembled_concat, decoded]

/-- A chunk that follows those before it does what it should, and so may the next one. -/
theorem sequenced_step (found : chunkOf codec frame = some chunk)
    (expects : Expects codec before) (follows : Follows codec before chunk) :
    Sequenced codec before frame chunk ∧ Expects codec (before ++ [frame]) := by
  have collected := received_chunk found before
  rcases append_cases codec chunk (assembled codec before) with
    ⟨failure, refused⟩ | ⟨decoded, positive, first, _, appended⟩ |
    ⟨decoded, positive, later, expected, read, appended⟩
  · apply sequenced_refused found (refused_chunk refused)
    simp [indexOverflows, refused, Except.toBool]
  · rw [if_pos first] at collected
    apply sequenced_ordered found appended rfl rfl
    · rw [collected]
      exact ordered_first first positive
    · simp [collected, first]
  · rw [if_neg later] at collected
    obtain ⟨ordered, fewer⟩ := expects chunk.chunkCount expected
    rcases follows decoded later expected read with next | ⟨last, unread⟩
    · apply sequenced_ordered found appended rfl rfl
      · rw [collected]
        exact ordered_next ordered rfl next fewer
      · simp [collected, next]
    · obtain ⟨failure, failed⟩ := unreadable unread "invalid chunked IPC response"
      have small := chunk.chunkCount.toNat_lt
      have final : chunk.chunkIndex + 1 = chunk.chunkCount := by
        apply UInt32.toNat_inj.mp
        rw [UInt32.toNat_add, ← last]
        exact Nat.mod_eq_of_lt (show chunk.chunkIndex.toNat + 1 < _ by omega)
      apply sequenced_refused found
      · rw [completed_chunk appended final, failed]
        rfl
      · simp only [indexOverflows, Bool.and_eq_false_iff, decide_eq_false_iff_not]
        omega

/-- A chunk that does what it should follows those before it. -/
theorem follows_of_sequenced (found : chunkOf codec frame = some chunk)
    (sequenced : Sequenced codec before frame chunk) : Follows codec before chunk := by
  intro decoded later expected read
  by_cases next : chunk.chunkIndex.toNat = (received codec before).length
  · exact Or.inl next
  · apply Or.inr
    have collected := received_chunk found before
    rw [if_neg later] at collected
    obtain ⟨failure, failed⟩ := sequenced.refused (by
      rintro ⟨count, ordered⟩
      rw [collected] at ordered
      exact not_ordered next ordered)
    rw [decode_chunk found] at failed
    have positive : chunk.chunkCount ≠ 0 := by
      intro zero
      rw [zero] at expected
      exact expected_positive before expected
    have appended : appendChunk codec chunk (assembled codec before) =
        .ok ⟨(assembled codec before).buffer ++ decoded, some chunk.chunkCount⟩ := by
      simp [appendChunk, positive, later, expected, read]
    by_cases last : chunk.chunkIndex + 1 = chunk.chunkCount
    · refine ⟨succ_toNat last positive, ?_⟩
      rw [completed_chunk appended last] at failed
      have unread := congrArg Prod.snd failed
      unfold decodeReply at unread
      cases whole : codec.fromSlice ((assembled codec before).buffer ++ decoded) with
      | error e => rfl
      | ok response => simp [whole, Except.map] at unread
    · rw [consumed_chunk appended last] at failed
      have unread := congrArg Prod.snd failed
      cases unread

/-- No response with a gap is delivered exactly when the chunks come in order. -/
theorem gapless_iff (codec : Codec Response Request) (frames : List (List UInt8)) :
    Gapless codec frames ↔ InOrder codec frames := by
  constructor
  · intro gapless before frame after chunk split found
    exact follows_of_sequenced found (gapless before frame after chunk split found)
  · intro inOrder
    have step (before : List (List UInt8)) :
        ∀ after, frames = before ++ after → Expects codec before := by
      induction before using List.reverseRecOn with
      | nil => exact fun _ _ => expects_nothing rfl
      | append_singleton before frame ih =>
        intro after split
        rw [List.append_assoc, List.singleton_append] at split
        have expects := ih _ split
        cases found : chunkOf codec frame with
        | none => exact expects_other found expects
        | some chunk =>
          exact (sequenced_step found expects (inOrder before frame after chunk split found)).2
    intro before frame after chunk split found
    exact (sequenced_step found (step before _ split)
      (inOrder before frame after chunk split found)).1

/-! ### A chunk is missing -/

/-- A chunk of the JSON of a pong, in base64. -/
def pongChunk (index : UInt32) (text : String) : ResponseChunk :=
  ⟨index, 3, Base64.encode (bytes text)⟩

/-- A response is delivered of which the second chunk never came. -/
theorem gap_delivered :
    ¬ Gapless sampleCodec
      [chunkJson (pongChunk 0 "\x7b\"type\":"), chunkJson (pongChunk 2 "\"Pong\"\x7d")] := by
  intro gapless
  have sequenced := gapless [chunkJson (pongChunk 0 "\x7b\"type\":")]
    (chunkJson (pongChunk 2 "\"Pong\"\x7d")) [] (pongChunk 2 "\"Pong\"\x7d") rfl (by decide +kernel)
  obtain ⟨count, ordered, -⟩ := sequenced.whole (.reply none .pong) (by decide +kernel)
  have last := ordered.indices 1 (pongChunk 2 "\"Pong\"\x7d") (by decide +kernel)
  revert last
  decide

end Plug.Ipc
