import Mathlib.Data.List.Basic

/-!
# Streams of bytes

A stream arrives in pieces, cut anywhere. Reading a number of items off it gives the same
items whatever the cuts are. A number of four bytes is written with the highest first, and a
long list is cut into chunks of one length, the last one shorter.
-/

namespace ByteStreams

universe u
variable {Item : Type u}

/-! ### Pieces -/

/-- The first items of a stream, and what is left of it; nothing when it ends before. -/
def readExact : Nat → List (List Item) → Option (List Item × List (List Item))
  | count, [] => if count = 0 then some ([], []) else none
  | count, piece :: rest =>
    if count ≤ piece.length then some (piece.take count, piece.drop count :: rest)
    else (readExact (count - piece.length) rest).map fun read => (piece ++ read.1, read.2)

theorem readExact_some {count : Nat} {pieces : List (List Item)} {front rest : List Item}
    (whole : pieces.flatten = front ++ rest) (length : front.length = count) :
    ∃ left, readExact count pieces = some (front, left) ∧ left.flatten = rest := by
  induction pieces generalizing count front with
  | nil =>
    obtain ⟨rfl, rfl⟩ := List.append_eq_nil_iff.mp whole.symm
    exact ⟨[], by simp [readExact, ← length], rfl⟩
  | cons piece pieces ih =>
    rw [List.flatten_cons] at whole
    unfold readExact
    by_cases inside : count ≤ piece.length
    · rw [if_pos inside]
      obtain ⟨more, rfl⟩ : ∃ more, piece = front ++ more :=
        List.prefix_of_prefix_length_le (List.prefix_append front rest)
          (whole ▸ List.prefix_append ..) (by omega) |>.imp fun _ same => same.symm
      rw [List.append_assoc, List.append_cancel_left_eq] at whole
      refine ⟨more :: pieces, ?_, whole⟩
      rw [← length, List.take_left, List.drop_left]
    · rw [if_neg inside]
      obtain ⟨more, rfl⟩ : ∃ more, front = piece ++ more :=
        List.prefix_of_prefix_length_le (whole ▸ List.prefix_append piece _)
          (List.prefix_append front rest) (by omega) |>.imp fun _ same => same.symm
      rw [List.append_assoc, List.append_cancel_left_eq] at whole
      rw [List.length_append] at length
      obtain ⟨left, read, same⟩ :=
        ih whole (show more.length = count - piece.length by omega)
      exact ⟨left, by rw [read, Option.map_some], same⟩

theorem readExact_empty {count : Nat} {pieces : List (List Item)} (positive : 0 < count)
    (whole : pieces.flatten = []) : readExact count pieces = none := by
  induction pieces with
  | nil => simp [readExact, Nat.ne_of_gt positive]
  | cons piece pieces ih =>
    rw [List.flatten_cons, List.append_eq_nil_iff] at whole
    obtain ⟨rfl, rest⟩ := whole
    unfold readExact
    rw [List.length_nil, if_neg (Nat.not_le_of_gt positive)]
    simp [ih rest]

/-! ### Numbers of four bytes -/

def bigEndian (number : Nat) : List UInt8 :=
  [UInt8.ofNat (number / 16777216), UInt8.ofNat (number / 65536), UInt8.ofNat (number / 256),
    UInt8.ofNat number]

def fromBigEndian (bytes : List UInt8) : Nat :=
  bytes.foldl (fun number byte => number * 256 + byte.toNat) 0

@[simp] theorem bigEndian_length (number : Nat) : (bigEndian number).length = 4 := rfl

theorem fromBigEndian_bigEndian {number : Nat} (small : number < 4294967296) :
    fromBigEndian (bigEndian number) = number := by
  simp only [fromBigEndian, bigEndian, List.foldl_cons, List.foldl_nil, UInt8.toNat_ofNat']
  omega

/-! ### Chunks -/

def chunkCount (size : Nat) (items : List Item) : Nat :=
  (items.length + (size - 1)) / size

/-- One chunk, by its place. -/
def chunkAt (size : Nat) (items : List Item) (index : Nat) : List Item :=
  (items.drop (index * size)).take size

variable {size : Nat} {items : List Item}

theorem chunkAt_length (index : Nat) : (chunkAt size items index).length ≤ size :=
  List.length_take_le ..

/-- The items up to a chunk, and those of the chunk. -/
theorem take_chunk (index : Nat) :
    items.take (index * size) ++ chunkAt size items index = items.take ((index + 1) * size) := by
  rw [chunkAt, Nat.succ_mul, List.take_add]

/-- All the chunks make up the list. -/
theorem take_chunks (positive : 0 < size) :
    items.take (chunkCount size items * size) = items := by
  apply List.take_of_length_le
  have enough := Nat.lt_div_mul_add positive (a := items.length + (size - 1))
  unfold chunkCount
  omega

theorem chunkCount_positive (positive : 0 < size) (long : 0 < items.length) :
    0 < chunkCount size items := by
  apply Nat.div_pos _ positive
  omega

end ByteStreams
