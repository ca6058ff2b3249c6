import Mathlib.Data.List.Basic

/-!
# Self-delimiting binary forms

A `Serial` writes an item as bytes and reads it from the front of a longer text; what is read is
what was written, whatever follows. Forms are built from those of their parts.
-/

universe u v

structure Serial (Item : Type u) where
  encode : Item → List UInt8
  decode : List UInt8 → Option (Item × List UInt8)
  law : ∀ item rest, decode (encode item ++ rest) = some (item, rest)

namespace Serial

variable {Item : Type u} {Other : Type v}

/-- Groups of seven bits, the lowest first; the last one is below 128. -/
def groups : Nat → Nat → List UInt8
  | 0, _ => [0]
  | fuel + 1, number =>
    if number < 128 then [number.toUInt8]
    else (number % 128 + 128).toUInt8 :: groups fuel (number / 128)

def ungroup : List UInt8 → Option (Nat × List UInt8)
  | [] => none
  | byte :: rest =>
    if byte.toNat < 128 then some (byte.toNat, rest)
    else (ungroup rest).map fun read => (byte.toNat - 128 + 128 * read.1, read.2)

theorem ungroup_groups (fuel number : Nat) (enough : number ≤ fuel) (rest : List UInt8) :
    ungroup (groups fuel number ++ rest) = some (number, rest) := by
  induction fuel generalizing number with
  | zero =>
    obtain rfl := Nat.le_zero.mp enough
    rfl
  | succ fuel ih =>
    rw [groups]
    split
    · rename_i small
      have same : number.toUInt8.toNat = number := by
        rw [Nat.toUInt8, UInt8.toNat_ofNat']
        omega
      rw [List.singleton_append, ungroup, same, if_pos small]
    · rename_i large
      have same : (number % 128 + 128).toUInt8.toNat = number % 128 + 128 := by
        rw [Nat.toUInt8, UInt8.toNat_ofNat']
        omega
      have later := ih (number / 128) (by omega)
      rw [List.cons_append, ungroup, same, if_neg (by omega), later, Option.map_some]
      congr 2
      omega

def number : Serial Nat where
  encode number := groups number number
  decode := ungroup
  law number rest := ungroup_groups number number (Nat.le_refl number) rest

theorem length_groups (fuel number : Nat) : (groups fuel number).length ≤ fuel + 1 := by
  induction fuel generalizing number with
  | zero => exact Nat.le_refl 1
  | succ fuel ih =>
    rw [groups]
    split
    · rw [List.length_singleton]
      omega
    · rw [List.length_cons]
      exact Nat.succ_le_succ (ih _)

def byte : Serial UInt8 where
  encode byte := [byte]
  decode
    | [] => none
    | byte :: rest => some (byte, rest)
  law _ _ := rfl

/-- Items that are told apart by what they are turned into. -/
def map (serial : Serial Item) (into : Other → Item) (back : Item → Other)
    (same : ∀ other, back (into other) = other) : Serial Other where
  encode other := serial.encode (into other)
  decode bytes := (serial.decode bytes).map fun read => (back read.1, read.2)
  law other rest := by rw [serial.law, Option.map_some, same]

def pair (first : Serial Item) (second : Serial Other) : Serial (Item × Other) where
  encode both := first.encode both.1 ++ second.encode both.2
  decode bytes := (first.decode bytes).bind fun read =>
    (second.decode read.2).map fun later => ((read.1, later.1), later.2)
  law both rest := by
    rw [List.append_assoc, first.law, Option.bind_some, second.law, Option.map_some]

/-- A number of items, one after the other. -/
def many (serial : Serial Item) : Nat → List UInt8 → Option (List Item × List UInt8)
  | 0, bytes => some ([], bytes)
  | count + 1, bytes => (serial.decode bytes).bind fun read =>
    (many serial count read.2).map fun later => (read.1 :: later.1, later.2)

theorem many_flatMap (serial : Serial Item) (items : List Item) (rest : List UInt8) :
    serial.many items.length (items.flatMap serial.encode ++ rest) = some (items, rest) := by
  induction items with
  | nil => rfl
  | cons item items ih =>
    rw [List.flatMap_cons, List.append_assoc, List.length_cons, many, serial.law,
      Option.bind_some, ih, Option.map_some]

def list (serial : Serial Item) : Serial (List Item) where
  encode items := number.encode items.length ++ items.flatMap serial.encode
  decode bytes := (number.decode bytes).bind fun read => serial.many read.1 read.2
  law items rest := by
    rw [List.append_assoc, number.law, Option.bind_some, many_flatMap]

/-- A list of items that are short is short. -/
theorem length_list_le (serial : Serial Item) (items : List Item) (size : Nat)
    (short : ∀ item ∈ items, (serial.encode item).length ≤ size) :
    (serial.list.encode items).length ≤ items.length + 1 + items.length * size := by
  have total : (items.flatMap serial.encode).length ≤ items.length * size := by
    induction items with
    | nil => exact Nat.zero_le _
    | cons item items ih =>
      have first := short item (List.mem_cons_self ..)
      have others := ih fun other member =>
        short other (List.mem_cons_of_mem item member)
      rw [List.flatMap_cons, List.length_append, List.length_cons, Nat.succ_mul]
      omega
  have count := length_groups items.length items.length
  change (groups items.length items.length ++ items.flatMap serial.encode).length ≤ _
  rw [List.length_append]
  exact Nat.add_le_add count total

def option (serial : Serial Item) : Serial (Option Item) :=
  serial.list.map Option.toList List.head? (by rintro (_ | _) <;> rfl)

def bool : Serial Bool :=
  number.map Bool.toNat (fun number => number = 1) (by rintro (_ | _) <;> rfl)

def string : Serial String :=
  byte.list.map (fun text => text.toByteArray.data.toList)
    (fun bytes => (String.fromUTF8? ⟨bytes.toArray⟩).getD "") fun text => by
      rw [Array.toArray_toList, String.fromUTF8?, dif_pos text.isValidUTF8]
      rfl

end Serial
