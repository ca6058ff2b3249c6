import Mathlib.Data.List.Basic

/-!
# Base64

Three bytes are written as four characters of six bits each, and what is left at the end with
padding. Reading gives the bytes back.
-/

namespace Base64

def encodeDigit (value : Nat) : UInt8 :=
  UInt8.ofNat (if value < 26 then value + 65 else if value < 52 then value + 71
    else if value < 62 then value - 4 else if value = 62 then 43 else 47)

def decodeDigit (character : UInt8) : Option Nat :=
  let code := character.toNat
  if 65 ≤ code ∧ code ≤ 90 then some (code - 65)
  else if 97 ≤ code ∧ code ≤ 122 then some (code - 71)
  else if 48 ≤ code ∧ code ≤ 57 then some (code + 4)
  else if code = 43 then some 62
  else if code = 47 then some 63
  else none

def padding : UInt8 := 61

def encode : List UInt8 → List UInt8
  | first :: second :: third :: rest =>
    encodeDigit (first.toNat / 4) ::
      encodeDigit (first.toNat % 4 * 16 + second.toNat / 16) ::
      encodeDigit (second.toNat % 16 * 4 + third.toNat / 64) ::
      encodeDigit (third.toNat % 64) :: encode rest
  | [first, second] =>
    [encodeDigit (first.toNat / 4), encodeDigit (first.toNat % 4 * 16 + second.toNat / 16),
      encodeDigit (second.toNat % 16 * 4), padding]
  | [first] =>
    [encodeDigit (first.toNat / 4), encodeDigit (first.toNat % 4 * 16), padding, padding]
  | [] => []

/-- Four characters give three bytes; padding, which no digit is, ends the text. -/
def decode : List UInt8 → Option (List UInt8)
  | [] => some []
  | first :: second :: third :: fourth :: rest => do
    let high ← decodeDigit first
    let next ← decodeDigit second
    let byte := UInt8.ofNat (high * 4 + next / 16)
    match decodeDigit third with
    | none => if third = padding ∧ fourth = padding ∧ rest = [] then some [byte] else none
    | some low =>
      let middle := UInt8.ofNat (next % 16 * 16 + low / 4)
      match decodeDigit fourth with
      | none => if fourth = padding ∧ rest = [] then some [byte, middle] else none
      | some last => (decode rest).map fun later =>
          byte :: middle :: UInt8.ofNat (low % 4 * 64 + last) :: later
  | _ => none

/-- Only what is written is read: bits left over in the last digit are refused. -/
def decodeStrict (text : List UInt8) : Option (List UInt8) :=
  (decode text).filter fun items => encode items = text

theorem decodeDigit_encodeDigit : ∀ value < 64, decodeDigit (encodeDigit value) = some value := by
  decide

theorem decodeDigit_padding : decodeDigit padding = none := rfl

/-- Every value that is written has six bits. -/
theorem values_small (first second third : UInt8) :
    first.toNat / 4 < 64 ∧ first.toNat % 4 * 16 + second.toNat / 16 < 64 ∧
      second.toNat % 16 * 4 + third.toNat / 64 < 64 ∧ third.toNat % 64 < 64 := by
  have firstSmall := first.toNat_lt
  have secondSmall := second.toNat_lt
  have thirdSmall := third.toNat_lt
  omega

theorem ofNat_eq {value : Nat} {byte : UInt8} (same : value = byte.toNat) :
    UInt8.ofNat value = byte := by
  rw [same, UInt8.ofNat_toNat]

theorem decode_encode (items : List UInt8) : decode (encode items) = some items := by
  induction items using encode.induct with
  | case1 first second third rest ih =>
    obtain ⟨a, b, c, d⟩ := values_small first second third
    have secondSmall := second.toNat_lt
    have thirdSmall := third.toNat_lt
    simp only [encode, decode, decodeDigit_encodeDigit _ a, decodeDigit_encodeDigit _ b,
      decodeDigit_encodeDigit _ c, decodeDigit_encodeDigit _ d, ih,
      Option.bind_eq_bind, Option.bind_some, Option.map_some, Option.some.injEq, List.cons.injEq,
      and_true]
    refine ⟨ofNat_eq ?_, ofNat_eq ?_, ofNat_eq ?_⟩ <;> omega
  | case2 first second =>
    obtain ⟨a, b, c, -⟩ := values_small first second 0
    have last : second.toNat % 16 * 4 < 64 := by omega
    have secondSmall := second.toNat_lt
    simp only [encode, decode, decodeDigit_encodeDigit _ a, decodeDigit_encodeDigit _ b,
      decodeDigit_encodeDigit _ last, decodeDigit_padding, Option.bind_eq_bind, Option.bind_some,
      and_self, if_true, Option.some.injEq, List.cons.injEq, and_true]
    refine ⟨ofNat_eq ?_, ofNat_eq ?_⟩ <;> omega
  | case3 first =>
    obtain ⟨a, -, -, -⟩ := values_small first 0 0
    have last : first.toNat % 4 * 16 < 64 := by omega
    simp only [encode, decode, decodeDigit_encodeDigit _ a, decodeDigit_encodeDigit _ last,
      decodeDigit_padding, Option.bind_eq_bind, Option.bind_some, and_self, if_true,
      Option.some.injEq, List.cons.injEq, and_true]
    apply ofNat_eq
    omega
  | case4 => rfl

theorem decodeStrict_eq_some_iff {text items : List UInt8} :
    decodeStrict text = some items ↔ encode items = text := by
  rw [decodeStrict, Option.filter_eq_some_iff, decide_eq_true_eq]
  constructor
  · exact And.right
  · rintro rfl
    exact ⟨decode_encode items, rfl⟩

theorem encode_length (items : List UInt8) :
    (encode items).length = (items.length + 2) / 3 * 4 := by
  induction items using encode.induct with
  | case1 first second third rest ih =>
    simp only [encode, List.length_cons, ih]
    omega
  | case2 first second => simp [encode]
  | case3 first => simp [encode]
  | case4 => rfl

/-- What holds of every digit and of the padding holds of all that is written. -/
theorem encode_all {holds : UInt8 → Prop} (digits : ∀ value < 64, holds (encodeDigit value))
    (filled : holds padding) (items : List UInt8) : ∀ byte ∈ encode items, holds byte := by
  induction items using encode.induct with
  | case1 first second third rest ih =>
    obtain ⟨a, b, c, d⟩ := values_small first second third
    simp only [encode, List.forall_mem_cons]
    exact ⟨digits _ a, digits _ b, digits _ c, digits _ d, ih⟩
  | case2 first second =>
    obtain ⟨a, b, -, -⟩ := values_small first second 0
    have last : second.toNat % 16 * 4 < 64 := by omega
    simp only [encode, List.forall_mem_cons]
    exact ⟨digits _ a, digits _ b, digits _ last, filled, nofun⟩
  | case3 first =>
    obtain ⟨a, -, -, -⟩ := values_small first 0 0
    have last : first.toNat % 4 * 16 < 64 := by omega
    simp only [encode, List.forall_mem_cons]
    exact ⟨digits _ a, digits _ last, filled, filled, nofun⟩
  | case4 => nofun

end Base64
