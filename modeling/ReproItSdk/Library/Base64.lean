import ReproItSdk.Library.Unicode

/-! # Base64 with the alphabet for URLs

Three bytes are written as four digits of six bits.  The rest of one or two bytes is written as two
or three digits, without padding.  A reader of the digits drops the bits that no byte takes, so it
reads some texts that no writer writes; a reader that writes the bytes again refuses those.

Main results:

- Theorem {lit}`decode_encode`: what is written is read back.
- Theorem {lit}`decodeCanonical_encode`: the reader that writes again reads what is written.
-/

namespace ReproItSdk
namespace Base64

open Unicode

/-! ## Digits -/

/-- The digit of six bits. -/
def digit (value : Nat) : Char :=
  if value < 26 then Char.ofNat (65 + value)
  else if value < 52 then Char.ofNat (71 + value)
  else if value < 62 then Char.ofNat (value - 4)
  else if value = 62 then '-'
  else '_'

/-- The six bits of a digit. -/
def digit? (character : Char) : Option Nat :=
  let code := character.toNat
  if 65 ≤ code ∧ code ≤ 90 then some (code - 65)
  else if 97 ≤ code ∧ code ≤ 122 then some (code - 71)
  else if 48 ≤ code ∧ code ≤ 57 then some (code + 4)
  else if character = '-' then some 62
  else if character = '_' then some 63
  else none

/-- Every digit stands for the bits it is written for. -/
theorem digit_digit {value : Nat} (small : value < 64) : digit? (digit value) = some value := by
  have all : ∀ index : Fin 64, digit? (digit index) = some index.val := by decide
  exact all ⟨value, small⟩

/-! ## Texts -/

/-- The text of some bytes. -/
def encode : List UInt8 → Text
  | [] => []
  | [first] => [digit (first.toNat / 4), digit (first.toNat % 4 * 16)]
  | [first, second] =>
      [digit (first.toNat / 4), digit (first.toNat % 4 * 16 + second.toNat / 16),
        digit (second.toNat % 16 * 4)]
  | first :: second :: third :: rest =>
      digit (first.toNat / 4) :: digit (first.toNat % 4 * 16 + second.toNat / 16) ::
        digit (second.toNat % 16 * 4 + third.toNat / 64) :: digit (third.toNat % 64) ::
          encode rest

/-- The bytes of a text; a single digit at the end is no byte. -/
def decode : Text → Option (List UInt8)
  | [] => some []
  | [_] => none
  | [first, second] => do
      let high ← digit? first
      let low ← digit? second
      return [UInt8.ofNat (high * 4 + low / 16)]
  | [first, second, third] => do
      let high ← digit? first
      let middle ← digit? second
      let low ← digit? third
      return [UInt8.ofNat (high * 4 + middle / 16), UInt8.ofNat (middle % 16 * 16 + low / 4)]
  | first :: second :: third :: fourth :: rest => do
      let high ← digit? first
      let upper ← digit? second
      let lower ← digit? third
      let low ← digit? fourth
      let bytes ← decode rest
      return UInt8.ofNat (high * 4 + upper / 16) :: UInt8.ofNat (upper % 16 * 16 + lower / 4) ::
        UInt8.ofNat (lower % 4 * 64 + low) :: bytes

/-- The bytes of a text that is written for them. -/
def decodeCanonical (text : Text) : Option (List UInt8) := do
  let bytes ← decode text
  if encode bytes = text then some bytes else none

/-- A text of some bytes is made of digits. -/
theorem digit_of_mem {bytes : List UInt8} {character : Char} (among : character ∈ encode bytes) :
    ∃ value, value < 64 ∧ character = digit value := by
  induction bytes using encode.induct with
  | case1 => cases among
  | case2 first =>
      have bound := first.toNat_lt
      simp only [encode, List.mem_cons, List.not_mem_nil, or_false] at among
      rcases among with rfl | rfl
      · exact ⟨_, by omega, rfl⟩
      · exact ⟨_, by omega, rfl⟩
  | case3 first second =>
      have bound := first.toNat_lt
      have bound' := second.toNat_lt
      simp only [encode, List.mem_cons, List.not_mem_nil, or_false] at among
      rcases among with rfl | rfl | rfl
      · exact ⟨_, by omega, rfl⟩
      · exact ⟨_, by omega, rfl⟩
      · exact ⟨_, by omega, rfl⟩
  | case4 first second third rest ih =>
      have bound := first.toNat_lt
      have bound' := second.toNat_lt
      have bound'' := third.toNat_lt
      simp only [encode, List.mem_cons] at among
      rcases among with rfl | rfl | rfl | rfl | later
      · exact ⟨_, by omega, rfl⟩
      · exact ⟨_, by omega, rfl⟩
      · exact ⟨_, by omega, rfl⟩
      · exact ⟨_, by omega, rfl⟩
      · exact ih later

/-- Three bytes take four digits. -/
theorem length_encode (bytes : List UInt8) : 3 * (encode bytes).length ≤ 4 * bytes.length + 2 := by
  induction bytes using encode.induct with
  | case1 => decide
  | case2 first => simp [encode]
  | case3 first second => simp [encode]
  | case4 first second third rest ih =>
      simp only [encode, List.length_cons]
      omega

/-! ## Round trip -/

/-- A byte is the byte of its own number. -/
theorem ofNat_eq {byte : UInt8} {value : Nat} (same : value = byte.toNat) :
    UInt8.ofNat value = byte := by
  rw [same]
  exact UInt8.ofNat_toNat

/-- What is written is read back. -/
theorem decode_encode (bytes : List UInt8) : decode (encode bytes) = some bytes := by
  induction bytes using encode.induct with
  | case1 => rfl
  | case2 first =>
      have bound := first.toNat_lt
      rw [encode, decode, digit_digit (by omega), digit_digit (by omega)]
      have whole : UInt8.ofNat (first.toNat / 4 * 4 + first.toNat % 4 * 16 / 16) = first :=
        ofNat_eq (by omega)
      exact congrArg (fun byte => some [byte]) whole
  | case3 first second =>
      have bound := first.toNat_lt
      have bound' := second.toNat_lt
      rw [encode, decode, digit_digit (by omega), digit_digit (by omega), digit_digit (by omega)]
      have whole : UInt8.ofNat (first.toNat / 4 * 4 +
          (first.toNat % 4 * 16 + second.toNat / 16) / 16) = first := ofNat_eq (by omega)
      have whole' : UInt8.ofNat ((first.toNat % 4 * 16 + second.toNat / 16) % 16 * 16 +
          second.toNat % 16 * 4 / 4) = second := ofNat_eq (by omega)
      simp only [Option.bind_eq_bind, Option.bind_some, Option.pure_def, whole, whole']
  | case4 first second third rest ih =>
      have bound := first.toNat_lt
      have bound' := second.toNat_lt
      have bound'' := third.toNat_lt
      rw [encode, decode, digit_digit (by omega), digit_digit (by omega), digit_digit (by omega),
        digit_digit (by omega), ih]
      have whole : UInt8.ofNat (first.toNat / 4 * 4 +
          (first.toNat % 4 * 16 + second.toNat / 16) / 16) = first := ofNat_eq (by omega)
      have whole' : UInt8.ofNat ((first.toNat % 4 * 16 + second.toNat / 16) % 16 * 16 +
          (second.toNat % 16 * 4 + third.toNat / 64) / 4) = second := ofNat_eq (by omega)
      have whole'' : UInt8.ofNat ((second.toNat % 16 * 4 + third.toNat / 64) % 4 * 64 +
          third.toNat % 64) = third := ofNat_eq (by omega)
      simp only [Option.bind_eq_bind, Option.bind_some, Option.pure_def, whole, whole', whole'']

/-- The reader that writes again reads what is written. -/
theorem decodeCanonical_encode (bytes : List UInt8) :
    decodeCanonical (encode bytes) = some bytes := by
  unfold decodeCanonical
  rw [decode_encode]
  exact if_pos rfl

end Base64
end ReproItSdk
