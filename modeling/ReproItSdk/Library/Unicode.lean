import Mathlib.Data.List.Basic
import Mathlib.Data.List.Lex
import Mathlib.Data.Char

/-! # Unicode encodings of a text and their orders

A text is a list of Unicode scalar values.  Sorting the UTF-8 encodings of texts byte by byte sorts
the texts by code points; sorting their UTF-16 encodings does not.

Main results:

- Theorem {lit}`flatMap_lt`: a code whose words diverge upwards keeps the order of texts.
- Theorem {lit}`utf8_lt_iff`: the byte order of UTF-8 is the order of code points.
- Theorems {lit}`utf8_injective` and {lit}`utf16_injective`: both encodings are unambiguous.
-/

namespace Unicode

/-- A text of Unicode scalar values. -/
abbrev Text : Type :=
  List Char

/-- Equal texts have the same characters. -/
instance instLawfulBEqText : LawfulBEq (List Char) :=
  inferInstance

/-! ## Codes that keep the order -/

section Codes

variable {α β : Type*} [LT α] [LT β]

/-- Two words agree for a while, and then the first one is smaller. -/
def Diverges (left right : List β) : Prop :=
  ∃ front small great leftRest rightRest,
    left = front ++ small :: leftRest ∧ right = front ++ great :: rightRest ∧ small < great

/-- Diverging words stay apart, whatever follows and precedes them. -/
theorem Diverges.lt {left right : List β} (diverges : Diverges left right)
    (front leftRest rightRest : List β) :
    front ++ (left ++ leftRest) < front ++ (right ++ rightRest) := by
  obtain ⟨shared, small, great, after, others, rfl, rfl, less⟩ := diverges
  rw [← List.append_assoc, ← List.append_assoc, ← List.append_assoc, ← List.append_assoc]
  induction front ++ shared with
  | nil => exact List.Lex.rel less
  | cons item items ih => exact List.Lex.cons ih

/-- A code whose words are not empty and diverge upwards keeps the lexicographic order. -/
theorem flatMap_lt {encode : α → List β} (inhabited : ∀ item, encode item ≠ [])
    (diverges : ∀ left right, left < right → Diverges (encode left) (encode right))
    {left right : List α} (less : left < right) :
    left.flatMap encode < right.flatMap encode := by
  induction less with
  | nil =>
      rename_i item items
      rw [List.flatMap_nil, List.flatMap_cons]
      cases word : encode item with
      | nil => exact absurd word (inhabited item)
      | cons unit units => exact List.Lex.nil
  | cons _ ih =>
      rw [List.flatMap_cons, List.flatMap_cons]
      rename_i item _ _ _
      induction encode item with
      | nil => exact ih
      | cons unit units ih => exact List.Lex.cons ih
  | rel smaller =>
      rw [List.flatMap_cons, List.flatMap_cons]
      exact (diverges _ _ smaller).lt [] _ _

end Codes

/-! ## UTF-8 -/

/-- Bytes compare as the numbers they stand for. -/
instance instLinearOrderUInt8 : LinearOrder UInt8 where
  le_refl := fun _ => UInt8.le_refl _
  le_trans := fun _ _ _ => UInt8.le_trans
  le_antisymm := fun _ _ => UInt8.le_antisymm
  lt_iff_le_not_ge := fun left right => @lt_iff_le_not_ge Nat _ left.toNat right.toNat
  le_total := UInt8.le_total
  toDecidableLE := inferInstance
  toDecidableEq := inferInstance
  toDecidableLT := inferInstance

/-- UTF-8 encoding of a text. -/
def utf8 (text : Text) : List UInt8 :=
  text.flatMap String.utf8EncodeChar

/-- The order of small numbers is the order of their bytes. -/
theorem ofNat_lt {small great : Nat} (less : small < great) (byte : great < 256) :
    UInt8.ofNat small < UInt8.ofNat great := by
  rw [UInt8.lt_iff_toNat_lt, UInt8.toNat_ofNat', UInt8.toNat_ofNat']
  omega

/-- Scalar values are less than {lit}`0x110000`. -/
theorem toNat_lt (character : Char) : character.val.toNat < 1114112 := by
  have valid := character.valid
  simp only [UInt32.isValidChar, Nat.isValidChar] at valid
  omega

/-- The encodings of characters diverge upwards. -/
theorem utf8EncodeChar_diverges {left right : Char} (less : left < right) :
    Diverges (String.utf8EncodeChar left) (String.utf8EncodeChar right) := by
  have bound := toNat_lt right
  have less : left.val.toNat < right.val.toNat := less
  have first {leftByte rightByte : Nat} (smaller : leftByte < rightByte) (byte : rightByte < 256)
      (leftRest rightRest : List UInt8) :
      Diverges (UInt8.ofNat leftByte :: leftRest) (UInt8.ofNat rightByte :: rightRest) :=
    ⟨[], _, _, leftRest, rightRest, rfl, rfl, ofNat_lt smaller byte⟩
  have later {leftByte rightByte : Nat} (same : leftByte = rightByte)
      {leftRest rightRest : List UInt8} (diverges : Diverges leftRest rightRest) :
      Diverges (UInt8.ofNat leftByte :: leftRest) (UInt8.ofNat rightByte :: rightRest) := by
    subst same
    obtain ⟨front, small, great, after, others, rfl, rfl, smaller⟩ := diverges
    exact ⟨_ :: front, small, great, after, others, rfl, rfl, smaller⟩
  unfold String.utf8EncodeChar
  dsimp only
  split
  · split
    · exact first less (by omega) _ _
    · split
      · exact first (by omega) (by omega) _ _
      · split
        · exact first (by omega) (by omega) _ _
        · exact first (by omega) (by omega) _ _
  · split
    · split
      · omega
      · split
        · by_cases high : left.val.toNat / 64 < right.val.toNat / 64
          · exact first (by omega) (by omega) _ _
          · exact later (by omega) (first (by omega) (by omega) _ _)
        · split
          · exact first (by omega) (by omega) _ _
          · exact first (by omega) (by omega) _ _
    · split
      · split
        · omega
        · split
          · omega
          · split
            · by_cases high : left.val.toNat / 4096 < right.val.toNat / 4096
              · exact first (by omega) (by omega) _ _
              · by_cases middle : left.val.toNat / 64 < right.val.toNat / 64
                · exact later (by omega) (first (by omega) (by omega) _ _)
                · exact later (by omega) (later (by omega) (first (by omega) (by omega) _ _))
            · exact first (by omega) (by omega) _ _
      · split
        · omega
        · split
          · omega
          · split
            · omega
            · by_cases high : left.val.toNat / 262144 < right.val.toNat / 262144
              · exact first (by omega) (by omega) _ _
              · by_cases middle : left.val.toNat / 4096 < right.val.toNat / 4096
                · exact later (by omega) (first (by omega) (by omega) _ _)
                · by_cases low : left.val.toNat / 64 < right.val.toNat / 64
                  · exact later (by omega) (later (by omega) (first (by omega) (by omega) _ _))
                  · exact later (by omega) (later (by omega)
                      (later (by omega) (first (by omega) (by omega) _ _)))

/-- A character has at least one byte. -/
theorem utf8EncodeChar_ne_nil (character : Char) : String.utf8EncodeChar character ≠ [] := by
  intro empty
  have size := String.length_utf8EncodeChar character
  rw [empty] at size
  exact absurd size.symm (Nat.ne_of_gt character.utf8Size_pos)

/-- UTF-8 keeps the order of code points. -/
theorem utf8_lt {left right : Text} (less : left < right) : utf8 left < utf8 right :=
  flatMap_lt utf8EncodeChar_ne_nil (fun _ _ => utf8EncodeChar_diverges) less

/-- The byte order of UTF-8 is the order of code points. -/
theorem utf8_lt_iff (left right : Text) : utf8 left < utf8 right ↔ left < right := by
  refine ⟨fun less => ?_, utf8_lt⟩
  rcases lt_trichotomy left right with below | rfl | above
  · exact below
  · exact absurd less (List.lt_irrefl _)
  · exact absurd (utf8_lt above) (List.lt_asymm less)

/-- The text of some bytes, where they are valid UTF-8. -/
def decodeUtf8 (bytes : List UInt8) : Option Text :=
  bytes.toByteArray.utf8Decode?.map Array.toList

/-- Encoded texts are valid and are decoded as they were. -/
theorem decodeUtf8_utf8 (text : Text) : decodeUtf8 (utf8 text) = some text := by
  have decoded := List.utf8Decode?_utf8Encode (l := text)
  rw [List.utf8Encode] at decoded
  rw [decodeUtf8, utf8, decoded]
  rfl

/-- UTF-8 is unambiguous. -/
theorem utf8_injective : Function.Injective utf8 := by
  intro left right same
  have decoded := decodeUtf8_utf8 left
  rw [same, decodeUtf8_utf8] at decoded
  exact (Option.some.inj decoded).symm

/-! ## UTF-16 -/

/-- UTF-16 code units of a character. -/
def utf16Units (character : Char) : List Nat :=
  let value := character.val.toNat
  if value < 65536 then [value]
  else [55296 + (value - 65536) / 1024, 56320 + (value - 65536) % 1024]

/-- UTF-16 encoding of a text. -/
def utf16 (text : Text) : List Nat :=
  text.flatMap utf16Units

/-- The text of some code units; a surrogate without its other half is replaced. -/
def decodeUtf16 : List Nat → Text
  | [] => []
  | high :: low :: rest =>
      if 55296 ≤ high ∧ high < 56320 ∧ 56320 ≤ low ∧ low < 57344 then
        Char.ofNat (65536 + (high - 55296) * 1024 + (low - 56320)) :: decodeUtf16 rest
      else if 55296 ≤ high ∧ high < 57344 then '\uFFFD' :: decodeUtf16 (low :: rest)
      else Char.ofNat high :: decodeUtf16 (low :: rest)
  | [last] =>
      if 55296 ≤ last ∧ last < 57344 then ['\uFFFD'] else [Char.ofNat last]

/-- The units of one character can be told from what follows. -/
theorem utf16Units_append {left right : Char} {leftRest rightRest : List Nat}
    (same : utf16Units left ++ leftRest = utf16Units right ++ rightRest) :
    left = right ∧ leftRest = rightRest := by
  have leftValid := left.valid
  have rightValid := right.valid
  simp only [UInt32.isValidChar, Nat.isValidChar] at leftValid rightValid
  have equal (values : left.val.toNat = right.val.toNat) : left = right :=
    Char.ext (UInt32.toNat_inj.mp values)
  unfold utf16Units at same
  dsimp only at same
  split at same <;> split at same <;>
    simp only [List.cons_append, List.nil_append, List.cons.injEq] at same
  · exact ⟨equal same.1, same.2⟩
  · omega
  · omega
  · exact ⟨equal (by omega), same.2.2⟩

/-- UTF-16 is unambiguous. -/
theorem utf16_injective : Function.Injective utf16 := by
  intro left
  induction left with
  | nil =>
      intro right same
      cases right with
      | nil => rfl
      | cons character right =>
          unfold utf16 utf16Units at same
          rw [List.flatMap_cons] at same
          dsimp only at same
          split at same <;> cases same
  | cons character left ih =>
      intro right same
      cases right with
      | nil =>
          unfold utf16 utf16Units at same
          rw [List.flatMap_cons] at same
          dsimp only at same
          split at same <;> cases same
      | cons other right =>
          obtain ⟨rfl, rest⟩ := utf16Units_append same
          rw [ih rest]

end Unicode
