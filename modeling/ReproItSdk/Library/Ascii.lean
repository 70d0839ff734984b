import ReproItSdk.Library.Unicode

/-! # ASCII characters within UTF-8

A byte below 128 stands for one character wherever it occurs, so the place of an ASCII character in
the bytes of a text is a place between characters.

Main results:

- Theorem {lit}`decodeUtf8_eq_some_iff`: the bytes that decode to a text are those of the text.
- Theorem {lit}`split_at_ascii`: the bytes of a text are cut before an ASCII character into the
  bytes of two texts.
-/

namespace Unicode

/-- The bytes that decode to a text are those of the text. -/
theorem decodeUtf8_eq_some_iff {bytes : List UInt8} {text : Text} :
    decodeUtf8 bytes = some text ↔ bytes = utf8 text := by
  constructor
  · intro decoded
    unfold decodeUtf8 at decoded
    rw [Option.map_eq_some_iff] at decoded
    obtain ⟨characters, read, rfl⟩ := decoded
    have valid : bytes.toByteArray.utf8Decode?.isSome := by simp [read]
    obtain ⟨other, whole⟩ := ByteArray.isSome_utf8Decode?_iff.mp valid
    have same : bytes = utf8 other := by
      have listed : bytes.toByteArray = (utf8 other).toByteArray := by
        rw [whole, List.utf8Encode, utf8]
      exact List.toByteArray_inj.mp listed
    have again := decodeUtf8_utf8 other
    rw [← same, decodeUtf8, read] at again
    rw [same, ← Option.some.inj again]
  · rintro rfl
    exact decodeUtf8_utf8 text

/-- The bytes of texts one after the other. -/
@[simp] theorem utf8_append (left right : Text) : utf8 (left ++ right) = utf8 left ++ utf8 right :=
  List.flatMap_append

/-- The bytes of a text with one more character. -/
theorem utf8_cons (character : Char) (text : Text) :
    utf8 (character :: text) = String.utf8EncodeChar character ++ utf8 text :=
  rfl

/-- A character whose code is below 128. -/
def Ascii (character : Char) : Prop :=
  character.val.toNat < 128

instance (character : Char) : Decidable (Ascii character) :=
  inferInstanceAs (Decidable (_ < _))

/-- An ASCII character is one byte. -/
theorem utf8EncodeChar_ascii {character : Char} (ascii : Ascii character) :
    String.utf8EncodeChar character = [UInt8.ofNat character.val.toNat] := by
  unfold Ascii at ascii
  unfold String.utf8EncodeChar
  dsimp only
  rw [if_pos (by omega)]

/-- A byte below 128 is all of its character. -/
theorem ascii_of_mem {character : Char} {byte : UInt8} (small : byte.toNat < 128)
    (among : byte ∈ String.utf8EncodeChar character) :
    Ascii character ∧ byte = UInt8.ofNat character.val.toNat := by
  have bound := toNat_lt character
  unfold String.utf8EncodeChar at among
  dsimp only at among
  have large (value : Nat) (least : 128 ≤ value) (most : value < 256) :
      byte ≠ UInt8.ofNat value := by
    rintro rfl
    rw [UInt8.toNat_ofNat_of_lt' most] at small
    omega
  split at among
  · rename_i few
    exact ⟨by unfold Ascii; omega, by simpa using among⟩
  · split at among
    · simp only [List.mem_cons, List.not_mem_nil, or_false] at among
      rcases among with rfl | rfl
      · exact absurd rfl (large _ (by omega) (by omega))
      · exact absurd rfl (large _ (by omega) (by omega))
    · split at among
      · simp only [List.mem_cons, List.not_mem_nil, or_false] at among
        rcases among with rfl | rfl | rfl
        · exact absurd rfl (large _ (by omega) (by omega))
        · exact absurd rfl (large _ (by omega) (by omega))
        · exact absurd rfl (large _ (by omega) (by omega))
      · simp only [List.mem_cons, List.not_mem_nil, or_false] at among
        rcases among with rfl | rfl | rfl | rfl
        · exact absurd rfl (large _ (by omega) (by omega))
        · exact absurd rfl (large _ (by omega) (by omega))
        · exact absurd rfl (large _ (by omega) (by omega))
        · exact absurd rfl (large _ (by omega) (by omega))

/-- The bytes of a text are cut before an ASCII character into the bytes of two texts. -/
theorem split_at_ascii {text : Text} {before after : List UInt8} {character : Char}
    (ascii : Ascii character)
    (whole : utf8 text = before ++ UInt8.ofNat character.val.toNat :: after) :
    ∃ front rest, text = front ++ character :: rest ∧ utf8 front = before ∧ utf8 rest = after := by
  have small : (UInt8.ofNat character.val.toNat).toNat < 128 := by
    unfold Ascii at ascii
    rw [UInt8.toNat_ofNat_of_lt' (Nat.lt_trans ascii (by decide))]
    exact ascii
  induction text generalizing before with
  | nil => simp [utf8] at whole
  | cons head text ih =>
      rw [utf8_cons, List.append_eq_append_iff] at whole
      rcases whole with ⟨later, placed, remains⟩ | ⟨later, placed, remains⟩
      · obtain ⟨front, rest, rfl, fronted, rested⟩ := ih remains
        exact ⟨head :: front, rest, rfl, by rw [utf8_cons, fronted, placed], rested⟩
      · cases later with
        | nil =>
            have here : utf8 text = [] ++ UInt8.ofNat character.val.toNat :: after := by
              simpa using remains.symm
            obtain ⟨front, rest, rfl, fronted, rested⟩ := ih here
            refine ⟨head :: front, rest, rfl, ?_, rested⟩
            rw [utf8_cons, fronted, List.append_nil]
            simpa using placed
        | cons byte later =>
            -- the byte lies in the first character, which is then that byte alone
            rw [List.cons_append, List.cons.injEq] at remains
            obtain ⟨rfl, rested⟩ := remains
            have among : UInt8.ofNat character.val.toNat ∈ String.utf8EncodeChar head := by
              simp [placed]
            obtain ⟨alone, same⟩ := ascii_of_mem small among
            rw [utf8EncodeChar_ascii alone, ← same] at placed
            have single := congrArg List.length placed
            simp only [List.length_cons, List.length_nil, List.length_append] at single
            have none : before = [] := List.eq_nil_of_length_eq_zero (by omega)
            have nothing : later = [] := List.eq_nil_of_length_eq_zero (by omega)
            subst none
            subst nothing
            have equal : head = character := by
              have encoded : utf8 [head] = utf8 [character] := by
                rw [utf8_cons, utf8_cons, utf8EncodeChar_ascii alone, utf8EncodeChar_ascii ascii,
                  same]
              simpa using utf8_injective encoded
            subst equal
            exact ⟨[], text, rfl, rfl, by simpa using rested.symm⟩

/-- A text whose bytes end with those of an ASCII text ends with that text. -/
theorem suffix_of_ascii {text word : Text} (ascii : ∀ character ∈ word, Ascii character)
    (ends : utf8 word <:+ utf8 text) : word <:+ text := by
  cases word with
  | nil => exact List.nil_suffix
  | cons character word =>
      obtain ⟨before, whole⟩ := ends
      have first : Ascii character := ascii character (by simp)
      rw [utf8_cons, utf8EncodeChar_ascii first] at whole
      obtain ⟨front, rest, rfl, -, rested⟩ := split_at_ascii first whole.symm
      rw [utf8_injective rested]
      exact List.suffix_append _ _

end Unicode
