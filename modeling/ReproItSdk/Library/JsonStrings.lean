import Mathlib.Tactic.IntervalCases
import ReproItSdk.Library.Unicode

/-! # Strings of a JSON text

The shortest way to write a string escapes the quotation mark, the reverse solidus and the control
characters, and nothing else.

Main results:

- Theorem {lit}`hexadecimal_eq`: four hexadecimal digits say which number they were written for.
- Theorem {lit}`escapeCharacter_cases`: a character is written as itself, with a letter after the
  reverse solidus, or with four hexadecimal digits.
-/

namespace Json

open Unicode

/-! ## Hexadecimal digits -/

/-- Four hexadecimal digits of a number, in small letters. -/
def hexadecimal (value : Nat) : Text :=
  [Nat.digitChar (value / 4096 % 16), Nat.digitChar (value / 256 % 16),
    Nat.digitChar (value / 16 % 16), Nat.digitChar (value % 16)]

/-- Value of a hexadecimal digit in either case. -/
def hexadecimalDigit? (digit : Char) : Option Nat :=
  if '0' ≤ digit ∧ digit ≤ '9' then some (digit.toNat - 48)
  else if 'a' ≤ digit ∧ digit ≤ 'f' then some (digit.toNat - 87)
  else if 'A' ≤ digit ∧ digit ≤ 'F' then some (digit.toNat - 55)
  else none

/-- Value of four hexadecimal digits. -/
def hexadecimal? (first second third fourth : Char) : Option Nat := do
  let first ← hexadecimalDigit? first
  let second ← hexadecimalDigit? second
  let third ← hexadecimalDigit? third
  let fourth ← hexadecimalDigit? fourth
  return first * 4096 + second * 256 + third * 16 + fourth

/-- A digit says which number it was written for. -/
theorem hexadecimalDigit_digitChar {value : Nat} (small : value < 16) :
    hexadecimalDigit? (Nat.digitChar value) = some value := by
  interval_cases value <;> decide

/-- Four digits say which number they were written for. -/
theorem hexadecimal_eq {value : Nat} (small : value < 65536) :
    hexadecimal? (Nat.digitChar (value / 4096 % 16)) (Nat.digitChar (value / 256 % 16))
      (Nat.digitChar (value / 16 % 16)) (Nat.digitChar (value % 16)) = some value := by
  unfold hexadecimal?
  rw [hexadecimalDigit_digitChar (Nat.mod_lt _ (by decide)),
    hexadecimalDigit_digitChar (Nat.mod_lt _ (by decide)),
    hexadecimalDigit_digitChar (Nat.mod_lt _ (by decide)),
    hexadecimalDigit_digitChar (Nat.mod_lt _ (by decide))]
  simp only [Option.bind_eq_bind, Option.bind_some, Option.pure_def, Option.some.injEq]
  omega

/-- Different numbers have different digits. -/
theorem eq_of_hexadecimal_eq {value other : Nat} (small : value < 65536) (small' : other < 65536)
    (same : hexadecimal value = hexadecimal other) : value = other := by
  simp only [hexadecimal, List.cons.injEq, and_true] at same
  have read := hexadecimal_eq small
  rw [same.1, same.2.1, same.2.2.1, same.2.2.2, hexadecimal_eq small'] at read
  exact (Option.some.inj read).symm

/-! ## Escapes -/

/-- Escape of a character of the basic plane by its code. -/
def unicodeEscape (character : Char) : Text :=
  '\\' :: 'u' :: hexadecimal character.toNat

/-- Letter that stands after the reverse solidus for a character that has one. -/
def shortEscape? (character : Char) : Option Char :=
  if character = '\"' then some '\"'
  else if character = '\\' then some '\\'
  else if character = '\x08' then some 'b'
  else if character = '\x09' then some 't'
  else if character = '\x0a' then some 'n'
  else if character = '\x0c' then some 'f'
  else if character = '\x0d' then some 'r'
  else none

/-- A character as it stands in a string. -/
def escapeCharacter (character : Char) : Text :=
  match shortEscape? character with
  | some letter => ['\\', letter]
  | none => if character.toNat < 32 then unicodeEscape character else [character]

/-- A text as it stands in a string. -/
def escape (text : Text) : Text :=
  text.flatMap escapeCharacter

/-- String for a text. -/
def quote (text : Text) : Text :=
  '\"' :: escape text ++ ['\"']

/-- How a character stands in a string. -/
inductive Escaped (character : Char) : Text → Prop
  | plain (printable : 32 ≤ character.toNat) (noQuote : character ≠ '\"')
      (noSolidus : character ≠ '\\') : Escaped character [character]
  | short (letter : Char) (written : shortEscape? character = some letter) :
      Escaped character ['\\', letter]
  | code (control : character.toNat < 32) : Escaped character (unicodeEscape character)

/-- Printable characters but two are written as they are. -/
theorem escapeCharacter_plain {character : Char} (printable : 32 ≤ character.toNat)
    (noQuote : character ≠ '\"') (noSolidus : character ≠ '\\') :
    escapeCharacter character = [character] := by
  have apart (control : Char) (small : control.toNat < 32) : character ≠ control := by
    rintro rfl
    omega
  have noShort : shortEscape? character = none := by
    rw [shortEscape?, if_neg noQuote, if_neg noSolidus, if_neg (apart _ (by decide)),
      if_neg (apart _ (by decide)), if_neg (apart _ (by decide)), if_neg (apart _ (by decide)),
      if_neg (apart _ (by decide))]
  rw [escapeCharacter, noShort]
  exact if_neg (Nat.not_lt.mpr printable)

/-- Letters of short escapes are not the one of an escape by a code, and the reverse solidus stands
for itself. -/
theorem shortEscape_letter {character letter : Char}
    (written : shortEscape? character = some letter) :
    letter ≠ 'u' ∧ (letter = '\\' → character = '\\') := by
  unfold shortEscape? at written
  split_ifs at written <;> simp_all <;> subst written <;> decide

/-- Hexadecimal digits are not the reverse solidus. -/
theorem solidus_notMem_hexadecimal (value : Nat) : '\\' ∉ hexadecimal value := by
  have other (digit : Nat) : '\\' ≠ Nat.digitChar (digit % 16) := by
    intro same
    have read := hexadecimalDigit_digitChar (Nat.mod_lt digit (by decide : 0 < 16))
    rw [← same] at read
    exact absurd read (by simp [hexadecimalDigit?])
  simp [hexadecimal, other]

/-- A character is written as itself, with a letter after the reverse solidus, or with four
hexadecimal digits. -/
theorem escapeCharacter_cases (character : Char) :
    Escaped character (escapeCharacter character) := by
  unfold escapeCharacter
  cases letter : shortEscape? character with
  | some written => exact .short written letter
  | none =>
      dsimp only
      split
      case isTrue control => exact .code control
      case isFalse printable =>
        refine .plain (Nat.not_lt.mp printable) ?_ ?_
        · rintro rfl
          exact absurd letter (by decide)
        · rintro rfl
          exact absurd letter (by decide)

end Json
