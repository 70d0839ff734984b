import Mathlib.Data.Nat.Basic
import Mathlib.Tactic.IntervalCases
import ReproItSdk.Library.Unicode

/-! # Decimal digits of integers

Main results:

- Theorem {lit}`decimal_injective`: different integers have different digits.
- Theorem {lit}`toDigits_ne_zero_head`: the digits of a positive number do not start with a zero.
-/

namespace Decimal

open Unicode

/-- Decimal digits of an integer, after a minus sign where it is negative. -/
def decimal (value : Int) : Text :=
  if value < 0 then '-' :: Nat.toDigits 10 value.natAbs else Nat.toDigits 10 value.natAbs

/-- Digits of a number are decimal digits. -/
theorem isDigit_of_mem {value : Nat} {digit : Char} (among : digit ∈ Nat.toDigits 10 value) :
    digit.isDigit = true :=
  Nat.isDigit_of_mem_toDigits (by decide) (by decide) among

/-- The digits of a positive number do not start with a zero. -/
theorem toDigits_ne_zero_head {value : Nat} (positive : 0 < value) :
    ∃ first rest, Nat.toDigits 10 value = first :: rest ∧ first ≠ '0' := by
  induction value using Nat.strongRecOn with
  | ind value ih =>
      by_cases small : value < 10
      · refine ⟨_, _, Nat.toDigits_of_lt_base small, ?_⟩
        rw [ne_eq, Nat.digitChar_eq_zero]
        omega
      · obtain ⟨first, rest, digits, nonzero⟩ := ih (value / 10) (by omega) (by omega)
        refine ⟨first, rest ++ [Nat.digitChar (value % 10)], ?_, nonzero⟩
        rw [Nat.toDigits_of_base_le (by decide) (Nat.not_lt.mp small), digits, List.cons_append]

/-- Digits say which number they were written for. -/
theorem toDigits_injective : Function.Injective (Nat.toDigits 10) := by
  intro left right same
  have value := congrArg (fun digits => Nat.ofDigitChars 10 digits 0) same
  simpa using value

/-- The first digit is not a sign. -/
theorem toDigits_ne_minus (value : Nat) (rest : Text) : Nat.toDigits 10 value ≠ '-' :: rest := by
  intro digits
  have among : '-' ∈ Nat.toDigits 10 value := by simp [digits]
  exact absurd (isDigit_of_mem among) (by decide)

/-- Different integers have different digits. -/
theorem decimal_injective : Function.Injective decimal := by
  intro left right same
  unfold decimal at same
  split at same <;> split at same
  · have := toDigits_injective (List.cons.inj same).2
    omega
  · exact absurd same.symm (toDigits_ne_minus _ _)
  · exact absurd same (toDigits_ne_minus _ _)
  · have := toDigits_injective same
    omega

end Decimal
