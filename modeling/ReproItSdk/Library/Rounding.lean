import Mathlib.Algebra.Order.Floor.Ring
import Mathlib.Data.Int.Log
import Mathlib.Data.Rat.Floor
import Mathlib.Tactic.FieldSimp
import Mathlib.Tactic.Linarith
import Mathlib.Tactic.NormNum
import Mathlib.Tactic.Ring

/-! # Rounding to the nearest number

Numbers with a significand of some bits are multiples of a unit that depends on the power of two
below them.  A rational number is rounded to the nearest such number, and to the one with an even
significand if two are equally near.  Exponents are not bounded.

Main definitions:

- Function {lit}`roundEven`: the nearest integer, an even one of two.
- Function {lit}`toNearest`: the nearest number with a significand of some bits.

Main results:

- Theorem {lit}`toNearest_intCast`: an integer that is less than half a unit away is the nearest
  number, and one that is more than half a unit away is not.
-/

namespace Rounding

/-! ## Integers -/

/-- The nearest integer, of two equally near ones the even one. -/
def roundEven (value : ℚ) : ℤ :=
  if value - ⌊value⌋ < 1 / 2 then ⌊value⌋
  else if 1 / 2 < value - ⌊value⌋ then ⌊value⌋ + 1
  else if ⌊value⌋ % 2 = 0 then ⌊value⌋
  else ⌊value⌋ + 1

/-- The nearest integer is at most one half away. -/
theorem abs_roundEven_sub_le (value : ℚ) : |(roundEven value : ℚ) - value| ≤ 1 / 2 := by
  have below := Int.floor_le value
  have above := Int.lt_floor_add_one value
  unfold roundEven
  rw [abs_le]
  split
  · constructor <;> linarith
  · split
    · push_cast
      constructor <;> linarith
    · split
      · constructor <;> linarith
      · push_cast
        constructor <;> linarith

/-- An integer that is less than one half away is the nearest. -/
theorem roundEven_eq_of_near {value : ℚ} {number : ℤ} (near : |value - number| < 1 / 2) :
    roundEven value = number := by
  have rounded := abs_roundEven_sub_le value
  rw [abs_lt] at near
  rw [abs_le] at rounded
  have low : (roundEven value : ℚ) - number < 1 := by linarith
  have high : (-1 : ℚ) < (roundEven value : ℚ) - number := by linarith
  have low' : roundEven value - number < 1 := by exact_mod_cast low
  have high' : -1 < roundEven value - number := by exact_mod_cast high
  omega

/-- An integer that is more than one half away is not the nearest. -/
theorem roundEven_ne_of_far {value : ℚ} {number : ℤ} (far : 1 / 2 < |value - number|) :
    roundEven value ≠ number := by
  rintro rfl
  have rounded := abs_roundEven_sub_le value
  rw [abs_sub_comm] at rounded
  exact absurd rounded (not_le.mpr far)

/-- The nearest integer to the opposite number. -/
theorem roundEven_neg (value : ℚ) : roundEven (-value) = -roundEven value := by
  have below := Int.floor_le value
  have above := Int.lt_floor_add_one value
  by_cases tie : value - ⌊value⌋ = 1 / 2
  · have opposite : ⌊-value⌋ = -⌊value⌋ - 1 := by
      rw [Int.floor_eq_iff]
      push_cast
      constructor <;> linarith
    unfold roundEven
    rw [opposite]
    have excess : -value - ((-⌊value⌋ - 1 : ℤ) : ℚ) = 1 / 2 := by
      push_cast
      linarith
    rw [excess, tie, if_neg (lt_irrefl _), if_neg (lt_irrefl _), if_neg (lt_irrefl _),
      if_neg (lt_irrefl _)]
    split <;> split <;> omega
  · apply roundEven_eq_of_near
    have near : |value - roundEven value| < 1 / 2 := by
      unfold roundEven
      rw [abs_lt]
      split
      · constructor <;> linarith
      · rename_i notBelow
        have beyond := lt_of_le_of_ne (not_lt.mp notBelow) (Ne.symm tie)
        rw [if_pos beyond]
        push_cast
        constructor <;> linarith
    have same : -value - ((-roundEven value : ℤ) : ℚ) = -(value - roundEven value) := by
      push_cast
      ring
    rw [same, abs_neg]
    exact near

/-- How far the nearest integer is from a fraction. -/
theorem abs_roundEven_sub (quotient : ℤ) {rest divisor : ℚ} (nonneg : 0 ≤ rest)
    (fraction : rest < divisor) :
    |(roundEven (quotient + rest / divisor) : ℚ) - (quotient + rest / divisor)| =
      min rest (divisor - rest) / divisor := by
  have positive : 0 < divisor := lt_of_le_of_lt nonneg fraction
  have low : 0 ≤ rest / divisor := div_nonneg nonneg positive.le
  have high : rest / divisor < 1 := (div_lt_one positive).mpr fraction
  have floor : ⌊(quotient : ℚ) + rest / divisor⌋ = quotient := by
    rw [Int.floor_eq_iff]
    constructor <;> linarith
  have complement : (divisor - rest) / divisor = 1 - rest / divisor := by
    rw [sub_div, div_self positive.ne']
  rw [← min_div_div_right positive.le, complement]
  unfold roundEven
  rw [floor, add_sub_cancel_left]
  split
  · rename_i below
    rw [min_eq_left (by linarith), abs_sub_comm, add_sub_cancel_left, abs_of_nonneg low]
  · rename_i notBelow
    have up : |((quotient + 1 : ℤ) : ℚ) - (quotient + rest / divisor)| = 1 - rest / divisor := by
      push_cast
      rw [abs_of_nonneg (by linarith)]
      ring
    rw [not_lt] at notBelow
    rw [min_eq_right (by linarith)]
    split
    · exact up
    · rename_i notAbove
      have half : rest / divisor = 1 / 2 := le_antisymm (not_lt.mp notAbove) notBelow
      split
      · rw [abs_sub_comm, add_sub_cancel_left, abs_of_nonneg low]
        linarith
      · exact up

/-! ## Numbers with a significand of some bits -/

/-- Distance of neighbouring numbers above the power of two below a value. -/
def unit (bits : ℕ) (value : ℚ) : ℚ :=
  2 ^ (Int.log 2 |value| - (bits - 1 : ℤ))

/-- The nearest number with a significand of some bits, of two equally near ones the one with the
even significand. -/
def toNearest (bits : ℕ) (value : ℚ) : ℚ :=
  if value = 0 then 0 else roundEven (value / unit bits value) * unit bits value

/-- Units are positive. -/
theorem unit_pos (bits : ℕ) (value : ℚ) : 0 < unit bits value :=
  zpow_pos (by norm_num) _

/-- The unit of a value between two powers of two. -/
theorem unit_eq {bits : ℕ} {value : ℚ} {exponent : ℤ} (above : 2 ^ exponent ≤ |value|)
    (below : |value| < 2 ^ (exponent + 1)) :
    unit bits value = 2 ^ (exponent - (bits - 1 : ℤ)) := by
  have positive : 0 < |value| := lt_of_lt_of_le (zpow_pos (by norm_num) _) above
  have least : exponent ≤ Int.log 2 |value| :=
    (Int.zpow_le_iff_le_log (by norm_num) positive).mp (by exact_mod_cast above)
  have greatest : Int.log 2 |value| < exponent + 1 :=
    (Int.lt_zpow_iff_log_lt (by norm_num) positive).mp (by exact_mod_cast below)
  have same : Int.log 2 |value| = exponent := by omega
  rw [unit, same]

/-- The nearest number to the opposite value. -/
theorem toNearest_neg (bits : ℕ) (value : ℚ) : toNearest bits (-value) = -toNearest bits value := by
  have same : unit bits (-value) = unit bits value := by rw [unit, unit, abs_neg]
  unfold toNearest
  by_cases zero : value = 0
  · simp [zero]
  · rw [if_neg zero, if_neg (neg_ne_zero.mpr zero), same, neg_div, roundEven_neg]
    push_cast
    ring

section Nearest

variable {bits : ℕ} {value : ℚ} {significand : ℤ}

/-- A multiple of the unit that is less than half a unit away is the nearest number. -/
theorem toNearest_eq_of_near (nonzero : value ≠ 0)
    (near : |value - significand * unit bits value| < unit bits value / 2) :
    toNearest bits value = significand * unit bits value := by
  have positive := unit_pos bits value
  have scaled : |value / unit bits value - significand| < 1 / 2 := by
    have apart : value / unit bits value - significand =
        (value - significand * unit bits value) / unit bits value := by
      field_simp
    rw [apart, abs_div, abs_of_pos positive, div_lt_iff₀ positive]
    linarith
  rw [toNearest, if_neg nonzero, roundEven_eq_of_near scaled]

/-- A multiple of the unit that is more than half a unit away is not the nearest number. -/
theorem toNearest_ne_of_far (nonzero : value ≠ 0)
    (far : unit bits value / 2 < |value - significand * unit bits value|) :
    toNearest bits value ≠ significand * unit bits value := by
  have positive := unit_pos bits value
  have scaled : 1 / 2 < |value / unit bits value - significand| := by
    have apart : value / unit bits value - significand =
        (value - significand * unit bits value) / unit bits value := by
      field_simp
    rw [apart, abs_div, abs_of_pos positive, lt_div_iff₀ positive]
    linarith
  rw [toNearest, if_neg nonzero]
  intro same
  have equal := mul_right_cancel₀ positive.ne' same
  exact roundEven_ne_of_far scaled (by exact_mod_cast equal)

/-- A multiple of its unit is a number itself. -/
theorem toNearest_eq_self (multiple : value = significand * unit bits value) :
    toNearest bits value = value := by
  by_cases zero : value = 0
  · rw [toNearest, if_pos zero, zero]
  · have near : |value - significand * unit bits value| < unit bits value / 2 := by
      rw [← multiple, sub_self, abs_zero]
      exact half_pos (unit_pos bits value)
    rw [toNearest_eq_of_near zero near, ← multiple]

/-- How far the nearest number is from a value that is some units and a fraction of a unit. -/
theorem abs_toNearest_sub {rest divisor : ℚ} (nonzero : value ≠ 0) (nonneg : 0 ≤ rest)
    (fraction : rest < divisor)
    (split_ : value = (significand + rest / divisor) * unit bits value) :
    |toNearest bits value - value| = min rest (divisor - rest) / divisor * unit bits value := by
  have positive := unit_pos bits value
  have quotient : value / unit bits value = significand + rest / divisor :=
    (div_eq_iff positive.ne').mpr split_
  have apart : toNearest bits value - value =
      ((roundEven (significand + rest / divisor) : ℚ) - (significand + rest / divisor)) *
        unit bits value := by
    rw [toNearest, if_neg nonzero, quotient, sub_mul, ← split_]
  rw [apart, abs_mul, abs_of_pos positive, abs_roundEven_sub significand nonneg fraction]

/-- A value that has few bits before some zeros is a number itself. -/
theorem toNearest_eq_self_of_multiple {zeros : ℕ}
    (small : |(significand : ℚ) * 2 ^ zeros| < 2 ^ (bits + zeros)) :
    toNearest bits (significand * 2 ^ zeros) = significand * 2 ^ zeros := by
  by_cases zero : (significand : ℚ) * 2 ^ zeros = 0
  · rw [toNearest, if_pos zero, zero]
  · have positive : 0 < |(significand : ℚ) * 2 ^ zeros| := abs_pos.mpr zero
    have bounded : Int.log 2 |(significand : ℚ) * 2 ^ zeros| < (bits + zeros : ℕ) := by
      apply (Int.lt_zpow_iff_log_lt (by norm_num) positive).mp
      rw [zpow_natCast]
      exact_mod_cast small
    obtain ⟨more, exponent⟩ : ∃ more : ℕ,
        (zeros : ℤ) = more + (Int.log 2 |(significand : ℚ) * 2 ^ zeros| - (bits - 1 : ℤ)) := by
      refine ⟨(zeros - (Int.log 2 |(significand : ℚ) * 2 ^ zeros| - (bits - 1 : ℤ))).toNat, ?_⟩
      push_cast at bounded ⊢
      omega
    have power : (2 : ℚ) ^ zeros = 2 ^ more * unit bits (significand * 2 ^ zeros) := by
      calc
        (2 : ℚ) ^ zeros = 2 ^ (zeros : ℤ) := (zpow_natCast 2 zeros).symm
        _ = 2 ^ (more : ℤ) * unit bits (significand * 2 ^ zeros) := by
          rw [exponent, zpow_add₀ (by norm_num)]
          rfl
        _ = 2 ^ more * unit bits (significand * 2 ^ zeros) := by rw [zpow_natCast]
    have multiple : (significand : ℚ) * 2 ^ zeros =
        ((significand * 2 ^ more : ℤ) : ℚ) * unit bits (significand * 2 ^ zeros) := by
      push_cast
      rw [mul_assoc, ← power]
    exact toNearest_eq_self multiple

/-- An integer below a value's power of two is a multiple of the value's unit. -/
theorem intCast_eq_mul_unit {exponent : ℕ} (fine : exponent < bits)
    (above : 2 ^ exponent ≤ |value|) (below : |value| < 2 ^ (exponent + 1)) (integer : ℤ) :
    (integer : ℚ) = ((integer * 2 ^ (bits - 1 - exponent) : ℤ) : ℚ) * unit bits value ∧
      unit bits value / 2 = 1 / 2 ^ (bits - exponent) := by
  have spacing : unit bits value = 2 ^ ((exponent : ℤ) - (bits - 1 : ℤ)) :=
    unit_eq (by exact_mod_cast above) (by exact_mod_cast below)
  obtain ⟨more, rfl⟩ : ∃ more, bits = exponent + more + 1 := ⟨bits - exponent - 1, by omega⟩
  have inverse : unit (exponent + more + 1) value = (2 ^ more)⁻¹ := by
    rw [spacing, ← zpow_natCast, ← zpow_neg]
    congr 1
    push_cast
    ring
  have first : exponent + more + 1 - 1 - exponent = more := by omega
  have second : exponent + more + 1 - exponent = more + 1 := by omega
  rw [inverse, first, second]
  constructor
  · push_cast
    field_simp
  · rw [pow_succ]
    field_simp

/-- An integer that is less than half a unit away from a value is the nearest number, and one that
is more than half a unit away is not. -/
theorem toNearest_intCast {exponent : ℕ} (fine : exponent < bits)
    (above : 2 ^ exponent ≤ |value|) (below : |value| < 2 ^ (exponent + 1)) (integer : ℤ) :
    (|value - integer| < 1 / 2 ^ (bits - exponent) → toNearest bits value = integer) ∧
      (1 / 2 ^ (bits - exponent) < |value - integer| → toNearest bits value ≠ integer) := by
  have nonzero : value ≠ 0 := by
    rintro rfl
    rw [abs_zero] at above
    exact absurd above (not_le.mpr (by positivity))
  rcases intCast_eq_mul_unit fine above below integer with ⟨multiple, half⟩
  rw [multiple, ← half]
  exact ⟨toNearest_eq_of_near nonzero, toNearest_ne_of_far nonzero⟩

end Nearest
end Rounding
