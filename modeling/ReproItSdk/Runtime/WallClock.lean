import Mathlib.Tactic.IntervalCases
import ReproItSdk.Core.Model
import ReproItSdk.Library.Rounding

/-! # The wall clock of the Node SDK

An observed {lit}`Date.now()` is recorded as nanoseconds in eight bytes.  In replay the bytes are
read as a big integer, converted to a number and divided by a million.  A number has a significand
of 53 bits, so that the conversion and the division both round.

Main results:

- Theorem {lit}`readBigInt64BE_writeBigInt64BE`: the eight bytes are read back.
- Theorem {lit}`replayedWallTime_eq_iff`: the replayed time is the recorded one exactly if the
  nanoseconds are no tie between two numbers that is too far from both.
- Theorem {lit}`replayedWallTime_moved`: a time of the year 2023 that replay moves.
-/

namespace ReproItSdk
namespace Runtime
namespace Node

open Rounding

/-! ## Eight bytes -/

/-- The digits of a number to the base 256, the most significant first. -/
def bigEndian : Nat → Nat → Bytes
  | 0, _ => []
  | width + 1, value => bigEndian width (value / 256) ++ [UInt8.ofNat (value % 256)]

/-- The number with some digits to the base 256. -/
def ofBigEndian (bytes : Bytes) : Nat :=
  bytes.foldl (fun value byte => value * 256 + byte.toNat) 0

/-- Digits are as many as asked for. -/
@[simp] theorem length_bigEndian (width value : Nat) : (bigEndian width value).length = width := by
  induction width generalizing value with
  | zero => rfl
  | succ width ih => rw [bigEndian, List.length_append, ih, List.length_singleton]

/-- The digits of a number that is not too large give the number. -/
theorem ofBigEndian_bigEndian {width value : Nat} (fits : value < 256 ^ width) :
    ofBigEndian (bigEndian width value) = value := by
  induction width generalizing value with
  | zero =>
      rw [Nat.pow_zero, Nat.lt_one_iff] at fits
      rw [fits]
      rfl
  | succ width ih =>
      have front : value / 256 < 256 ^ width := by
        rw [Nat.pow_succ] at fits
        exact Nat.div_lt_of_lt_mul (by omega)
      have last : (UInt8.ofNat (value % 256)).toNat = value % 256 := by
        simp
      have digits : ofBigEndian (bigEndian (width + 1) value) =
          ofBigEndian (bigEndian width (value / 256)) * 256 +
            (UInt8.ofNat (value % 256)).toNat := by
        simp [ofBigEndian, bigEndian]
      rw [digits, ih front, last]
      omega

/-- {lit}`writeBigInt64BE` in a buffer of eight bytes; it raises an error out of its range. -/
def writeBigInt64BE (value : Int) : Option Bytes :=
  if -2 ^ 63 ≤ value ∧ value < 2 ^ 63 then some (bigEndian 8 (value % 2 ^ 64).toNat) else none

/-- {lit}`readBigInt64BE`. -/
def readBigInt64BE (bytes : Bytes) : Int :=
  if ofBigEndian bytes < 2 ^ 63 then ofBigEndian bytes else (ofBigEndian bytes : Int) - 2 ^ 64

/-- The eight bytes of an integer are read back. -/
theorem readBigInt64BE_writeBigInt64BE {value : Int} {bytes : Bytes}
    (written : writeBigInt64BE value = some bytes) :
    bytes.length = 8 ∧ readBigInt64BE bytes = value := by
  unfold writeBigInt64BE at written
  split at written
  · rename_i inside
    rw [← Option.some.inj written]
    refine ⟨length_bigEndian 8 _, ?_⟩
    have fits : (value % 2 ^ 64).toNat < 256 ^ 8 := by omega
    unfold readBigInt64BE
    rw [ofBigEndian_bigEndian fits]
    split <;> omega
  · cases written

/-! ## Recorded and replayed times -/

/-- {lit}`Number` of a big integer. -/
def number (value : Int) : ℚ :=
  toNearest 53 value

/-- The bytes that {lit}`observedWallTime` records of a time in milliseconds. -/
def recordedWallTime (milliseconds : Int) : Option Bytes :=
  writeBigInt64BE (milliseconds * 1000000)

/-- The time in milliseconds that {lit}`observedWallTime` returns in replay. -/
def replayedWallTime (bytes : Bytes) : ℚ :=
  toNearest 53 (number (readBigInt64BE bytes) / 1000000)

/-- Times whose nanoseconds are midway between two numbers, where numbers of milliseconds are
closer than that: the least bits of the time in one of four ranges. -/
def Midway (milliseconds : Int) : Prop :=
  ∃ place < 4, 2 ^ (59 + place) ≤ milliseconds.natAbs * 1000000 ∧
    milliseconds.natAbs < 2 ^ (40 + place) ∧
    milliseconds.natAbs % 2 ^ (place + 1) = 2 ^ place

instance (milliseconds : Int) : Decidable (Midway milliseconds) :=
  inferInstanceAs (Decidable (∃ place < 4, 2 ^ (59 + place) ≤ milliseconds.natAbs * 1000000 ∧
    milliseconds.natAbs < 2 ^ (40 + place) ∧
    milliseconds.natAbs % 2 ^ (place + 1) = 2 ^ place))

/-! ## The two roundings -/

/-- A time that is converted from nanoseconds and divided. -/
def throughNanoseconds (milliseconds : ℚ) : ℚ :=
  toNearest 53 (toNearest 53 (milliseconds * 1000000) / 1000000)

/-- Times before and after the epoch are rounded alike. -/
theorem throughNanoseconds_neg (milliseconds : ℚ) :
    throughNanoseconds (-milliseconds) = -throughNanoseconds milliseconds := by
  rw [throughNanoseconds, neg_mul, toNearest_neg, neg_div, toNearest_neg]
  rfl

section Positive

variable {milliseconds : ℕ}

/-- A time whose nanoseconds are a number comes back. -/
theorem throughNanoseconds_of_exact (small : milliseconds < 2 ^ 53)
    (exact_ : toNearest 53 ((milliseconds : ℚ) * 1000000) = (milliseconds : ℚ) * 1000000) :
    throughNanoseconds milliseconds = milliseconds := by
  have integer : toNearest 53 (((milliseconds : ℤ) : ℚ) * 2 ^ 0) = ((milliseconds : ℤ) : ℚ) * 2 ^ 0 := by
    apply toNearest_eq_self_of_multiple
    rw [abs_of_nonneg (by positivity)]
    push_cast
    norm_num
    exact_mod_cast small
  rw [pow_zero, mul_one, Int.cast_natCast] at integer
  rw [throughNanoseconds, exact_, mul_div_cancel_right₀ _ (by norm_num)]
  exact integer

/-- Small nanoseconds are a number, since they are multiples of 64. -/
theorem throughNanoseconds_of_small (small : milliseconds * 1000000 < 2 ^ 59) :
    throughNanoseconds milliseconds = milliseconds := by
  apply throughNanoseconds_of_exact (by omega)
  have sixtyFour : (milliseconds : ℚ) * 1000000 = ((milliseconds * 15625 : ℤ) : ℚ) * 2 ^ 6 := by
    push_cast
    ring
  rw [sixtyFour]
  apply toNearest_eq_self_of_multiple
  rw [← sixtyFour, abs_of_nonneg (by positivity)]
  exact_mod_cast small

/-- How many units of 64 nanoseconds the nearest number is from large nanoseconds. -/
def offset (place milliseconds : ℕ) : ℕ :=
  min (milliseconds * 15625 % 2 ^ (place + 1))
    (2 ^ (place + 1) - milliseconds * 15625 % 2 ^ (place + 1))

/-- The distance of large nanoseconds from the nearest number. -/
theorem abs_toNearest_nanoseconds {place : ℕ} (above : 2 ^ (59 + place) ≤ milliseconds * 1000000)
    (below : milliseconds * 1000000 < 2 ^ (60 + place)) :
    |toNearest 53 ((milliseconds : ℚ) * 1000000) - (milliseconds : ℚ) * 1000000| =
      offset place milliseconds * 64 := by
  have large : (2 : ℚ) ^ (59 + place) ≤ |(milliseconds : ℚ) * 1000000| := by
    rw [abs_of_nonneg (by positivity)]
    exact_mod_cast above
  have bounded : |(milliseconds : ℚ) * 1000000| < 2 ^ (59 + place + 1) := by
    rw [abs_of_nonneg (by positivity), show 59 + place + 1 = 60 + place by omega]
    exact_mod_cast below
  have spacing : unit 53 ((milliseconds : ℚ) * 1000000) = 2 ^ (place + 1) * 64 := by
    have exact_ : unit 53 ((milliseconds : ℚ) * 1000000) =
        2 ^ (((59 + place : ℕ) : ℤ) - ((53 : ℕ) - 1 : ℤ)) :=
      unit_eq (by exact_mod_cast large) (by exact_mod_cast bounded)
    rw [exact_]
    rw [show ((59 + place : ℕ) : ℤ) - ((53 : ℕ) - 1 : ℤ) = ((place + 1 + 6 : ℕ) : ℤ) by
      push_cast
      ring, zpow_natCast, pow_add]
    norm_num
  have nonzero : (milliseconds : ℚ) * 1000000 ≠ 0 := by
    intro zero
    rw [zero, abs_zero] at large
    exact absurd large (not_le.mpr (by positivity))
  have parts := Nat.div_add_mod (milliseconds * 15625) (2 ^ (place + 1))
  have positive : (0 : ℚ) < 2 ^ (place + 1) := by positivity
  have rest := Nat.mod_lt (milliseconds * 15625) (Nat.two_pow_pos (place + 1))
  have split_ : (milliseconds : ℚ) * 1000000 =
      (((milliseconds * 15625 / 2 ^ (place + 1) : ℕ) : ℤ) +
        ((milliseconds * 15625 % 2 ^ (place + 1) : ℕ) : ℚ) / 2 ^ (place + 1)) *
          unit 53 ((milliseconds : ℚ) * 1000000) := by
    have cast : ((milliseconds : ℚ) * 15625) =
        2 ^ (place + 1) * ((milliseconds * 15625 / 2 ^ (place + 1) : ℕ) : ℚ) +
          ((milliseconds * 15625 % 2 ^ (place + 1) : ℕ) : ℚ) := by
      exact_mod_cast parts.symm
    rw [spacing, Int.cast_natCast]
    field_simp
    linarith
  rw [abs_toNearest_sub nonzero (by positivity) (by exact_mod_cast rest) split_, spacing, offset]
  have complement : (2 : ℚ) ^ (place + 1) - ((milliseconds * 15625 % 2 ^ (place + 1) : ℕ) : ℚ) =
      ((2 ^ (place + 1) - milliseconds * 15625 % 2 ^ (place + 1) : ℕ) : ℚ) := by
    rw [Nat.cast_sub rest.le]
    push_cast
    rfl
  rw [complement, ← Nat.cast_min]
  field_simp

/-- Of two parts of a whole the smaller one is at most the half, and the half if either is. -/
theorem min_sub_eq_iff {part half : ℕ} (inside : part < half * 2) :
    min part (half * 2 - part) ≤ half ∧ (min part (half * 2 - part) = half ↔ part = half) := by
  omega

/-- Nanoseconds are at most midway between two numbers. -/
theorem offset_le (place milliseconds : ℕ) : offset place milliseconds ≤ 2 ^ place := by
  have rest := Nat.mod_lt (milliseconds * 15625) (Nat.two_pow_pos (place + 1))
  unfold offset
  rw [pow_succ] at rest ⊢
  exact (min_sub_eq_iff rest).1

/-- An odd factor keeps the least bit of a number. -/
theorem least_bit_iff {place : ℕ} (four : place < 4) :
    milliseconds * 15625 % 2 ^ (place + 1) = 2 ^ place ↔
      milliseconds % 2 ^ (place + 1) = 2 ^ place := by
  rw [Nat.mul_mod]
  interval_cases place
  · norm_num
  · norm_num
  · norm_num
  · norm_num
    omega

/-- Nanoseconds are midway between two numbers if some bit of the milliseconds is the least one. -/
theorem offset_eq_iff {place : ℕ} (four : place < 4) :
    offset place milliseconds = 2 ^ place ↔ milliseconds % 2 ^ (place + 1) = 2 ^ place := by
  have rest := Nat.mod_lt (milliseconds * 15625) (Nat.two_pow_pos (place + 1))
  have middle : offset place milliseconds = 2 ^ place ↔
      milliseconds * 15625 % 2 ^ (place + 1) = 2 ^ place := by
    unfold offset
    rw [pow_succ] at rest ⊢
    exact (min_sub_eq_iff rest).2
  exact middle.trans (least_bit_iff four)

/-- The number nearest to a value close to an integer, whose power of two is known. -/
theorem toNearest_of_close (exponent : ℕ) (fine : exponent < 53) (low : 2 ^ exponent < milliseconds)
    (high : milliseconds < 2 ^ (exponent + 1)) {value : ℚ} (close : |value - milliseconds| < 1) :
    (|value - milliseconds| < 1 / 2 ^ (53 - exponent) →
        toNearest 53 value = milliseconds) ∧
      (1 / 2 ^ (53 - exponent) < |value - milliseconds| →
        toNearest 53 value ≠ milliseconds) := by
  have least : (2 : ℚ) ^ exponent + 1 ≤ milliseconds := by exact_mod_cast low
  have greatest : (milliseconds : ℚ) + 1 ≤ 2 ^ (exponent + 1) := by exact_mod_cast high
  rw [abs_lt] at close
  have positive : 0 ≤ value := by
    have power : (0 : ℚ) < 2 ^ exponent := by positivity
    linarith
  have nearest : (|value - ((milliseconds : ℤ) : ℚ)| < 1 / 2 ^ (53 - exponent) →
        toNearest 53 value = ((milliseconds : ℤ) : ℚ)) ∧
      (1 / 2 ^ (53 - exponent) < |value - ((milliseconds : ℤ) : ℚ)| →
        toNearest 53 value ≠ ((milliseconds : ℤ) : ℚ)) := by
    apply toNearest_intCast fine
    · rw [abs_of_nonneg positive]
      linarith
    · rw [abs_of_nonneg positive]
      linarith
  rw [Int.cast_natCast] at nearest
  exact nearest

/-- A time with large nanoseconds comes back exactly if they are not midway between two numbers, or
numbers of milliseconds are far enough apart. -/
theorem throughNanoseconds_of_large {place : ℕ} (four : place < 4)
    (above : 2 ^ (59 + place) ≤ milliseconds * 1000000)
    (below : milliseconds * 1000000 < 2 ^ (60 + place)) :
    throughNanoseconds milliseconds = milliseconds ↔
      ¬ (milliseconds < 2 ^ (40 + place) ∧ milliseconds % 2 ^ (place + 1) = 2 ^ place) := by
  have distance : |toNearest 53 ((milliseconds : ℚ) * 1000000) / 1000000 - milliseconds| =
      offset place milliseconds / 15625 := by
    have apart : toNearest 53 ((milliseconds : ℚ) * 1000000) / 1000000 - milliseconds =
        (toNearest 53 ((milliseconds : ℚ) * 1000000) - milliseconds * 1000000) / 1000000 := by
      ring
    rw [apart, abs_div, abs_toNearest_nanoseconds above below, abs_of_pos (by norm_num)]
    ring
  have most := offset_le place milliseconds
  have close : |toNearest 53 ((milliseconds : ℚ) * 1000000) / 1000000 - milliseconds| < 1 := by
    rw [distance, div_lt_one (by norm_num)]
    have bound : (2 : ℕ) ^ place < 15625 := by
      interval_cases place <;> norm_num
    exact_mod_cast most.trans_lt bound
  rw [← offset_eq_iff four]
  by_cases lower : milliseconds < 2 ^ (40 + place)
  · have low : 2 ^ (39 + place) < milliseconds := by
      have positive := Nat.two_pow_pos place
      rw [pow_add] at above ⊢
      omega
    rcases toNearest_of_close (39 + place) (by omega) low
      (by rw [show 39 + place + 1 = 40 + place by omega]; exact lower) close with ⟨near, far⟩
    rw [distance] at near far
    by_cases tie : offset place milliseconds = 2 ^ place
    · have beyond : (1 : ℚ) / 2 ^ (53 - (39 + place)) < (offset place milliseconds : ℚ) / 15625 := by
        rw [tie]
        interval_cases place <;> norm_num
      simp only [lower, tie, and_self, not_true_eq_false, iff_false]
      exact far beyond
    · have fewer : offset place milliseconds ≤ 2 ^ place - 1 := by omega
      have within : (offset place milliseconds : ℚ) / 15625 < 1 / 2 ^ (53 - (39 + place)) := by
        have cast : (offset place milliseconds : ℚ) ≤ ((2 ^ place - 1 : ℕ) : ℚ) := by
          exact_mod_cast fewer
        apply lt_of_le_of_lt (div_le_div_of_nonneg_right cast (by norm_num))
        interval_cases place <;> norm_num
      simp only [tie, and_false, not_false_eq_true, iff_true]
      exact near within
  · simp only [lower, false_and, not_false_eq_true, iff_true]
    by_cases power : milliseconds = 2 ^ (40 + place)
    -- The nanoseconds of a power of two are a number.
    · apply throughNanoseconds_of_exact
      · rw [power]
        exact Nat.pow_lt_pow_right (by norm_num) (by omega)
      · have multiple : (milliseconds : ℚ) * 1000000 = ((1000000 : ℤ) : ℚ) * 2 ^ (40 + place) := by
          rw [power]
          push_cast
          ring
        rw [multiple]
        apply toNearest_eq_self_of_multiple
        rw [pow_add 2 53, abs_of_nonneg (by positivity)]
        apply mul_lt_mul_of_pos_right _ (by positivity)
        norm_num
    · have low : 2 ^ (40 + place) < milliseconds := by omega
      have high : milliseconds < 2 ^ (40 + place + 1) := by
        rw [pow_add] at below
        rw [pow_succ, pow_add]
        omega
      rcases toNearest_of_close (40 + place) (by omega) low high close with ⟨near, _⟩
      apply near
      rw [distance]
      have cast : (offset place milliseconds : ℚ) ≤ ((2 ^ place : ℕ) : ℚ) := by
        exact_mod_cast most
      apply lt_of_le_of_lt (div_le_div_of_nonneg_right cast (by norm_num))
      interval_cases place <;> norm_num

/-- A time comes back exactly if its nanoseconds are not midway between two numbers where numbers of
milliseconds are closer. -/
theorem throughNanoseconds_eq_iff (inside : milliseconds * 1000000 < 2 ^ 63) :
    throughNanoseconds milliseconds = milliseconds ↔ ¬ Midway milliseconds := by
  by_cases small : milliseconds * 1000000 < 2 ^ 59
  · have apart : ¬ Midway milliseconds := by
      rintro ⟨place, _, above, _⟩
      rw [pow_add, Int.natAbs_natCast] at above
      have positive := Nat.two_pow_pos place
      omega
    simp only [apart, not_false_eq_true, iff_true]
    exact throughNanoseconds_of_small small
  · obtain ⟨place, four, above, below⟩ : ∃ place < 4,
        2 ^ (59 + place) ≤ milliseconds * 1000000 ∧ milliseconds * 1000000 < 2 ^ (60 + place) := by
      by_cases first : milliseconds * 1000000 < 2 ^ 60
      · exact ⟨0, by omega, by omega, by omega⟩
      · by_cases second : milliseconds * 1000000 < 2 ^ 61
        · exact ⟨1, by omega, by omega, by omega⟩
        · by_cases third : milliseconds * 1000000 < 2 ^ 62
          · exact ⟨2, by omega, by omega, by omega⟩
          · exact ⟨3, by omega, by omega, by omega⟩
    rw [throughNanoseconds_of_large four above below, not_iff_not]
    constructor
    · rintro ⟨lower, bits⟩
      exact ⟨place, four, above, lower, bits⟩
    -- The ranges of the four places do not overlap.
    · rintro ⟨other, four', above', lower, bits⟩
      rw [Int.natAbs_natCast] at above' lower bits
      have same : other = place := by
        interval_cases place <;> interval_cases other <;> omega
      rw [← same]
      exact ⟨lower, bits⟩

end Positive

/-! ## Replay -/

/-- What is replayed of a recorded time. -/
theorem replayedWallTime_eq {milliseconds : Int} {bytes : Bytes}
    (recorded : recordedWallTime milliseconds = some bytes) :
    bytes.length = 8 ∧ replayedWallTime bytes = throughNanoseconds milliseconds := by
  rcases readBigInt64BE_writeBigInt64BE recorded with ⟨length, read⟩
  refine ⟨length, ?_⟩
  rw [replayedWallTime, read, number, throughNanoseconds]
  push_cast
  rfl

/-- Every time whose nanoseconds are an integer of 64 bits is recorded in eight bytes, and it is
replayed as it was exactly if its nanoseconds are not midway between two numbers where numbers of
milliseconds are closer. -/
theorem replayedWallTime_eq_iff (milliseconds : Int)
    (inside : (milliseconds * 1000000).natAbs < 2 ^ 63) :
    ∃ bytes, recordedWallTime milliseconds = some bytes ∧ bytes.length = 8 ∧
      (replayedWallTime bytes = milliseconds ↔ ¬ Midway milliseconds) := by
  have recorded : recordedWallTime milliseconds =
      some (bigEndian 8 ((milliseconds * 1000000) % 2 ^ 64).toNat) := if_pos (by omega)
  rcases replayedWallTime_eq recorded with ⟨length, replayed⟩
  refine ⟨_, recorded, length, ?_⟩
  rw [replayed]
  have small : milliseconds.natAbs * 1000000 < 2 ^ 63 := by omega
  have iff := throughNanoseconds_eq_iff small
  rcases Int.natAbs_eq milliseconds with positive | negative
  · rw [positive]
    exact iff
  · rw [negative, Int.cast_neg, throughNanoseconds_neg, neg_inj, Int.cast_natCast, iff]
    unfold Midway
    rw [Int.natAbs_neg]

/-- A recent time at an even millisecond is replayed as it was. -/
theorem replayedWallTime_recent :
    ∃ bytes, recordedWallTime 1700000000000 = some bytes ∧ bytes.length = 8 ∧
      replayedWallTime bytes = 1700000000000 := by
  rcases replayedWallTime_eq_iff 1700000000000 (by decide) with ⟨bytes, recorded, length, iff⟩
  exact ⟨bytes, recorded, length, iff.mpr (by decide)⟩

/-- Replay moves a time of the year 2023 by a fraction of a millisecond. -/
theorem replayedWallTime_moved :
    (recordedWallTime 1700000000002).map replayedWallTime ≠ some 1700000000002 := by
  decide +kernel

end Node
end Runtime
end ReproItSdk
