import Mathlib.Algebra.Field.Basic
import Mathlib.Algebra.Field.Rat
import Mathlib.Data.Int.CharZero
import RecordFilter.Json.Basic
import RecordFilter.Proofs.Number.Nearest

/-!
# Whole numbers of 64 bits

A number is taken as a 64-bit integer exactly when its exact value is one. Doubles are compared
with the doubles of the two ends of the range: the lower end is a double, and the double of the
upper end is the first one beyond the range. An integer beyond the range is rounded, but rounding
keeps it beyond.
-/

namespace RecordFilter

namespace Number

theorem isInt64_iff {i : Int} : isInt64 i = true ↔ -2 ^ 63 ≤ i ∧ i < 2 ^ 63 := by
  unfold isInt64 int64Max
  simp only [Bool.and_eq_true, decide_eq_true_eq]
  omega

theorem isInt32_iff {i : Int} : isInt32 i = true ↔ -2 ^ 31 ≤ i ∧ i < 2 ^ 31 := by
  unfold isInt32 int32Max
  simp only [Bool.and_eq_true, decide_eq_true_eq]
  omega

theorem nearest_int64Max : nearest int64Max = 2 ^ 63 := by
  decide +kernel

theorem nearest_int64Min : nearest (-(int64Max : Int) - 1) = -2 ^ 63 := by
  decide +kernel

namespace Double

theorem isBelow_of_position? {left right : Double} {first second : Int}
    (leftPlaced : left.position? = some first) (rightPlaced : right.position? = some second) :
    left.isBelow right = true ↔ first < second := by
  unfold isBelow
  rw [compare?_of_position? leftPlaced rightPlaced, beq_iff_eq, Option.some.injEq,
    Int.compare_eq_lt]

/-- A finite double is an integer when its units are so many ones. -/
theorem toInt?_eq_some_iff {x : Finite} {whole : Int} :
    (finite x).toInt? = some whole ↔ x.units = whole * (one : Int) := by
  have positive : (one : Int) ≠ 0 := Int.natCast_ne_zero.mpr (Nat.ne_of_gt one_pos)
  simp only [toInt?]
  by_cases divides : x.units % (one : Int) = 0
  · rw [if_pos divides, Option.some.injEq,
      Int.ediv_eq_iff_eq_mul_left positive (Int.dvd_of_emod_eq_zero divides)]
  · rw [if_neg divides]
    constructor
    · simp
    · intro multiple
      rw [multiple, Int.mul_emod_left] at divides
      exact absurd rfl divides

/-- A double is taken as a 64-bit integer when it is one. -/
theorem toInt64?_eq_some_iff {x : Finite} {whole : Int} :
    (finite x).toInt64? = some whole ↔
      x.units = whole * (one : Int) ∧ isInt64 whole = true := by
  have positive : (0 : Int) < one := Int.natCast_pos.mpr one_pos
  have placed : (finite x).position? = some x.units := rfl
  have belowLeast := isBelow_of_position? placed
    (position?_ofInt (i := -(int64Max : Int) - 1) (by decide))
  have belowMost := isBelow_of_position? placed (position?_ofInt (i := int64Max) (by decide))
  rw [nearest_int64Min] at belowLeast
  rw [nearest_int64Max] at belowMost
  unfold toInt64?
  rw [Option.ite_none_left_eq_some, toInt?_eq_some_iff, Bool.or_eq_true, Bool.not_eq_true',
    ← Bool.not_eq_true, belowLeast, belowMost, isInt64_iff]
  constructor
  · rintro ⟨range, multiple⟩
    rw [multiple, Int.mul_lt_mul_right positive, Int.mul_lt_mul_right positive] at range
    exact ⟨multiple, by omega, by omega⟩
  · rintro ⟨multiple, range⟩
    rw [multiple, Int.mul_lt_mul_right positive, Int.mul_lt_mul_right positive]
    exact ⟨by omega, rfl⟩

theorem isInt64_of_toInt64? {x : Double} {whole : Int} (taken : x.toInt64? = some whole) :
    isInt64 whole = true := by
  cases x with
  | finite value => exact (toInt64?_eq_some_iff.mp taken).2
  | nan => simp [toInt64?, toInt?] at taken
  | infinite negative => simp [toInt64?, toInt?] at taken

/-- An integer beyond the range stays beyond it when it is rounded. -/
theorem toInt64?_ofInt_eq_none {i : Int} (beyond : int64Max < i) (bound : i ≤ 2 ^ 64) :
    (ofInt i).toInt64? = none := by
  have placed := position?_ofInt_of_natAbs_le (i := i) (by omega)
  have greatest := position?_ofInt (i := int64Max) (by decide)
  have positive : (0 : Int) < one := Int.natCast_pos.mpr one_pos
  have notBelow : (ofInt i).isBelow (ofInt int64Max) = false := by
    apply Bool.eq_false_iff.mpr
    rw [ne_eq, isBelow_of_position? placed greatest, Int.mul_lt_mul_right positive, Int.not_lt]
    exact nearest_mono (Int.le_of_lt beyond)
  unfold toInt64?
  simp [notBelow]

end Double

end Number

namespace JsonNumber

open Number

theorem isInt64_of_toInt64? {number : JsonNumber} {whole : Int}
    (taken : number.toInt64? = some whole) : isInt64 whole = true := by
  cases number with
  | integer value =>
      rw [toInt64?] at taken
      split at taken
      next range =>
          cases taken
          exact range
      next => exact Double.isInt64_of_toInt64? taken
  | double value => exact Double.isInt64_of_toInt64? taken

/-- The exact value of a number. -/
def exact : JsonNumber → ℚ
  | integer value => value
  | double value => value.units / (Double.one : ℚ)

/-- Integers have 64 bits, with a sign or without. -/
def IsStored : JsonNumber → Prop
  | integer value => -2 ^ 63 ≤ value ∧ value < 2 ^ 64
  | double _ => True

/-- A number is taken as a 64-bit integer exactly when its value is one. -/
theorem toInt64?_eq_some_iff {number : JsonNumber} (stored : number.IsStored) {whole : Int} :
    number.toInt64? = some whole ↔ number.exact = whole ∧ isInt64 whole = true := by
  cases number with
  | integer value =>
      have small : value < 2 ^ 64 := stored.2
      simp only [exact, toInt64?, Int.cast_inj]
      by_cases range : isInt64 value = true
      · rw [if_pos range, Option.some.injEq]
        constructor
        · rintro rfl
          exact ⟨rfl, range⟩
        · exact And.left
      · have beyond : int64Max < value := by
          have below : -2 ^ 63 ≤ value := stored.1
          rw [isInt64_iff] at range
          unfold int64Max
          omega
        rw [if_neg range, Double.toInt64?_ofInt_eq_none beyond (Int.le_of_lt small)]
        constructor
        · simp
        · rintro ⟨rfl, inRange⟩
          exact absurd inRange range
  | double value =>
      have nonzero : (Double.one : ℚ) ≠ 0 :=
        Nat.cast_ne_zero.mpr (Nat.ne_of_gt Double.one_pos)
      have units : (value.units : ℚ) = whole * (Double.one : ℚ) ↔
          value.units = whole * (Double.one : Int) := by
        norm_cast
      rw [toInt64?, Double.toInt64?_eq_some_iff, exact, div_eq_iff nonzero, units]

end JsonNumber

end RecordFilter
