import Mathlib.Logic.Function.Defs
import RecordFilter.Calendar.Offset

/-!
# Instants

An offset timestamp denotes an instant, whatever clock it is written for. Its clock in UTC tells
this instant and nothing else, so timestamps of one instant read alike on every clock, and the
UTC clocks of two timestamps are in the order of their instants.
-/

namespace RecordFilter.Calendar

/-- Two numbers in mixed radix are compared digit by digit. -/
theorem compare_digits {base high otherHigh : Int} {low otherLow : Nat} (small : low < base)
    (otherSmall : otherLow < base) :
    (compare high otherHigh).then (compare low otherLow) =
      compare (high * base + low) (otherHigh * base + otherLow) := by
  have nonneg : 0 ≤ base := by omega
  rcases Int.lt_trichotomy high otherHigh with less | rfl | greater
  · have step : (high + 1) * base ≤ otherHigh * base :=
      Int.mul_le_mul_of_nonneg_right less nonneg
    rw [Int.add_mul, Int.one_mul] at step
    rw [Int.compare_eq_lt.mpr less, Int.compare_eq_lt.mpr (by omega)]
    rfl
  · rw [Int.compare_eq_eq.mpr rfl]
    rcases Nat.lt_trichotomy low otherLow with less | rfl | greater
    · exact (Nat.compare_eq_lt.mpr less).trans (Int.compare_eq_lt.mpr (by omega)).symm
    · exact (Nat.compare_eq_eq.mpr rfl).trans (Int.compare_eq_eq.mpr rfl).symm
    · exact (Nat.compare_eq_gt.mpr greater).trans (Int.compare_eq_gt.mpr (by omega)).symm
  · have step : (otherHigh + 1) * base ≤ high * base :=
      Int.mul_le_mul_of_nonneg_right greater nonneg
    rw [Int.add_mul, Int.one_mul] at step
    rw [Int.compare_eq_gt.mpr greater, Int.compare_eq_gt.mpr (by omega)]
    rfl

/-- A moment in time: the seconds from the start of 1970 in UTC, and the nanoseconds from the
start of that second. A leap second has no number of its own, its nanoseconds go on from those of
the second before it. -/
structure Instant where
  second : Int
  nano : Nat
deriving DecidableEq

namespace Instant

/-- Earlier instants come first. -/
def order (left right : Instant) : Ordering :=
  (compare left.second right.second).then (compare left.nano right.nano)

/-- The nanoseconds from the start of 1970 in UTC. -/
def nanos (instant : Instant) : Int :=
  instant.second * 1000000000 + instant.nano

/-- Outside of leap seconds, the order of instants is that of their nanoseconds. -/
theorem order_eq_compare_nanos {left right : Instant} (plain : left.nano < 1000000000)
    (otherPlain : right.nano < 1000000000) : left.order right = compare left.nanos right.nanos :=
  compare_digits (Int.ofNat_lt.mpr plain) (Int.ofNat_lt.mpr otherPlain)

end Instant

namespace Timestamp

/-- The instant of a timestamp on the UTC clock. -/
def instant (time : Timestamp) : Instant :=
  ⟨time.day * 86400 + time.second, time.nano⟩

theorem instant_injective : Function.Injective instant := by
  intro left right same
  have total := congrArg Instant.second same
  have nano := congrArg Instant.nano same
  have leftSmall := left.second_lt
  have rightSmall := right.second_lt
  cases left
  cases right
  simp only [instant] at total nano leftSmall rightSmall
  simp only [mk.injEq]
  omega

theorem order_eq_instant (left right : Timestamp) :
    left.order right = left.instant.order right.instant := by
  have seconds : (compare left.day right.day).then (compare left.second right.second) =
      compare left.instant.second right.instant.second :=
    compare_digits (Int.ofNat_lt.mpr left.second_lt) (Int.ofNat_lt.mpr right.second_lt)
  rw [order, Instant.order, ← Ordering.then_assoc, seconds]
  rfl

theorem instant_shift (time : Timestamp) (seconds : Int) :
    (time.shift seconds).instant = ⟨time.instant.second + seconds, time.nano⟩ := by
  simp only [shift, instant, Instant.mk.injEq, and_true]
  omega

end Timestamp

namespace OffsetTimestamp

/-- The instant of a timestamp: its clock without the offset. -/
def instant (time : OffsetTimestamp) : Instant :=
  ⟨time.wall.instant.second - time.offset, time.wall.nano⟩

variable {first second : OffsetTimestamp}

theorem instant_toUtc (time : OffsetTimestamp) : time.toUtc.instant = time.instant :=
  time.wall.instant_shift (-time.offset)

/-- The clocks in UTC are in the order of the instants. -/
theorem order_toUtc (first second : OffsetTimestamp) :
    first.toUtc.order second.toUtc = first.instant.order second.instant := by
  rw [Timestamp.order_eq_instant, instant_toUtc, instant_toUtc]

theorem toUtc_eq_of_instant (same : first.instant = second.instant) :
    first.toUtc = second.toUtc := by
  apply Timestamp.instant_injective
  rw [instant_toUtc, instant_toUtc, same]

/-- Timestamps of one instant read alike on every clock. -/
theorem toZone_eq_of_instant (same : first.instant = second.instant) (zone : Int) :
    first.toZone zone = second.toZone zone := by
  rw [toZone, toZone, toUtc_eq_of_instant same]

theorem toZone_zero (time : OffsetTimestamp) : time.toZone 0 = time.toUtc := by
  apply Timestamp.instant_injective
  rw [toZone, Timestamp.instant_shift, Int.add_zero]
  rfl

end OffsetTimestamp

end RecordFilter.Calendar
