import Mathlib.Algebra.Order.Ring.Int
import Mathlib.Data.Nat.Log
import RecordFilter.Number.Double
import RecordFilter.Number.Integer

/-!
# Integers as doubles

The double of an integer is the nearest integer of at most 53 binary digits. Rounding to it
keeps the order of two integers but may make them equal; an integer below `2 ^ 53` stays what
it is, and no other integer becomes it. An integer beyond all doubles becomes an infinity, which
keeps the order too.
-/

namespace RecordFilter.Number

/-! ## Rounding a quotient -/

theorem roundHalfEven_cases (numerator denominator : Nat) :
    roundHalfEven numerator denominator = numerator / denominator ∨
      roundHalfEven numerator denominator = numerator / denominator + 1 := by
  unfold roundHalfEven
  dsimp only
  split
  · exact Or.inr rfl
  · exact Or.inl rfl

/-- Rounding keeps the order. With one quotient, the larger remainder is rounded up whenever the
smaller one is. -/
theorem roundHalfEven_mono {first second : Nat} (le : first ≤ second) (denominator : Nat) :
    roundHalfEven first denominator ≤ roundHalfEven second denominator := by
  have quotients := Nat.div_le_div_right (c := denominator) le
  rcases Nat.eq_or_lt_of_le quotients with same | less
  · have remainders : first % denominator ≤ second % denominator := by
      rw [← Nat.div_add_mod first denominator, ← Nat.div_add_mod second denominator, same] at le
      exact Nat.le_of_add_le_add_left le
    unfold roundHalfEven
    simp only [← same, Bool.or_eq_true, Bool.and_eq_true, decide_eq_true_eq]
    split <;> split <;> omega
  · have upper := roundHalfEven_cases first denominator
    have lower := roundHalfEven_cases second denominator
    omega

theorem roundHalfEven_multiple (quotient : Nat) {denominator : Nat} (positive : 0 < denominator) :
    roundHalfEven (quotient * denominator) denominator = quotient := by
  unfold roundHalfEven
  simp only [Nat.mul_div_cancel _ positive, Nat.mul_mod_left, Nat.mul_zero, Nat.not_lt_zero,
    Bool.or_eq_true, Bool.and_eq_true, decide_eq_true_eq, false_or]
  exact if_neg fun half => by omega

/-- Rounding depends on the quotient only. -/
theorem roundHalfEven_scale (numerator denominator : Nat) {factor : Nat} (positive : 0 < factor) :
    roundHalfEven (numerator * factor) (denominator * factor) =
      roundHalfEven numerator denominator := by
  have twice : 2 * (numerator % denominator * factor) = 2 * (numerator % denominator) * factor :=
    (Nat.mul_assoc _ _ _).symm
  unfold roundHalfEven
  simp only [Nat.mul_div_mul_right _ _ positive, Nat.mul_mod_mul_right, twice,
    Nat.mul_lt_mul_right positive, Nat.mul_left_inj (Nat.ne_of_gt positive)]

/-! ## Rounding a natural -/

/-- The nearest natural of at most 53 binary digits, of two the one whose last digit is even. -/
def nearestNat (n : Nat) : Nat :=
  roundBinary 53 0 n 1

theorem nearestNat_eq (n : Nat) :
    nearestNat n = roundHalfEven n (2 ^ shiftFor n) * 2 ^ shiftFor n := by
  have shift : max 0 (n.log2 + 1 - 53) = shiftFor n := by
    unfold shiftFor
    omega
  unfold nearestNat roundBinary
  simp only [Nat.div_one, Nat.shiftLeft_eq, Nat.one_mul, shift]

/-! ### Digits -/

theorem log2_mono {first second : Nat} (le : first ≤ second) : first.log2 ≤ second.log2 := by
  rw [Nat.log2_eq_log_two, Nat.log2_eq_log_two]
  exact Nat.log_mono_right le

theorem log2_mul_two_pow {n : Nat} (nonzero : n ≠ 0) (shift : Nat) :
    (n * 2 ^ shift).log2 = n.log2 + shift := by
  have shifted : n * 2 ^ shift ≠ 0 :=
    Nat.mul_ne_zero nonzero (Nat.ne_of_gt (Nat.two_pow_pos shift))
  rw [Nat.log2_eq_iff shifted, Nat.add_right_comm, Nat.pow_add, Nat.pow_add]
  constructor
  · exact Nat.mul_le_mul_right _ (Nat.log2_self_le nonzero)
  · exact Nat.mul_lt_mul_of_pos_right Nat.lt_log2_self (Nat.two_pow_pos shift)

/-- What has at most 53 binary digits before its zeros loses nothing when it is cut to 53. -/
theorem two_pow_shiftFor_dvd {significand : Nat} (bound : significand ≤ 2 ^ 53) (shift : Nat) :
    2 ^ shiftFor (significand * 2 ^ shift) ∣ significand * 2 ^ shift := by
  rcases Nat.eq_zero_or_pos significand with rfl | positive
  · rw [Nat.zero_mul]
    exact Nat.dvd_zero _
  · have digits := log2_mul_two_pow (Nat.ne_of_gt positive) shift
    rcases Nat.eq_or_lt_of_le bound with rfl | less
    · rw [shiftFor, digits, Nat.log2_two_pow, ← Nat.pow_add]
      exact Nat.pow_dvd_pow 2 (by omega)
    · have few : significand.log2 < 53 := (Nat.log2_lt (Nat.ne_of_gt positive)).mpr less
      refine Nat.dvd_trans (Nat.pow_dvd_pow 2 ?_) (Nat.dvd_mul_left _ _)
      rw [shiftFor, digits]
      omega

/-! ### Exact and ordered rounding -/

theorem nearestNat_of_dvd {n : Nat} (divides : 2 ^ shiftFor n ∣ n) : nearestNat n = n := by
  obtain ⟨quotient, multiple⟩ := divides
  rw [Nat.mul_comm] at multiple
  have rounded : roundHalfEven n (2 ^ shiftFor n) = quotient :=
    calc roundHalfEven n (2 ^ shiftFor n)
        = roundHalfEven (quotient * 2 ^ shiftFor n) (2 ^ shiftFor n) := by rw [← multiple]
      _ = quotient := roundHalfEven_multiple quotient (Nat.two_pow_pos _)
  rw [nearestNat_eq, rounded, ← multiple]

/-- Rounding changes no natural of at most 53 digits before its zeros. -/
theorem nearestNat_multiple {significand : Nat} (bound : significand ≤ 2 ^ 53) (shift : Nat) :
    nearestNat (significand * 2 ^ shift) = significand * 2 ^ shift :=
  nearestNat_of_dvd (two_pow_shiftFor_dvd bound shift)

theorem nearestNat_of_le {n : Nat} (small : n ≤ 2 ^ 53) : nearestNat n = n := by
  have exact := nearestNat_multiple small 0
  rwa [Nat.pow_zero, Nat.mul_one] at exact

/-- Rounding stays between the powers of two around a natural. -/
theorem two_pow_log2_le_nearestNat {n : Nat} (nonzero : n ≠ 0) :
    2 ^ n.log2 ≤ nearestNat n := by
  have split : 2 ^ n.log2 = 2 ^ (n.log2 - shiftFor n) * 2 ^ shiftFor n := by
    rw [← Nat.pow_add, Nat.sub_add_cancel (by unfold shiftFor; omega)]
  have rounded := roundHalfEven_mono (Nat.log2_self_le nonzero) (2 ^ shiftFor n)
  rw [split, roundHalfEven_multiple _ (Nat.two_pow_pos _)] at rounded
  rw [nearestNat_eq, split]
  exact Nat.mul_le_mul_right _ rounded

theorem significand_le (n : Nat) :
    roundHalfEven n (2 ^ shiftFor n) ≤ 2 ^ (n.log2 + 1 - shiftFor n) := by
  have split : 2 ^ (n.log2 + 1) = 2 ^ (n.log2 + 1 - shiftFor n) * 2 ^ shiftFor n := by
    rw [← Nat.pow_add, Nat.sub_add_cancel (by unfold shiftFor; omega)]
  have rounded := roundHalfEven_mono (Nat.le_of_lt (Nat.lt_log2_self (n := n))) (2 ^ shiftFor n)
  rwa [split, roundHalfEven_multiple _ (Nat.two_pow_pos _)] at rounded

theorem nearestNat_le_two_pow_log2 (n : Nat) : nearestNat n ≤ 2 ^ (n.log2 + 1) := by
  calc nearestNat n
      = roundHalfEven n (2 ^ shiftFor n) * 2 ^ shiftFor n := nearestNat_eq n
    _ ≤ 2 ^ (n.log2 + 1 - shiftFor n) * 2 ^ shiftFor n :=
        Nat.mul_le_mul_right _ (significand_le n)
    _ = 2 ^ (n.log2 + 1) := by
        rw [← Nat.pow_add, Nat.sub_add_cancel (by unfold shiftFor; omega)]

/-- A rounded natural has at most 53 digits before its zeros, so it can be cut to them. -/
theorem two_pow_shiftFor_dvd_nearestNat (n : Nat) :
    2 ^ shiftFor (nearestNat n) ∣ nearestNat n := by
  rw [nearestNat_eq]
  refine two_pow_shiftFor_dvd (Nat.le_trans (significand_le n) ?_) _
  refine Nat.pow_le_pow_right (by decide) ?_
  unfold shiftFor
  omega

/-- Rounding keeps the order: with one number of digits by the quotients, and otherwise by the
power of two between the naturals. -/
theorem nearestNat_mono {first second : Nat} (le : first ≤ second) :
    nearestNat first ≤ nearestNat second := by
  rcases Nat.eq_zero_or_pos first with rfl | positive
  · rw [nearestNat_of_le (Nat.zero_le _)]
    exact Nat.zero_le _
  · have nonzero : second ≠ 0 := by omega
    rcases Nat.eq_or_lt_of_le (log2_mono le) with same | less
    · have shifts : shiftFor first = shiftFor second := by
        unfold shiftFor
        rw [same]
      rw [nearestNat_eq, nearestNat_eq, shifts]
      exact Nat.mul_le_mul_right _ (roundHalfEven_mono le _)
    · calc nearestNat first
          ≤ 2 ^ (first.log2 + 1) := nearestNat_le_two_pow_log2 first
        _ ≤ 2 ^ second.log2 := Nat.pow_le_pow_right (by decide) less
        _ ≤ nearestNat second := two_pow_log2_le_nearestNat nonzero

/-- Rounding does not depend on the place of the point. -/
theorem nearestNat_scale (n shift : Nat) :
    nearestNat (n * 2 ^ shift) = nearestNat n * 2 ^ shift := by
  by_cases small : n ≤ 2 ^ 53
  · rw [nearestNat_multiple small, nearestNat_of_le small]
  · have nonzero : n ≠ 0 := by omega
    have large : 53 ≤ n.log2 := (Nat.le_log2 nonzero).mpr (by omega)
    have shifts : shiftFor (n * 2 ^ shift) = shiftFor n + shift := by
      unfold shiftFor
      rw [log2_mul_two_pow nonzero]
      omega
    rw [nearestNat_eq, nearestNat_eq, shifts, Nat.pow_add,
      roundHalfEven_scale _ _ (Nat.two_pow_pos shift), Nat.mul_assoc]

/-! ## Rounding an integer -/

/-- The nearest integer of at most 53 binary digits, of two the one whose last digit is even. -/
def nearest (i : Int) : Int :=
  if i < 0 then -(nearestNat i.natAbs : Int) else nearestNat i.natAbs

theorem nearest_of_natAbs_le {i : Int} (small : i.natAbs ≤ 2 ^ 53) : nearest i = i := by
  unfold nearest
  rw [nearestNat_of_le small]
  split <;> omega

theorem nearest_mono {first second : Int} (le : first ≤ second) :
    nearest first ≤ nearest second := by
  unfold nearest
  rcases Int.lt_or_le first 0 with firstNegative | firstNatural
  · rw [if_pos firstNegative]
    rcases Int.lt_or_le second 0 with secondNegative | secondNatural
    · have magnitudes := nearestNat_mono (show second.natAbs ≤ first.natAbs by omega)
      rw [if_pos secondNegative]
      omega
    · rw [if_neg (by omega)]
      omega
  · have magnitudes := nearestNat_mono (show first.natAbs ≤ second.natAbs by omega)
    rw [if_neg (by omega), if_neg (by omega)]
    omega

/-- An integer below `2 ^ 53` in magnitude is told apart from all others. -/
theorem eq_of_nearest_eq {first second : Int} (small : first.natAbs < 2 ^ 53)
    (same : nearest first = nearest second) : first = second := by
  rw [nearest_of_natAbs_le (Nat.le_of_lt small)] at same
  rcases Nat.le_total second.natAbs (2 ^ 53) with le | ge
  · rw [same, nearest_of_natAbs_le le]
  · have above := nearest_of_natAbs_le (i := 2 ^ 53) (by decide)
    have below := nearest_of_natAbs_le (i := -2 ^ 53) (by decide)
    rcases Int.lt_or_le second 0 with negative | natural
    · have bound := nearest_mono (show second ≤ -2 ^ 53 by omega)
      omega
    · have bound := nearest_mono (show 2 ^ 53 ≤ second by omega)
      omega

/-! ## The double of an integer -/

namespace Double

/-- Cutting to 53 digits loses nothing of what has no more. -/
theorem position?_ofUnits {units : Nat} (divides : 2 ^ shiftFor units ∣ units)
    (inRange : shiftFor units ≤ 2045) (negative : Bool) :
    (ofUnits negative units).position? =
      some (if negative then -(units : Int) else units) := by
  have restored : units >>> shiftFor units <<< shiftFor units = units := by
    rw [Nat.shiftRight_eq_div_pow, Nat.shiftLeft_eq, Nat.div_mul_cancel divides]
  unfold ofUnits Finite.ofUnits?
  rw [dif_pos inRange]
  simp only [position?, Finite.units, Finite.magnitude, restored]

theorem one_eq : one = 2 ^ 1074 := by
  have shifted (places : Nat) : 1 <<< places = 2 ^ places := Nat.one_shiftLeft places
  exact shifted 1074

theorem one_pos : 0 < one := by
  rw [one_eq]
  generalize 1074 = places
  exact Nat.two_pow_pos places

theorem roundBinary_units (n : Nat) : roundBinary 53 0 (n * one) 1 = nearestNat n * one := by
  rw [one_eq]
  generalize 1074 = places
  exact nearestNat_scale n places

/-- The units of a rounded integer of 64 bits, with a sign or without, are those of a finite
double. -/
theorem shiftFor_units_le {n : Nat} (bound : n ≤ 2 ^ 64) :
    shiftFor (nearestNat n * one) ≤ 2045 := by
  rcases Nat.eq_zero_or_pos (nearestNat n) with zero | positive
  · rw [zero, Nat.zero_mul]
    decide
  · have rounded : nearestNat n ≤ 2 ^ 64 := by
      rw [← Nat.one_mul (2 ^ 64), ← nearestNat_multiple (by decide) 64, Nat.one_mul]
      exact nearestNat_mono bound
    have digits : (nearestNat n).log2 ≤ 64 := by
      rw [← Nat.log2_two_pow (n := 64)]
      exact log2_mono rounded
    rw [shiftFor, one_eq, log2_mul_two_pow (Nat.ne_of_gt positive)]
    omega

theorem position?_ofInt_of_natAbs_le {i : Int} (bound : i.natAbs ≤ 2 ^ 64) :
    (ofInt i).position? = some (nearest i * (one : Int)) := by
  have divides : 2 ^ shiftFor (nearestNat i.natAbs * one) ∣ nearestNat i.natAbs * one := by
    rw [← roundBinary_units]
    exact two_pow_shiftFor_dvd_nearestNat (i.natAbs * one)
  have placed := position?_ofUnits divides (shiftFor_units_le bound) (decide (i < 0))
  rw [ofInt, ofQuotient, roundBinary_units, placed, nearest]
  by_cases negative : i < 0
  · rw [if_pos (decide_eq_true negative), if_pos negative, Int.natCast_mul, Int.neg_mul]
  · rw [if_neg (by simpa using negative), if_neg negative, Int.natCast_mul]

theorem position?_ofInt {i : Int} (range : isInt64 i = true) :
    (ofInt i).position? = some (nearest i * (one : Int)) := by
  apply position?_ofInt_of_natAbs_le
  unfold isInt64 int64Max at range
  simp only [Bool.and_eq_true, decide_eq_true_eq] at range
  omega

theorem compare?_of_position? {left right : Double} {first second : Int}
    (leftPlaced : left.position? = some first) (rightPlaced : right.position? = some second) :
    left.compare? right = some (compare first second) := by
  unfold compare?
  rw [leftPlaced, rightPlaced]

theorem compare_mul_of_pos {unit : Int} (positive : 0 < unit) (first second : Int) :
    compare (first * unit) (second * unit) = compare first second := by
  rw [← cmp_eq_compare, ← cmp_eq_compare, cmp_mul_pos_right positive]

/-- Integers are ordered as doubles like the nearest integers. -/
theorem compare?_ofInt {first second : Int} (firstRange : isInt64 first = true)
    (secondRange : isInt64 second = true) :
    (ofInt first).compare? (ofInt second) = some (compare (nearest first) (nearest second)) := by
  rw [compare?_of_position? (position?_ofInt firstRange) (position?_ofInt secondRange),
    compare_mul_of_pos (Int.natCast_pos.mpr one_pos)]

/-! ### Integers of any size -/

/-- The place of a magnitude, which is that of infinity when no double is so large. -/
def capped (units : Nat) : Nat :=
  if shiftFor units ≤ 2045 then units else 1 <<< 2098

theorem capped_le (units : Nat) : capped units ≤ 1 <<< 2098 := by
  unfold capped
  split
  next inRange =>
      have digits : units.log2 + 1 ≤ 2098 := by
        unfold shiftFor at inRange
        omega
      rw [Nat.one_shiftLeft]
      generalize 2098 = places at digits ⊢
      exact Nat.le_of_lt <| Nat.lt_of_lt_of_le Nat.lt_log2_self <|
        Nat.pow_le_pow_right (by decide) digits
  next => exact Nat.le_refl _

theorem capped_mono {first second : Nat} (le : first ≤ second) : capped first ≤ capped second := by
  by_cases inRange : shiftFor second ≤ 2045
  · have smaller : shiftFor first ≤ 2045 := by
      have digits := log2_mono le
      unfold shiftFor at inRange ⊢
      omega
    rwa [capped, capped, if_pos inRange, if_pos smaller]
  · calc capped first
        ≤ 1 <<< 2098 := capped_le first
      _ = capped second := by rw [capped, if_neg inRange]

theorem position?_ofUnits_capped {units : Nat} (divides : 2 ^ shiftFor units ∣ units)
    (negative : Bool) :
    (ofUnits negative units).position? =
      some (if negative then -(capped units : Int) else capped units) := by
  by_cases inRange : shiftFor units ≤ 2045
  · rw [position?_ofUnits divides inRange, capped, if_pos inRange]
  · unfold ofUnits Finite.ofUnits? capped
    rw [dif_neg inRange, if_neg inRange]
    rfl

/-- The place of the double nearest to an integer. -/
def place (i : Int) : Int :=
  if i < 0 then -(capped (nearestNat i.natAbs * one) : Int) else capped (nearestNat i.natAbs * one)

theorem position?_ofInt_eq (i : Int) : (ofInt i).position? = some (place i) := by
  have divides : 2 ^ shiftFor (nearestNat i.natAbs * one) ∣ nearestNat i.natAbs * one := by
    rw [← roundBinary_units]
    exact two_pow_shiftFor_dvd_nearestNat (i.natAbs * one)
  rw [ofInt, ofQuotient, roundBinary_units, position?_ofUnits_capped divides, place]
  simp only [decide_eq_true_eq]

theorem place_mono {first second : Int} (le : first ≤ second) : place first ≤ place second := by
  have magnitudes {less greater : Nat} (le : less ≤ greater) :
      capped (nearestNat less * one) ≤ capped (nearestNat greater * one) :=
    capped_mono (Nat.mul_le_mul_right _ (nearestNat_mono le))
  unfold place
  rcases Int.lt_or_le first 0 with firstNegative | firstNatural
  · rw [if_pos firstNegative]
    rcases Int.lt_or_le second 0 with secondNegative | secondNatural
    · rw [if_pos secondNegative]
      exact Int.neg_le_neg (Int.ofNat_le.mpr (magnitudes (by omega)))
    · rw [if_neg (Int.not_lt.mpr secondNatural)]
      omega
  · rw [if_neg (Int.not_lt.mpr firstNatural), if_neg (by omega)]
    exact Int.ofNat_le.mpr (magnitudes (by omega))

theorem equals_iff_of_position? {left right : Double} {place : Int}
    (placed : left.position? = some place) :
    left.equals right = true ↔ right.position? = some place := by
  unfold equals compare?
  rw [placed]
  cases right.position? with
  | none => simp
  | some other => rw [beq_iff_eq, Option.some.injEq, Option.some.injEq, Int.compare_eq_eq, eq_comm]

end Double

end RecordFilter.Number
