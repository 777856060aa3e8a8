import RecordFilter.Number.Integer

/-!
# Binary64 numbers

A double is NaN, an infinity, or a whole multiple of the smallest positive double, which is
the unit `2 ^ -1074` here. Comparison, conversion and rounding are exact arithmetic on the
number of units.
-/

namespace RecordFilter.Number

/-- A finite double: its magnitude is `significand * 2 ^ shift` units. -/
structure Finite where
  negative : Bool
  significand : Nat
  shift : Nat
  significand_lt : significand < 1 <<< 53
  shift_le : shift ≤ 2045
  normalized : shift = 0 ∨ 1 <<< 52 ≤ significand
deriving DecidableEq

/-- A binary64 number. -/
inductive Double where
  | nan
  | infinite (negative : Bool)
  | finite (value : Finite)
deriving DecidableEq

namespace Finite

def magnitude (x : Finite) : Nat :=
  x.significand <<< x.shift

def units (x : Finite) : Int :=
  if x.negative then -(x.magnitude : Int) else x.magnitude

end Finite

/-! ## Building doubles -/

/-- The shift that leaves at most 53 binary digits of a magnitude. -/
def shiftFor (units : Nat) : Nat :=
  units.log2 - 52

theorem significandFor_lt (units : Nat) : units >>> shiftFor units < 1 <<< 53 := by
  rw [Nat.shiftRight_eq_div_pow, Nat.shiftLeft_eq, Nat.one_mul,
    Nat.div_lt_iff_lt_mul (Nat.two_pow_pos _), ← Nat.pow_add]
  calc units < 2 ^ (units.log2 + 1) := Nat.lt_log2_self
    _ ≤ 2 ^ (53 + shiftFor units) :=
        Nat.pow_le_pow_right (by decide) (by unfold shiftFor; omega)

theorem significandFor_normalized (units : Nat) :
    shiftFor units = 0 ∨ 1 <<< 52 ≤ units >>> shiftFor units := by
  by_cases small : units.log2 ≤ 52
  · exact Or.inl (by unfold shiftFor; omega)
  · right
    have nonzero : units ≠ 0 := by
      rintro rfl
      simp at small
    rw [Nat.shiftRight_eq_div_pow, Nat.shiftLeft_eq, Nat.one_mul,
      Nat.le_div_iff_mul_le (Nat.two_pow_pos _), ← Nat.pow_add]
    calc 2 ^ (52 + shiftFor units) = 2 ^ units.log2 := by
          congr 1
          unfold shiftFor
          omega
      _ ≤ units := Nat.log2_self_le nonzero

/-- The nearest quotient of two naturals, a half going to the even neighbour. -/
def roundHalfEven (numerator denominator : Nat) : Nat :=
  let quotient := numerator / denominator
  let remainder := numerator % denominator
  if denominator < 2 * remainder || (2 * remainder = denominator && quotient % 2 = 1) then
    quotient + 1
  else
    quotient

/-- Rounds a quotient of naturals to a multiple of `2 ^ lowest` with at most `precision`
binary digits. -/
def roundBinary (precision lowest numerator denominator : Nat) : Nat :=
  let shift := max lowest ((numerator / denominator).log2 + 1 - precision)
  roundHalfEven numerator (denominator <<< shift) <<< shift

/-- The finite double with the given magnitude in units, cut to 53 binary digits, unless the
magnitude is beyond the largest double. -/
def Finite.ofUnits? (negative : Bool) (units : Nat) : Option Finite :=
  if inRange : shiftFor units ≤ 2045 then
    some
      ⟨negative, units >>> shiftFor units, shiftFor units, significandFor_lt units,
        inRange, significandFor_normalized units⟩
  else
    none

namespace Double

/-- The double with the given magnitude in units, cut to 53 binary digits; a magnitude
beyond the largest double gives an infinity. -/
def ofUnits (negative : Bool) (units : Nat) : Double :=
  match Finite.ofUnits? negative units with
  | some value => .finite value
  | none => .infinite negative

def one : Nat := 1 <<< 1074

/-- The double nearest to a quotient of naturals. -/
def ofQuotient (negative : Bool) (numerator denominator : Nat) : Double :=
  ofUnits negative (roundBinary 53 0 (numerator * one) denominator)

def ofNat (n : Nat) : Double :=
  ofQuotient false n 1

def ofInt (i : Int) : Double :=
  ofQuotient (i < 0) i.natAbs 1

def zero : Double := ofUnits false 0

/-- The opposite number; the sign of zero changes too. -/
def neg : Double → Double
  | nan => nan
  | infinite negative => infinite !negative
  | finite x => finite { x with negative := !x.negative }

/-- The nearest number of single precision: 24 binary digits, none below `2 ^ -149`. -/
def toSingle : Double → Double
  | finite x =>
      let rounded := roundBinary 24 925 x.magnitude 1
      if rounded < 1 <<< 1202 then ofUnits x.negative rounded else infinite x.negative
  | other => other

/-! ## Reading doubles -/

def isFinite : Double → Bool
  | finite _ => true
  | _ => false

/-- The place of infinity: the first magnitude that no finite double has. -/
def beyond : Int := (1 <<< 2098 : Nat)

/-- The place of a double on the line: its units, or just beyond all of them for an
infinity. NaN has no place. -/
def position? : Double → Option Int
  | nan => none
  | infinite negative => some (if negative then -beyond else beyond)
  | finite x => some x.units

/-- The order of two doubles; with NaN there is none, and the two zeros are equal. -/
def compare? (left right : Double) : Option Ordering :=
  match left.position?, right.position? with
  | some l, some r => some (compare l r)
  | _, _ => none

/-- Numeric equality: NaN differs from itself, and the two zeros are equal. -/
def equals (left right : Double) : Bool :=
  left.compare? right == some .eq

def isBelow (left right : Double) : Bool :=
  left.compare? right == some .lt

/-- The integer that a double is, if it is one. -/
def toInt? : Double → Option Int
  | finite x => if x.units % (one : Int) = 0 then some (x.units / (one : Int)) else none
  | _ => none

/-- The 64-bit integer that a double is, if it is one. The largest such integer is no double;
the double next to it is the first beyond the range. -/
def toInt64? (x : Double) : Option Int :=
  if x.isBelow (ofInt (-(int64Max : Int) - 1)) || !x.isBelow (ofInt int64Max) then none
  else x.toInt?

end Double

end RecordFilter.Number
