import RecordFilter.Number.Double

/-!
# Shortest decimal digits

The digits of a double are the fewest that read back as the same double; among those, the
ones nearest to it. Two equally near candidates are told apart by a rule that the output
format chooses.
-/

namespace RecordFilter.Number

/-- A decimal number `0.d₁d₂… * 10 ^ point` without leading or trailing zero digits. -/
structure Decimal where
  digits : List Char
  point : Int
deriving DecidableEq

/-- Which of two equally near candidates is taken. -/
inductive Tie where
  | even
  | up
deriving DecidableEq

namespace Finite

/-- Four times the magnitude, so that the halves of both neighbouring gaps are whole. -/
def quarters (x : Finite) : Nat :=
  4 * x.magnitude

/-- The lower end of the interval that rounds to the number, in quarter units. The gap below
a power of two is half as wide as the gap above. -/
def lowerEnd (x : Finite) : Nat :=
  if x.significand = 1 <<< 52 ∧ x.shift ≠ 0 then x.quarters - 1 <<< x.shift
  else x.quarters - 2 <<< x.shift

def upperEnd (x : Finite) : Nat :=
  x.quarters + 2 <<< x.shift

/-- Whether `candidate / scale` quarter units round to the number. The ends of the interval
belong to it when the significand is even. -/
def covers (x : Finite) (candidate scale : Nat) : Bool :=
  if x.significand % 2 = 0 then
    x.lowerEnd * scale ≤ candidate && candidate ≤ x.upperEnd * scale
  else
    x.lowerEnd * scale < candidate && candidate < x.upperEnd * scale

/-- The exponent of the first power of ten above the magnitude. -/
def decimalPoint (x : Finite) : Int :=
  let scaled := x.magnitude * Nat.pow 10 400 / Double.one
  (Nat.toDigits 10 scaled).length - 400

/-- The candidate with `count` digits: the nearer of the two neighbours on that grid that
round to the number, if one does. -/
def candidate? (x : Finite) (tie : Tie) (count : Nat) : Option Nat :=
  let exponent := x.decimalPoint - count
  let scale := Nat.pow 10 (-exponent).toNat
  let step := Nat.pow 10 exponent.toNat * (4 * Double.one)
  let target := x.quarters * scale
  let low := target / step
  let lowFits := x.covers (low * step) scale
  let highFits := x.covers ((low + 1) * step) scale
  if lowFits && highFits then
    let below := target - low * step
    let above := (low + 1) * step - target
    let lowWins := below < above || (below = above && tie = .even && low % 2 = 0)
    some (if lowWins then low else low + 1)
  else if lowFits then some low
  else if highFits then some (low + 1)
  else none

/-- The decimal number whose digits are those of a natural, with `count` places before the
exponent `point` applies. -/
def decimalOf (natural count : Nat) (point : Int) : Decimal :=
  let digits := Nat.toDigits 10 natural
  let significant := (digits.reverse.dropWhile (· == '0')).reverse
  ⟨significant, point + digits.length - count⟩

/-- The shortest digits of a nonzero number. Seventeen always suffice. -/
def shortest (x : Finite) (tie : Tie) : Decimal :=
  let found := (List.range 17).findSome? fun index =>
    (x.candidate? tie (index + 1)).map fun natural =>
      decimalOf natural (index + 1) x.decimalPoint
  found.getD ⟨[], 0⟩

end Finite

end RecordFilter.Number
