import RecordFilter.Number.Decimal

/-!
# Writing doubles

A layout says how the shortest digits become text: where positional notation ends, and
whether a whole number keeps a fraction. There are two: JSON text and plain text.
-/

namespace RecordFilter.Number

/-- The decisions of a text format for doubles. -/
structure Layout where
  /-- The decimal points written positionally; others are written with an exponent. -/
  isPositional : Int → Bool
  /-- What stands after a whole number. -/
  wholeEnding : List Char
  tie : Tie

namespace Layout

/-- JSON text is positional from `0.00001` up to sixteen digits, and a whole number ends
in `.0`. -/
def json : Layout where
  isPositional point := -4 ≤ point && point ≤ 16
  wholeEnding := ['.', '0']
  tie := .even

/-- Plain text never has an exponent, and a whole number has no fraction. -/
def plain : Layout where
  isPositional _ := true
  wholeEnding := []
  tie := .up

def zeros (count : Nat) : List Char :=
  List.replicate count '0'

/-- Digits with a decimal point at the given place. -/
def positional (layout : Layout) (number : Decimal) : List Char :=
  if number.point ≤ 0 then
    ['0', '.'] ++ zeros (-number.point).toNat ++ number.digits
  else
    let whole := number.point.toNat
    if number.digits.length ≤ whole then
      number.digits ++ zeros (whole - number.digits.length) ++ layout.wholeEnding
    else
      number.digits.take whole ++ ['.'] ++ number.digits.drop whole

/-- One digit, the rest as a fraction, and an exponent with its sign. -/
def scientific (number : Decimal) : List Char :=
  let fraction := number.digits.drop 1
  let exponent := number.point - 1
  number.digits.take 1 ++ (if fraction.isEmpty then [] else '.' :: fraction) ++
    ['e', if exponent < 0 then '-' else '+'] ++ Nat.toDigits 10 exponent.natAbs

def finite (layout : Layout) (x : Finite) : List Char :=
  let body :=
    if x.significand = 0 then '0' :: layout.wholeEnding
    else
      let number := x.shortest layout.tie
      if layout.isPositional number.point then layout.positional number
      else scientific number
  if x.negative then '-' :: body else body

def text (layout : Layout) : Double → String
  | .nan => "NaN"
  | .infinite negative => if negative then "-inf" else "inf"
  | .finite x => String.ofList (layout.finite x)

end Layout

end RecordFilter.Number
