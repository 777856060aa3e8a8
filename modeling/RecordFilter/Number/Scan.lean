import RecordFilter.Number.Double
import RecordFilter.Number.Integer

/-!
# Reading decimal numbers

A decimal number has an optional sign, digits with an optional point and at least one digit
on either side of it, and an optional exponent. It is read as the double nearest to it.
-/

namespace RecordFilter.Number

def naturalOf (digits : List Char) : Nat :=
  digits.foldl (fun value c => value * 10 + (c.toNat - 48)) 0

/-- Removes a sign; the first component says whether it was a minus. -/
def splitSign : List Char → Bool × List Char
  | '-' :: rest => (true, rest)
  | '+' :: rest => (false, rest)
  | text => (false, text)

/-- Reads an exponent mark with its digits, or nothing, to the end of the text. -/
def readExponent : List Char → Option Int
  | [] => some 0
  | mark :: rest =>
      if mark = 'e' || mark = 'E' then
        let (negative, digits) := splitSign rest
        if digits.isEmpty || !digits.all Char.isDigit then none
        else if negative then some (-(naturalOf digits : Int))
        else some (naturalOf digits)
      else none

/-- A decimal number as written: the digits on both sides of the point and the exponent. -/
structure DecimalText where
  negative : Bool
  whole : List Char
  fraction : List Char
  exponent : Int
deriving DecidableEq

/-- Reads a decimal number that takes up the whole text. -/
def readDecimal (text : List Char) : Option DecimalText :=
  let (negative, body) := splitSign text
  let whole := body.takeWhile Char.isDigit
  let (fraction, rest) :=
    match body.dropWhile Char.isDigit with
    | '.' :: more => (more.takeWhile Char.isDigit, more.dropWhile Char.isDigit)
    | more => ([], more)
  if whole.isEmpty && fraction.isEmpty then none
  else (readExponent rest).map fun exponent => ⟨negative, whole, fraction, exponent⟩

/-- The double nearest to `natural * 10 ^ exponent`. Numbers far beyond the largest double
or below the smallest are not computed. -/
def Double.ofDecimal (negative : Bool) (natural : Nat) (exponent : Int) : Double :=
  let top := exponent + (Nat.toDigits 10 natural).length
  if natural = 0 ∨ top < -330 then ofUnits negative 0
  else if 310 < top then infinite negative
  else ofQuotient negative (natural * Nat.pow 10 exponent.toNat)
      (Nat.pow 10 (-exponent).toNat)

def DecimalText.toDouble (number : DecimalText) : Double :=
  .ofDecimal number.negative (naturalOf (number.whole ++ number.fraction))
    (number.exponent - number.fraction.length)

/-- Reads a decimal number as a finite double. -/
def readDouble (text : List Char) : Option Double := do
  let number ← readDecimal text
  let double := number.toDouble
  if double.isFinite then some double else none

end RecordFilter.Number
