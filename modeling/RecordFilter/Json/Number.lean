import RecordFilter.Json.Basic
import RecordFilter.Number.Scan

/-!
# JSON numbers as text

A number without fraction and exponent that fits 64 bits is an integer; minus zero and all
others are doubles. A double is read from the leading digits that fit an unsigned 64-bit
number, rounded once, and then scaled by a power of ten with one rounding for each step.
-/

namespace RecordFilter.JsonNumber

open Number

/-- Appends digits to a number while it fits 64 bits; the digits that do not are left. -/
def accumulate (value : Nat) : List Char → Nat × List Char
  | [] => (value, [])
  | c :: rest =>
      let next := value * 10 + (c.toNat - 48)
      if 1 <<< 64 ≤ next then (value, c :: rest) else accumulate next rest

/-- The units of a natural, rounded to a double. -/
def rounded (natural : Nat) : Nat :=
  roundBinary 53 0 (natural * Double.one) 1

def product (left right : Nat) : Nat :=
  roundBinary 53 0 (left * right) Double.one

def quotient (left right : Nat) : Nat :=
  roundBinary 53 0 (left * Double.one) right

/-- Divides by a power of ten, in steps of at most `10 ^ 308`. -/
def divideByPower (units exponent : Nat) : Nat :=
  if exponent ≤ 308 then quotient units (rounded (Nat.pow 10 exponent))
  else if units = 0 then 0
  else divideByPower (quotient units (rounded (Nat.pow 10 308))) (exponent - 308)
termination_by exponent

/-- The units of `significand * 10 ^ exponent`, unless that is beyond the largest double. -/
def scaled? (significand : Nat) (exponent : Int) : Option Nat :=
  if exponent < 0 then
    some (divideByPower (rounded significand) exponent.natAbs)
  else if significand = 0 then some 0
  else if 308 < exponent then none
  else
    let units := product (rounded significand) (rounded (Nat.pow 10 exponent.toNat))
    if units < 1 <<< 2098 then some units else none

/-- A number as written, split at the point and the exponent mark. -/
structure Written where
  negative : Bool
  whole : List Char
  fraction : Option (List Char)
  exponent : Option Int

namespace Written

/-- Reads the exponent, if there is one, to the end of the text. -/
def scanExponent : List Char → Option (Option Int)
  | [] => some none
  | text => (readExponent text).map some

/-- Splits a number without its sign. The whole part has no leading zero, and a point and an
exponent mark are followed by digits. -/
def ofUnsigned (negative : Bool) (text : List Char) : Option Written := do
  let whole := text.takeWhile Char.isDigit
  guard (!whole.isEmpty && (whole.length = 1 || whole.head? ≠ some '0'))
  match text.dropWhile Char.isDigit with
  | '.' :: more =>
      let fraction := more.takeWhile Char.isDigit
      guard (!fraction.isEmpty)
      return ⟨negative, whole, some fraction, ← scanExponent (more.dropWhile Char.isDigit)⟩
  | rest => return ⟨negative, whole, none, ← scanExponent rest⟩

def ofChars : List Char → Option Written
  | '-' :: rest => ofUnsigned true rest
  | text => ofUnsigned false text

/-- The value of a number, unless it is beyond the largest double. -/
def value? (written : Written) : Option JsonNumber :=
  let (leading, dropped) := accumulate 0 written.whole
  if written.fraction.isNone && written.exponent.isNone && dropped.isEmpty then
    if !written.negative then some (.integer leading)
    else if leading = 0 || int64Max + 1 < leading then
      (Finite.ofUnits? true (rounded leading)).map .double
    else some (.integer (-leading))
  else
    let fraction := written.fraction.getD []
    let (significand, unread) := accumulate leading fraction
    let exponent : Int :=
      written.exponent.getD 0 + dropped.length - (fraction.length - unread.length : Nat)
    ((scaled? significand exponent).bind (Finite.ofUnits? written.negative)).map .double

end Written

end RecordFilter.JsonNumber
