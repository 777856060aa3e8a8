/-!
# Integer text

Integers are written in decimal digits with a minus sign, and read back in the 64-bit
range. Reading tells apart why a text is no such integer: the first digit that is none, or
the first digit that leaves the range, decides.
-/

namespace RecordFilter.Number

/-- The digits of an integer, with a minus sign when it is negative. -/
def integerChars (i : Int) : List Char :=
  if i < 0 then '-' :: Nat.toDigits 10 i.natAbs else Nat.toDigits 10 i.natAbs

def integerText (i : Int) : String :=
  String.ofList (integerChars i)

/-- Why a text is not a 64-bit integer. -/
inductive IntegerFault where
  | empty
  | invalidDigit
  | tooLarge
  | tooSmall
deriving DecidableEq

def IntegerFault.message : IntegerFault → String
  | empty => "cannot parse integer from empty string"
  | invalidDigit => "invalid digit found in string"
  | tooLarge => "number too large to fit in target type"
  | tooSmall => "number too small to fit in target type"

def digit? (c : Char) : Option Nat :=
  if c.isDigit then some (c.toNat - 48) else none

/-- Reads digits onto `value`, up to `limit`. -/
def readDigits (limit : Nat) (beyond : IntegerFault) (value : Nat) :
    List Char → Except IntegerFault Nat
  | [] => .ok value
  | c :: rest =>
      match digit? c with
      | none => .error .invalidDigit
      | some digit =>
          let next := value * 10 + digit
          if limit < next then .error beyond else readDigits limit beyond next rest

def int64Max : Nat := 0x7FFFFFFFFFFFFFFF

def int32Max : Nat := 0x7FFFFFFF

def isInt64 (i : Int) : Bool :=
  -(int64Max : Int) - 1 ≤ i && i ≤ int64Max

def isInt32 (i : Int) : Bool :=
  -(int32Max : Int) - 1 ≤ i && i ≤ int32Max

/-- Reads a 64-bit integer with an optional sign. A sign alone is an invalid digit. -/
def readInteger : List Char → Except IntegerFault Int
  | [] => .error .empty
  | ['+'] => .error .invalidDigit
  | ['-'] => .error .invalidDigit
  | '-' :: digits => do
      let magnitude ← readDigits (int64Max + 1) .tooSmall 0 digits
      return -(magnitude : Int)
  | '+' :: digits => do
      let magnitude ← readDigits int64Max .tooLarge 0 digits
      return (magnitude : Int)
  | digits => do
      let magnitude ← readDigits int64Max .tooLarge 0 digits
      return (magnitude : Int)

end RecordFilter.Number
