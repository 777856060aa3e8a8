import RecordFilter.Calendar.Date

/-!
# Timestamps

A timestamp is a day, a second of that day and a number of nanoseconds. A leap second is
kept as the second before it with a thousand million or more nanoseconds, so it lies after
every other instant of that second and before the next minute.
-/

namespace RecordFilter.Calendar

/-- A wall-clock timestamp without offset. -/
structure Timestamp where
  /-- Days since 1970-01-01. -/
  day : Int
  /-- Seconds since midnight. -/
  second : Nat
  nano : Nat
  second_lt : second < 86400
  nano_lt : nano < 2000000000
deriving DecidableEq

namespace Timestamp

/-- Earlier timestamps come first. -/
def order (left right : Timestamp) : Ordering :=
  (compare left.day right.day).then <|
    (compare left.second right.second).then <|
      compare left.nano right.nano

def ofDay (day : Int) : Timestamp :=
  ⟨day, 0, 0, by decide, by decide⟩

def midnight (time : Timestamp) : Timestamp :=
  ofDay time.day

/-- The timestamp of a clock reading, if there is one. Second 60 is a leap second. -/
def ofClock? (day : Int) (hour minute second nano : Nat) : Option Timestamp :=
  if valid : hour < 24 ∧ minute < 60 ∧ second ≤ 60 ∧ nano < 1000000000 then
    some
      ⟨day, hour * 3600 + minute * 60 + min second 59,
        if second = 60 then nano + 1000000000 else nano,
        by omega, by split <;> omega⟩
  else
    none

def shift (time : Timestamp) (seconds : Int) : Timestamp :=
  let total := time.day * 86400 + time.second + seconds
  ⟨total / 86400, (total % 86400).toNat, time.nano, by omega, time.nano_lt⟩

/-! ## Text -/

def padded (width n : Nat) : List Char :=
  let digits := Nat.toDigits 10 n
  List.replicate (width - digits.length) '0' ++ digits

/-- Four digits for the years 0 to 9999, otherwise a sign and at least four digits. -/
def yearChars (year : Int) : List Char :=
  if 0 ≤ year && year ≤ 9999 then padded 4 year.natAbs
  else (if year < 0 then '-' else '+') :: padded 4 year.natAbs

def dateChars (time : Timestamp) : List Char :=
  let date := Date.ofDay time.day
  yearChars date.year ++ ['-'] ++ padded 2 date.month ++ ['-'] ++ padded 2 date.day

/-- The clock reading without fraction; a leap second reads 60. -/
def clockChars (time : Timestamp) : List Char :=
  let leap := if 1000000000 ≤ time.nano then 1 else 0
  padded 2 (time.second / 3600) ++ [':'] ++ padded 2 (time.second / 60 % 60) ++ [':'] ++
    padded 2 (time.second % 60 + leap)

/-- The fraction of the second in three, six or nine digits, the fewest that are exact. -/
def fractionChars (time : Timestamp) : List Char :=
  let nano := time.nano % 1000000000
  if nano = 0 then []
  else if nano % 1000000 = 0 then '.' :: padded 3 (nano / 1000000)
  else if nano % 1000 = 0 then '.' :: padded 6 (nano / 1000)
  else '.' :: padded 9 nano

/-- The exact text of a timestamp with the given mark between date and clock. -/
def exactText (time : Timestamp) (mark : Char) : String :=
  String.ofList (time.dateChars ++ [mark] ++ time.clockChars ++ time.fractionChars)

def text (time : Timestamp) : String :=
  String.ofList (time.dateChars ++ ['T'] ++ time.clockChars)

end Timestamp

end RecordFilter.Calendar
