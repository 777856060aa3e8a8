import RecordFilter.Number.Scan

/-!
# Scanning timestamps

Small readers for the parts of a written timestamp. A scanner reads from the start of a
text and leaves the rest.
-/

namespace RecordFilter.Calendar

/-- A reader that takes characters from the start of a text, or fails. -/
abbrev Scan (α : Type) : Type :=
  StateT (List Char) Option α

namespace Scan

/-- Takes one character that satisfies a condition. -/
def char (accept : Char → Bool) : Scan Char := fun text =>
  match text with
  | [] => none
  | c :: rest => if accept c then some (c, rest) else none

def exact (c : Char) : Scan Unit := do
  let _ ← char (· == c)

/-- Takes at least `least` and at most `most` decimal digits. -/
def digits (least most : Nat) : Scan (List Char) := fun text =>
  let taken := (text.take most).takeWhile Char.isDigit
  if taken.length < least then none else some (taken, text.drop taken.length)

/-- Takes at least one digit and all that follow. -/
def allDigits : Scan (List Char) := fun text =>
  let taken := text.takeWhile Char.isDigit
  if taken.isEmpty then none else some (taken, text.dropWhile Char.isDigit)

/-- Takes a number of at least `least` and at most `most` digits. -/
def number (least most : Nat) : Scan Nat := do
  let taken ← digits least most
  return Number.naturalOf taken

/-- The nanoseconds that decimal places of a second stand for; places beyond the ninth are
ignored. -/
def nanosOf (places : List Char) : Nat :=
  Number.naturalOf ((places ++ List.replicate 9 '0').take 9)

/-- Takes a point with at least one decimal place, or nothing. -/
def fraction : Scan (Option Nat) := fun text =>
  match text with
  | '.' :: rest => (do return some (nanosOf (← allDigits))) rest
  | _ => some (none, text)

def run? {α : Type} (scan : Scan α) (text : List Char) : Option α :=
  match scan text with
  | some (value, []) => some value
  | _ => none

end Scan

end RecordFilter.Calendar
