import RecordFilter.Text.CaseTable

/-!
# Full lower-casing

Every character is replaced by its lower-case form. Two characters are special: a capital
I with a dot becomes two characters, and a capital sigma becomes the final form at the end
of a word. A word ends at a sigma when, skipping case-ignorable characters, a cased
character stands before it and none stands after it.
-/

namespace RecordFilter.Text

def inRanges (ranges : List (Nat × Nat)) (c : Char) : Bool :=
  ranges.any fun (first, last) => first ≤ c.toNat && c.toNat ≤ last

def isCased (c : Char) : Bool :=
  inRanges casedRanges c

def isCaseIgnorable (c : Char) : Bool :=
  inRanges caseIgnorableRanges c

/-- The capital sigma, whose lower-case form depends on its place in the word. -/
def capitalSigma : Char := '\u03A3'

/-- The lower-case form that a table row gives for a code point it covers. -/
def shiftedBy? (code : Nat) (row : Nat × Nat × Nat × Int) : Option Char :=
  let (first, last, step, shift) := row
  if first ≤ code && code ≤ last && (code - first) % step = 0 then
    some (Char.ofNat (code + shift).toNat)
  else
    none

/-- The lower-case form of a character, whatever stands around it. -/
def lowerChar (c : Char) : List Char :=
  if c.toNat < 128 then [c.toLower]
  else if c = '\u0130' then ['i', '\u0307']
  else [(lowerRanges.findSome? (shiftedBy? c.toNat)).getD c]

/-- Whether the first character that is not case-ignorable is cased. -/
def startsCased (text : List Char) : Bool :=
  match text.dropWhile isCaseIgnorable with
  | [] => false
  | c :: _ => isCased c

/-- The form of a capital sigma between the reversed text before it and the text after. -/
def lowerSigma (before after : List Char) : Char :=
  if startsCased before && !startsCased after then '\u03C2' else '\u03C3'

/-- Lower-cases a text, given the reversed text that stands before it. -/
def lowerAfter (before : List Char) : List Char → List Char
  | [] => []
  | c :: rest =>
      (if c = capitalSigma then [lowerSigma before rest] else lowerChar c) ++
        lowerAfter (c :: before) rest

def lower (text : String) : String :=
  String.ofList (lowerAfter [] text.toList)

end RecordFilter.Text
