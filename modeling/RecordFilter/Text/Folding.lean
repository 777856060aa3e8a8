/-!
# ASCII letter case

Names of operators, types and enum members are compared without regard to the case of the
letters A to Z; all other characters are compared as they are.
-/

namespace RecordFilter.Text

/-- The text with A to Z replaced by a to z. -/
def lowerAscii (text : String) : String :=
  text.map Char.toLower

/-- Whether two texts differ at most in the case of ASCII letters. -/
def equalIgnoringCase (left right : String) : Bool :=
  left.toList.map Char.toLower == right.toList.map Char.toLower

theorem equalIgnoringCase_iff (left right : String) :
    equalIgnoringCase left right = true ↔
      left.toList.map Char.toLower = right.toList.map Char.toLower := by
  simp [equalIgnoringCase]

theorem equalIgnoringCase_refl (text : String) :
    equalIgnoringCase text text = true := by
  simp [equalIgnoringCase]

end RecordFilter.Text
