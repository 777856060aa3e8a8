/-!
# Splitting and searching text

A text with `n` separators has `n + 1` pieces. A text occurs in another when it starts one
of the other's tails.
-/

namespace RecordFilter.Text

/-- The pieces between separators, in order. -/
def splitAt (separator : Char) : List Char → List (List Char)
  | [] => [[]]
  | c :: rest =>
      if c = separator then [] :: splitAt separator rest
      else
        match splitAt separator rest with
        | [] => [[c]]
        | piece :: pieces => (c :: piece) :: pieces

theorem splitAt_ne_nil (separator : Char) (text : List Char) :
    splitAt separator text ≠ [] := by
  cases text with
  | nil => simp [splitAt]
  | cons c rest =>
      unfold splitAt
      split
      · simp
      · split <;> simp

def startsWith (text part : String) : Bool :=
  part.toList.isPrefixOf text.toList

def endsWith (text part : String) : Bool :=
  part.toList.isSuffixOf text.toList

def occursIn (part : List Char) : List Char → Bool
  | [] => part.isEmpty
  | c :: rest => part.isPrefixOf (c :: rest) || occursIn part rest

def contains (text part : String) : Bool :=
  occursIn part.toList text.toList

/-- Texts with a separator between each two. -/
def joinWith (separator : String) : List String → String
  | [] => ""
  | [text] => text
  | text :: rest => text ++ separator ++ joinWith separator rest

end RecordFilter.Text
