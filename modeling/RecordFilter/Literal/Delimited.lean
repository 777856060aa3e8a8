import RecordFilter.Json.Reader
import RecordFilter.Text.Blank
import RecordFilter.Text.Split

/-!
# Delimited text

Several literals may stand in one text: as a JSON array, or as pieces between commas, which
may be in brackets. Pieces are trimmed and lose a pair of quotes around them.
-/

namespace RecordFilter.Delimited

/-- The text between brackets, if it is in brackets. -/
def unbracket? : List Char → Option (List Char)
  | '[' :: rest => if rest.getLast? = some ']' then some rest.dropLast else none
  | _ => none

/-- The text between two quotes of one kind, if there are two. -/
def between? (quote : Char) : List Char → Option (List Char)
  | c :: rest => if c = quote && rest.getLast? = some quote then some rest.dropLast else none
  | [] => none

/-- Removes a pair of double or single quotes. -/
def unquote (piece : List Char) : List Char :=
  match between? '\x22' piece with
  | some inner => inner
  | none => (between? '\x27' piece).getD piece

/-- The pieces between commas; a blank text has none. -/
def pieces (text : List Char) : List Json :=
  if (Text.trimChars text).isEmpty then []
  else
    (Text.splitAt ',' text).map fun piece =>
      .string (String.ofList (unquote (Text.trimChars piece)))

def items (text : String) : List Json :=
  let trimmed := Text.trimChars text.toList
  match unbracket? trimmed with
  | none => pieces trimmed
  | some inner =>
      match Json.readChars trimmed with
      | some (.array values) => values
      | _ => pieces inner

end RecordFilter.Delimited
