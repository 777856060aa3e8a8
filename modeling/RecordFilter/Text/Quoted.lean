import RecordFilter.Text.Lower
import RecordFilter.Text.ShownTable

/-!
# Quoted text

A quoted text stands between double quotes. Quotes, backslashes and the usual controls are
escaped by name, and every other hidden character by its code point in braces.
-/

namespace RecordFilter.Text.Quoted

/-- The code point of a character in lower-case hexadecimal digits, without padding. -/
def codePoint (c : Char) : List Char :=
  Nat.toDigits 16 c.toNat

def encodeChar (c : Char) : List Char :=
  if c = '\x22' || c = '\x5c' then ['\x5c', c]
  else if c = '\n' then ['\x5c', 'n']
  else if c = '\r' then ['\x5c', 'r']
  else if c = '\t' then ['\x5c', 't']
  else if c = '\x00' then ['\x5c', '0']
  else if inRanges hiddenRanges c then
    ['\x5c', 'u', '\x7b'] ++ codePoint c ++ ['\x7d']
  else [c]

def encodeChars (text : List Char) : List Char :=
  '\x22' :: (text.flatMap encodeChar ++ ['\x22'])

def encode (text : String) : String :=
  String.ofList (encodeChars text.toList)

end RecordFilter.Text.Quoted
