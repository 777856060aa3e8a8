import RecordFilter.Json.Basic
import RecordFilter.Number.Integer
import RecordFilter.Number.Layout

/-!
# Writing JSON text

The text is compact. In strings only quotes, backslashes and the controls below U+0020 are
escaped; five of those controls have a short escape.
-/

namespace RecordFilter

namespace JsonNumber

def chars : JsonNumber → List Char
  | integer value => Number.integerChars value
  | double value => (Number.Layout.json.text (.finite value)).toList

end JsonNumber

namespace Json

/-- A code in four lower-case hexadecimal digits. -/
def hexFour (code : Nat) : List Char :=
  [code / 4096 % 16, code / 256 % 16, code / 16 % 16, code % 16].map Nat.digitChar

def codeEscape (c : Char) : List Char :=
  '\x5c' :: 'u' :: hexFour c.toNat

def escapeChar (c : Char) : List Char :=
  if c = '\x22' || c = '\x5c' then ['\x5c', c]
  else if c = '\x08' then ['\x5c', 'b']
  else if c = '\x0c' then ['\x5c', 'f']
  else if c = '\n' then ['\x5c', 'n']
  else if c = '\r' then ['\x5c', 'r']
  else if c = '\t' then ['\x5c', 't']
  else if c.toNat < 0x20 then codeEscape c
  else [c]

def stringChars (text : String) : List Char :=
  '\x22' :: (text.toList.flatMap escapeChar ++ ['\x22'])

mutual

def chars : Json → List Char
  | null => ['n', 'u', 'l', 'l']
  | bool true => ['t', 'r', 'u', 'e']
  | bool false => ['f', 'a', 'l', 's', 'e']
  | number value => value.chars
  | string value => stringChars value
  | array items => '[' :: (itemChars items ++ [']'])
  | object members => '\x7b' :: (memberChars members ++ ['\x7d'])

def itemChars : List Json → List Char
  | [] => []
  | [item] => chars item
  | item :: rest => chars item ++ ',' :: itemChars rest

def memberChars : List (String × Json) → List Char
  | [] => []
  | [(name, member)] => stringChars name ++ ':' :: chars member
  | (name, member) :: rest => stringChars name ++ ':' :: (chars member ++ ',' :: memberChars rest)

end

def write (json : Json) : String :=
  String.ofList json.chars

end Json

end RecordFilter
