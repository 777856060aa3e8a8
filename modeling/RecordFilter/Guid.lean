/-!
# Unique identifiers

A guid is thirty-two hexadecimal digits. It is written in lower case, in groups of 8, 4, 4,
4 and 12 digits with hyphens between them.
-/

namespace RecordFilter

/-- A 128-bit unique identifier by its hexadecimal digits. -/
structure Guid where
  digits : List (Fin 16)
  length_eq : digits.length = 32
deriving DecidableEq

namespace Guid

def hexValue? (c : Char) : Option (Fin 16) :=
  if c.isDigit then some (Fin.ofNat 16 (c.toNat - 48))
  else if 'a' ≤ c && c ≤ 'f' then some (Fin.ofNat 16 (c.toNat - 87))
  else if 'A' ≤ c && c ≤ 'F' then some (Fin.ofNat 16 (c.toNat - 55))
  else none

def hexChar (value : Fin 16) : Char :=
  Nat.digitChar value

def ofDigits? (digits : List (Fin 16)) : Option Guid :=
  if length_eq : digits.length = 32 then some ⟨digits, length_eq⟩ else none

def readSimple (text : List Char) : Option Guid := do
  ofDigits? (← text.mapM hexValue?)

/-- Reads five groups of digits with hyphens between them. -/
def readHyphenated (text : List Char) : Option Guid := do
  let hyphens := [8, 13, 18, 23].map fun place => text[place]?
  guard (text.length = 36 && hyphens.all (· == some '-'))
  let digits :=
    text.take 8 ++ (text.drop 9).take 4 ++ (text.drop 14).take 4 ++ (text.drop 19).take 4 ++
      text.drop 24
  readSimple digits

/-- The name space that may stand before the digits, in lower case. -/
def nameSpace : List Char := "urn:uuid:".toList

/-- Reads a guid: digits alone, or hyphenated, the latter also in braces or after the name
space, each of whose letters may be of either case. -/
def read (text : List Char) : Option Guid :=
  match text with
  | '\x7b' :: rest =>
      if rest.getLast? = some '\x7d' then readHyphenated rest.dropLast else none
  | _ =>
      if (text.take nameSpace.length).map Char.toLower = nameSpace then
        readHyphenated (text.drop nameSpace.length)
      else (readSimple text).orElse fun _ => readHyphenated text

def text (guid : Guid) : String :=
  let chars := guid.digits.map hexChar
  String.ofList <|
    chars.take 8 ++ ['-'] ++ (chars.drop 8).take 4 ++ ['-'] ++ (chars.drop 12).take 4 ++
      ['-'] ++ (chars.drop 16).take 4 ++ ['-'] ++ chars.drop 20

def zero : Guid :=
  ⟨List.replicate 32 0, by simp⟩

end Guid

end RecordFilter
