import RecordFilter.Json.Document
import RecordFilter.Json.Number

/-!
# JSON tokens

A text is cut into tokens one character at a time. Words and numbers end where a character
stands that cannot belong to them; texts end at their closing quote.
-/

namespace RecordFilter

inductive JsonToken where
  | openArray
  | closeArray
  | openObject
  | closeObject
  | comma
  | colon
  | null
  | bool (value : Bool)
  | number (value : Option JsonNumber)
  | string (value : Option String)

namespace JsonToken

/-- A part of a written text: a character, or a 16-bit code from a `\u` escape. -/
inductive TextUnit where
  | char (c : Char)
  | code (code : Nat)
deriving DecidableEq

def isHighSurrogate (code : Nat) : Bool :=
  0xD800 ≤ code && code < 0xDC00

def isLowSurrogate (code : Nat) : Bool :=
  0xDC00 ≤ code && code < 0xE000

/-- The characters that units stand for; a surrogate without its partner has none. -/
def charsOf? : List TextUnit → Option (List Char)
  | [] => some []
  | .char c :: rest => (charsOf? rest).map (c :: ·)
  | .code high :: .code low :: rest =>
      if isHighSurrogate high && isLowSurrogate low then
        let c := Char.ofNat (0x10000 + (high - 0xD800) * 0x400 + (low - 0xDC00))
        (charsOf? rest).map (c :: ·)
      else if isHighSurrogate high || isLowSurrogate high then none
      else (charsOf? (.code low :: rest)).map (Char.ofNat high :: ·)
  | .code code :: rest =>
      if isHighSurrogate code || isLowSurrogate code then none
      else (charsOf? rest).map (Char.ofNat code :: ·)

/-- What is being read. Collected parts are in reverse order. -/
inductive Mode where
  | between
  | word (letters : List Char)
  | number (chars : List Char)
  | text (units : List TextUnit)
  | escape (units : List TextUnit)
  | hex (units : List TextUnit) (missing value : Nat)

def isSpace (c : Char) : Bool :=
  c = ' ' || c = '\t' || c = '\n' || c = '\r'

def isNumberChar (c : Char) : Bool :=
  c.isDigit || c = '-' || c = '+' || c = '.' || c = 'e' || c = 'E'

def wordToken? (letters : List Char) : Option JsonToken :=
  if letters = ['n', 'u', 'l', 'l'] then some .null
  else if letters = ['t', 'r', 'u', 'e'] then some (.bool true)
  else if letters = ['f', 'a', 'l', 's', 'e'] then some (.bool false)
  else none

def numberToken? (chars : List Char) : Option JsonToken :=
  (JsonNumber.Written.ofChars chars).map fun written => .number written.value?

def shortEscape? (c : Char) : Option Char :=
  if c = '\x22' || c = '\x5c' || c = '/' then some c
  else if c = 'b' then some '\x08'
  else if c = 'f' then some '\x0c'
  else if c = 'n' then some '\n'
  else if c = 'r' then some '\r'
  else if c = 't' then some '\t'
  else none

def hexDigit? (c : Char) : Option Nat :=
  if c.isDigit then some (c.toNat - 48)
  else if 'a' ≤ c && c ≤ 'f' then some (c.toNat - 87)
  else if 'A' ≤ c && c ≤ 'F' then some (c.toNat - 55)
  else none

def punctuation? (c : Char) : Option JsonToken :=
  if c = '[' then some .openArray
  else if c = ']' then some .closeArray
  else if c = '\x7b' then some .openObject
  else if c = '\x7d' then some .closeObject
  else if c = ',' then some .comma
  else if c = ':' then some .colon
  else none

/-- The tokens read so far, in reverse order, and what is being read. -/
structure Lexer where
  tokens : List JsonToken
  mode : Mode

namespace Lexer

/-- Reads a character that starts something new. -/
def start (tokens : List JsonToken) (c : Char) : Option Lexer :=
  match punctuation? c with
  | some token => some ⟨token :: tokens, .between⟩
  | none =>
      if isSpace c then some ⟨tokens, .between⟩
      else if c = '\x22' then some ⟨tokens, .text []⟩
      else if c = '-' || c.isDigit then some ⟨tokens, .number [c]⟩
      else if c.isLower then some ⟨tokens, .word [c]⟩
      else none

def step (lexer : Lexer) (c : Char) : Option Lexer :=
  match lexer.mode with
  | .between => start lexer.tokens c
  | .word letters =>
      if c.isLower then some ⟨lexer.tokens, .word (c :: letters)⟩
      else (wordToken? letters.reverse).bind fun token => start (token :: lexer.tokens) c
  | .number chars =>
      if isNumberChar c then some ⟨lexer.tokens, .number (c :: chars)⟩
      else (numberToken? chars.reverse).bind fun token => start (token :: lexer.tokens) c
  | .text units =>
      if c = '\x22' then
        let text := (charsOf? units.reverse).map String.ofList
        some ⟨.string text :: lexer.tokens, .between⟩
      else if c = '\x5c' then some ⟨lexer.tokens, .escape units⟩
      else if c.toNat < 0x20 then none
      else some ⟨lexer.tokens, .text (.char c :: units)⟩
  | .escape units =>
      if c = 'u' then some ⟨lexer.tokens, .hex units 4 0⟩
      else (shortEscape? c).map fun char => ⟨lexer.tokens, .text (.char char :: units)⟩
  | .hex units missing value =>
      (hexDigit? c).map fun digit =>
        let next := value * 16 + digit
        if missing ≤ 1 then ⟨lexer.tokens, .text (.code next :: units)⟩
        else ⟨lexer.tokens, .hex units (missing - 1) next⟩

/-- Reads a whole text onto the tokens read before. -/
def run (lexer : Lexer) : List Char → Option Lexer
  | [] => some lexer
  | c :: rest =>
      match lexer.step c with
      | none => none
      | some next => run next rest

/-- The tokens at the end of the text, where a word or a number may end too. -/
def finish (lexer : Lexer) : Option (List JsonToken) :=
  match lexer.mode with
  | .between => some lexer.tokens.reverse
  | .word letters =>
      (wordToken? letters.reverse).map fun token => (token :: lexer.tokens).reverse
  | .number chars =>
      (numberToken? chars.reverse).map fun token => (token :: lexer.tokens).reverse
  | _ => none

end Lexer

def ofChars (text : List Char) : Option (List JsonToken) :=
  (Lexer.run ⟨[], .between⟩ text).bind Lexer.finish

end JsonToken

end RecordFilter
