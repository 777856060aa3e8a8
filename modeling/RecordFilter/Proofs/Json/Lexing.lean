import Mathlib.Tactic.SplitIfs
import RecordFilter.Json.Writer
import RecordFilter.Proofs.Json.Number

/-!
# Cutting written values into tokens

Every scalar is written as text that is cut into its own token, whatever tokens stand before it.
Punctuation and texts end by themselves; words and numbers end at the punctuation that follows
them, or with the text.
-/

namespace RecordFilter.JsonToken

/-! ## Texts -/

namespace TextUnit

/-- The unit is a character or its code. -/
def StandsFor (unit : TextUnit) (c : Char) : Prop :=
  unit = .char c ∨ unit = .code c.toNat

end TextUnit

/-- The code of a character is no half of a pair. -/
theorem surrogate_toNat (c : Char) :
    isHighSurrogate c.toNat = false ∧ isLowSurrogate c.toNat = false := by
  have valid : c.toNat < 0xD800 ∨ 0xDFFF < c.toNat ∧ c.toNat < 0x110000 := c.valid
  simp only [isHighSurrogate, isLowSurrogate, Bool.and_eq_false_iff, decide_eq_false_iff_not]
  omega

theorem charsOf?_cons {unit : TextUnit} {c : Char} (stands : unit.StandsFor c)
    (units : List TextUnit) : charsOf? (unit :: units) = (charsOf? units).map (c :: ·) := by
  obtain ⟨high, low⟩ := surrogate_toNat c
  rcases stands with rfl | rfl
  · rw [charsOf?]
  -- A code before another code could be the first half of a pair, but this one is none.
  · cases units with
    | nil => simp [charsOf?, high, low]
    | cons next rest =>
        cases next with
        | char other => simp [charsOf?, high, low]
        | code other => simp [charsOf?, high, low]

theorem charsOf?_eq {units : List TextUnit} {text : List Char}
    (each : List.Forall₂ TextUnit.StandsFor units text) : charsOf? units = some text := by
  induction each with
  | nil => rfl
  | cons stands _ inductionHypothesis =>
      rw [charsOf?_cons stands, inductionHypothesis, Option.map_some]

namespace Lexer

variable {tokens : List JsonToken} {rest : List Char}

theorem run_append (lexer : Lexer) (text more : List Char) :
    lexer.run (text ++ more) = (lexer.run text).bind fun next => next.run more := by
  induction text generalizing lexer with
  | nil => rfl
  | cons c text inductionHypothesis =>
      rw [List.cons_append, run, run]
      cases lexer.step c with
      | none => rfl
      | some next => exact inductionHypothesis next

/-- The tokens of a text, after those that stand before it. -/
def after (tokens : List JsonToken) (text : List Char) : Option (List JsonToken) :=
  (run ⟨tokens, .between⟩ text).bind finish

/-! ## Punctuation -/

theorem after_punctuation {c : Char} {token : JsonToken} (mark : punctuation? c = some token) :
    after tokens (c :: rest) = after (token :: tokens) rest := by
  simp [after, run, step, start, mark]

/-- A word or a number that is followed by this text is at its end. -/
def Ends (rest : List Char) : Prop :=
  ∀ c ∈ rest.head?, (punctuation? c).isSome = true

theorem ends_nil : Ends [] := by
  simp [Ends]

theorem ends_cons {c : Char} (mark : (punctuation? c).isSome = true) : Ends (c :: rest) := by
  simpa [Ends] using mark

/-- Punctuation belongs to no word and to no number. -/
theorem not_part_of_punctuation {c : Char} (mark : (punctuation? c).isSome = true) :
    c.isLower = false ∧ isNumberChar c = false := by
  have listed : c ∈ ['[', ']', '\x7b', '\x7d', ',', ':'] := by
    by_contra other
    simp only [List.mem_cons, List.not_mem_nil, or_false, not_or] at other
    obtain ⟨openArray, closeArray, openObject, closeObject, comma, colon⟩ := other
    simp [punctuation?, openArray, closeArray, openObject, closeObject, comma, colon] at mark
  simp only [List.mem_cons, List.not_mem_nil, or_false] at listed
  rcases listed with rfl | rfl | rfl | rfl | rfl | rfl
  all_goals decide

/-! ## Words and numbers -/

theorem after_word {letters : List Char} {token : JsonToken}
    (collected : run ⟨tokens, .between⟩ letters = some ⟨tokens, .word letters.reverse⟩)
    (named : wordToken? letters = some token) (ends : Ends rest) :
    after tokens (letters ++ rest) = after (token :: tokens) rest := by
  rw [after, run_append, collected, Option.bind_some]
  cases rest with
  | nil => simp [run, finish, named, after]
  | cons c rest =>
      have mark : (punctuation? c).isSome = true := ends c rfl
      simp [run, step, (not_part_of_punctuation mark).1, named, after]

theorem after_number {chars : List Char} {token : JsonToken}
    (collected : run ⟨tokens, .between⟩ chars = some ⟨tokens, .number chars.reverse⟩)
    (read : numberToken? chars = some token) (ends : Ends rest) :
    after tokens (chars ++ rest) = after (token :: tokens) rest := by
  rw [after, run_append, collected, Option.bind_some]
  cases rest with
  | nil => simp [run, finish, read, after]
  | cons c rest =>
      have mark : (punctuation? c).isSome = true := ends c rfl
      simp [run, step, (not_part_of_punctuation mark).2, read, after]

theorem run_digits {digits : List Char} (each : ∀ c ∈ digits, c.isDigit = true)
    (collected : List Char) :
    run ⟨tokens, .number collected⟩ digits =
      some ⟨tokens, .number (digits.reverse ++ collected)⟩ := by
  induction digits generalizing collected with
  | nil => rfl
  | cons c digits inductionHypothesis =>
      obtain ⟨digit, others⟩ := List.forall_mem_cons.mp each
      have belongs : isNumberChar c = true := by simp [isNumberChar, digit]
      simp [run, step, belongs, inductionHypothesis others]

theorem start_number {c : Char} (first : c = '-' ∨ c.isDigit = true) :
    start tokens c = some ⟨tokens, .number [c]⟩ := by
  have belongs : isNumberChar c = true := by
    rcases first with minus | digit
    · simp [isNumberChar, minus]
    · simp [isNumberChar, digit]
  have noMark : punctuation? c = none := by
    by_contra mark
    have other := (not_part_of_punctuation (Option.isSome_iff_ne_none.mpr mark)).2
    rw [belongs] at other
    cases other
  have noSpace : isSpace c = false := by
    by_contra space
    simp only [isSpace, Bool.not_eq_false, Bool.or_eq_true, decide_eq_true_eq] at space
    rcases space with ((rfl | rfl) | rfl) | rfl <;> revert belongs <;> decide
  have noQuote : c ≠ '\x22' := by
    rintro rfl
    revert belongs
    decide
  simp [start, noMark, noSpace, noQuote, first]

theorem run_integerChars (i : Int) :
    run ⟨tokens, .between⟩ (Number.integerChars i) =
      some ⟨tokens, .number (Number.integerChars i).reverse⟩ := by
  have digits : ∀ c ∈ Nat.toDigits 10 i.natAbs, c.isDigit = true := fun c =>
    JsonNumber.isDigit_of_mem_toDigits
  by_cases negative : i < 0
  · rw [Number.integerChars, if_pos negative, run, step, start_number (Or.inl rfl)]
    simpa using run_digits digits ['-']
  · rw [Number.integerChars, if_neg negative]
    obtain ⟨first, others, shape⟩ := List.exists_cons_of_ne_nil
      (show Nat.toDigits 10 i.natAbs ≠ [] from Nat.toDigits_ne_nil)
    rw [shape] at digits ⊢
    obtain ⟨digit, rest⟩ := List.forall_mem_cons.mp digits
    rw [run, step, start_number (Or.inr digit)]
    simpa using run_digits rest [first]

/-! ## Quoted text -/

/-- Inside a text, a character is read from its spelling. -/
def Spells (spelling : List Char) (c : Char) : Prop :=
  ∃ unit : TextUnit, unit.StandsFor c ∧ ∀ tokens units,
    run ⟨tokens, .text units⟩ spelling = some ⟨tokens, .text (unit :: units)⟩

theorem spells_self {c : Char} (quote : c ≠ '\x22') (backslash : c ≠ '\x5c')
    (noControl : ¬ c.toNat < 0x20) : Spells [c] c := by
  refine ⟨.char c, Or.inl rfl, fun tokens units => ?_⟩
  simp [run, step, quote, backslash, noControl]

theorem spells_short {mark c : Char} (other : mark ≠ 'u') (short : shortEscape? mark = some c) :
    Spells ['\x5c', mark] c := by
  refine ⟨.char c, Or.inl rfl, fun tokens units => ?_⟩
  simp [run, step, other, short]

theorem hexDigit?_digitChar : ∀ digit < 16, hexDigit? (Nat.digitChar digit) = some digit := by
  decide

theorem spells_code {c : Char} (small : c.toNat < 0x10000) : Spells (Json.codeEscape c) c := by
  refine ⟨.code c.toNat, Or.inr rfl, fun tokens units => ?_⟩
  have digit : ∀ n, hexDigit? (Nat.digitChar (n % 16)) = some (n % 16) := fun n =>
    hexDigit?_digitChar (n % 16) (Nat.mod_lt n (by decide))
  have value : ((c.toNat / 4096 % 16 * 16 + c.toNat / 256 % 16) * 16 + c.toNat / 16 % 16) * 16 +
      c.toNat % 16 = c.toNat := by omega
  simp [Json.codeEscape, Json.hexFour, run, step, digit, value]

theorem spells_escapeChar (c : Char) : Spells (Json.escapeChar c) c := by
  unfold Json.escapeChar
  split_ifs with special backspace feed newline carriage tab control
  · have escaped : c = '\x22' ∨ c = '\x5c' := by simpa using special
    rcases escaped with rfl | rfl
    · exact spells_short (by decide) rfl
    · exact spells_short (by decide) rfl
  · exact spells_short (by decide) (backspace ▸ rfl)
  · exact spells_short (by decide) (feed ▸ rfl)
  · exact spells_short (by decide) (newline ▸ rfl)
  · exact spells_short (by decide) (carriage ▸ rfl)
  · exact spells_short (by decide) (tab ▸ rfl)
  · exact spells_code (by omega)
  · have plain : c ≠ '\x22' ∧ c ≠ '\x5c' := by simpa using special
    exact spells_self plain.1 plain.2 control

theorem exists_units {text : List Char} {spelling : Char → List Char}
    (each : ∀ c ∈ text, Spells (spelling c) c) :
    ∃ units, List.Forall₂ TextUnit.StandsFor units text ∧ ∀ tokens collected,
      run ⟨tokens, .text collected⟩ (text.flatMap spelling) =
        some ⟨tokens, .text (units.reverse ++ collected)⟩ := by
  induction text with
  | nil => exact ⟨[], .nil, fun tokens collected => rfl⟩
  | cons c rest inductionHypothesis =>
      obtain ⟨first, others⟩ := List.forall_mem_cons.mp each
      obtain ⟨unit, stands, reads⟩ := first
      obtain ⟨units, standFor, readsRest⟩ := inductionHypothesis others
      refine ⟨unit :: units, .cons stands standFor, fun tokens collected => ?_⟩
      rw [List.flatMap_cons, run_append, reads, Option.bind_some, readsRest]
      simp

/-- A text is read from the spellings of its characters between quotes. -/
theorem after_text {text : List Char} {spelling : Char → List Char}
    (each : ∀ c ∈ text, Spells (spelling c) c) :
    after tokens ('\x22' :: (text.flatMap spelling ++ '\x22' :: rest)) =
      after (.string (some (String.ofList text)) :: tokens) rest := by
  obtain ⟨units, standFor, reads⟩ := exists_units each
  have opened : start tokens '\x22' = some ⟨tokens, .text []⟩ := rfl
  rw [after, run, step, opened]
  dsimp only
  rw [run_append, reads, Option.bind_some, run, step]
  simp [charsOf?_eq standFor, after]

end Lexer

end RecordFilter.JsonToken
