import RecordFilter.Proofs.Literal.Delimited

/-!
# Pieces of delimited text

A text without commas is written as a piece: as it is or between quotes, with blanks around it.
Pieces with a comma between each two, which may be in brackets, are split into their texts again.
What the brackets, the blanks and the quotes of a piece hold is not looked at.
-/

namespace RecordFilter.Delimited

/-! ## Quotes -/

/-- The quotes that a text may be written between. -/
inductive Quote where
  | single
  | double
deriving DecidableEq

def Quote.char : Quote → Char
  | single => '\x27'
  | double => '\x22'

/-- The text begins and ends with the same quote, and these are two characters. -/
def IsQuoted (text : List Char) : Prop :=
  ∃ (quote : Quote) (inner : List Char), text = quote.char :: (inner ++ [quote.char])

theorem between?_eq_some_iff {quote : Char} {text inner : List Char} :
    between? quote text = some inner ↔ text = quote :: (inner ++ [quote]) := by
  cases text with
  | nil => simp [between?]
  | cons c rest =>
      rw [between?]
      constructor
      · intro found
        by_cases quoted : c = quote ∧ rest.getLast? = some quote
        · obtain ⟨rfl, last⟩ := quoted
          rw [if_pos (by simp [last])] at found
          cases found
          rw [List.dropLast_append_getLast? c last]
        · rw [if_neg (by simpa using quoted)] at found
          cases found
      · intro quoted
        cases quoted
        simp

theorem unquote_quoted (quote : Quote) (inner : List Char) :
    unquote (quote.char :: (inner ++ [quote.char])) = inner := by
  cases quote with
  | double =>
      have found : between? '\x22' (Quote.double.char :: (inner ++ [Quote.double.char])) =
          some inner := between?_eq_some_iff.mpr rfl
      rw [unquote, found]
  | single =>
      have other : between? '\x22' (Quote.single.char :: (inner ++ [Quote.single.char])) =
          none := rfl
      have found : between? '\x27' (Quote.single.char :: (inner ++ [Quote.single.char])) =
          some inner := between?_eq_some_iff.mpr rfl
      rw [unquote, other, found, Option.getD_some]

theorem isQuoted_iff {text : List Char} :
    IsQuoted text ↔
      (between? '\x22' text).isSome = true ∨ (between? '\x27' text).isSome = true := by
  simp only [Option.isSome_iff_exists, between?_eq_some_iff]
  constructor
  · rintro ⟨quote, inner, quoted⟩
    cases quote with
    | single => exact Or.inr ⟨inner, quoted⟩
    | double => exact Or.inl ⟨inner, quoted⟩
  · rintro (⟨inner, quoted⟩ | ⟨inner, quoted⟩)
    · exact ⟨.double, inner, quoted⟩
    · exact ⟨.single, inner, quoted⟩

instance : DecidablePred IsQuoted := fun _ => decidable_of_iff' _ isQuoted_iff

theorem unquote_of_not_isQuoted {text : List Char} (unquoted : ¬ IsQuoted text) :
    unquote text = text := by
  rw [isQuoted_iff, not_or, Bool.not_eq_true, Bool.not_eq_true, Option.isSome_eq_false_iff,
    Option.isSome_eq_false_iff, Option.isNone_iff_eq_none, Option.isNone_iff_eq_none] at unquoted
  rw [unquote, unquoted.1, unquoted.2, Option.getD_none]

/-! ## Pieces -/

/-- A text that needs no quotes: it has no blanks at its ends, and no quotes that would be taken
for its own. -/
structure IsBare (text : List Char) : Prop where
  first : ∀ c ∈ text.head?, Text.isBlank c = false
  last : ∀ c ∈ text.getLast?, Text.isBlank c = false
  unquoted : ¬ IsQuoted text

/-- A text without commas, the quotes it is written between if there are any, and the blanks
around it. -/
structure Piece where
  text : List Char
  quote : Option Quote
  before : List Char
  after : List Char
  whole : ',' ∉ text
  bare : quote = none → IsBare text
  blankBefore : Text.IsPadding before
  blankAfter : Text.IsPadding after

namespace Piece

/-- The text with its quotes. -/
def core (piece : Piece) : List Char :=
  match piece.quote with
  | none => piece.text
  | some quote => quote.char :: (piece.text ++ [quote.char])

def chars (piece : Piece) : List Char :=
  piece.before ++ (piece.core ++ piece.after)

/-- The text as a JSON value. -/
def value (piece : Piece) : Json :=
  .string (String.ofList piece.text)

variable (piece : Piece)

theorem trimChars_core : Text.trimChars piece.core = piece.core := by
  unfold core
  split
  next none =>
      have bare := piece.bare none
      exact Text.trimChars_eq_self bare.first bare.last
  next quote quoted =>
      have visible : Text.isBlank quote.char = false := by
        cases quote with
        | single => decide
        | double => decide
      exact Text.trimChars_between visible visible piece.text

theorem trimChars_chars : Text.trimChars piece.chars = piece.core := by
  rw [chars, Text.trimChars_padding_append piece.blankBefore,
    Text.trimChars_append_padding piece.blankAfter, piece.trimChars_core]

theorem unquote_core : unquote piece.core = piece.text := by
  unfold core
  split
  next none => exact unquote_of_not_isQuoted (piece.bare none).unquoted
  next quote quoted => exact unquote_quoted quote piece.text

theorem comma_notMem_chars : ',' ∉ piece.chars := by
  have visible : Text.isBlank ',' = false := by decide
  have padding : ∀ {padding : List Char}, Text.IsPadding padding → ',' ∉ padding := by
    intro padding blank member
    rw [blank ',' member] at visible
    cases visible
  have core : ',' ∉ piece.core := by
    unfold Piece.core
    split
    next none => exact piece.whole
    next quote quoted =>
        have other : ',' ≠ quote.char := by
          cases quote with
          | single => decide
          | double => decide
        simp [piece.whole, other]
  simp [chars, padding piece.blankBefore, padding piece.blankAfter, core]

end Piece

/-! ## Splitting -/

/-- Pieces with a comma between each two. -/
def join (parts : List Piece) : List Char :=
  List.intercalate [','] (parts.map Piece.chars)

variable {parts : List Piece}

/-- A text that is not blank has the texts of its pieces, blanks around them trimmed and quotes
removed. -/
theorem pieces_eq_map {text : List Char} (visible : ¬ Text.IsPadding text) :
    pieces text =
      ((Text.splitAt ',' text).map Text.trimChars).map fun piece =>
        .string (String.ofList (unquote piece)) := by
  have shown : ¬ (Text.trimChars text).isEmpty = true := fun empty =>
    visible (Text.trimChars_eq_nil_iff.mp (List.isEmpty_iff.mp empty))
  rw [pieces, if_neg shown, List.map_map]
  rfl

/-- Blanks around a text belong to no piece. -/
theorem pieces_trimChars {text : List Char} (visible : ¬ Text.IsPadding text) :
    pieces (Text.trimChars text) = pieces text := by
  have comma : Text.isBlank ',' = false := by decide
  have trimmed : ¬ Text.IsPadding (Text.trimChars text) := by
    rw [← Text.trimChars_eq_nil_iff, Text.trimChars_trimChars, Text.trimChars_eq_nil_iff]
    exact visible
  rw [pieces_eq_map trimmed, pieces_eq_map visible,
    Text.map_trimChars_splitAt_trimChars text comma]

theorem pieces_join (visible : ¬ Text.IsPadding (join parts)) :
    pieces (join parts) = parts.map Piece.value := by
  have nonempty : parts.map Piece.chars ≠ [] := by
    intro none
    rw [join, none] at visible
    exact visible fun c member => absurd member List.not_mem_nil
  have free : ∀ piece ∈ parts.map Piece.chars, ',' ∉ piece := by
    intro piece member
    obtain ⟨part, _, rfl⟩ := List.mem_map.mp member
    exact part.comma_notMem_chars
  rw [pieces_eq_map visible, join, Text.splitAt_intercalate nonempty free, List.map_map,
    List.map_map]
  apply List.map_congr_left
  intro part _
  rw [Function.comp_apply, Function.comp_apply, part.trimChars_chars, part.unquote_core,
    Piece.value]

theorem unbracket?_eq_none {text : List Char}
    (plain : ¬ (text.head? = some '[' ∧ text.getLast? = some ']')) : unbracket? text = none := by
  unfold unbracket?
  split
  next rest =>
      split
      next closed =>
          refine absurd ⟨rfl, ?_⟩ plain
          rw [List.getLast?_cons, closed, Option.getD_some]
      next => rfl
  next => rfl

/-- Delimited text is split into the texts of its pieces. As it is, it must not look like text in
brackets; in brackets, it must not be read as a JSON array. -/
theorem joined_pieces_split_back (parts : List Piece) (visible : ¬ Text.IsPadding (join parts)) :
    (¬ ((Text.trimChars (join parts)).head? = some '[' ∧
        (Text.trimChars (join parts)).getLast? = some ']') →
      items (.ofList (join parts)) = parts.map Piece.value) ∧
    ∀ before after, Text.IsPadding before → Text.IsPadding after →
      (∀ values, Json.readChars ('[' :: (join parts ++ [']'])) ≠ some (.array values)) →
        items (.ofList (before ++ '[' :: (join parts ++ ']' :: after))) =
          parts.map Piece.value := by
  constructor
  · intro plain
    unfold items
    simp only [String.toList_ofList, unbracket?_eq_none plain]
    rw [pieces_trimChars visible, pieces_join visible]
  · intro before after blankBefore blankAfter noArray
    have trimmed : Text.trimChars (before ++ '[' :: (join parts ++ ']' :: after)) =
        '[' :: (join parts ++ [']']) := by
      have grouped : '[' :: (join parts ++ ']' :: after) =
          ('[' :: (join parts ++ [']'])) ++ after := by simp
      rw [Text.trimChars_padding_append blankBefore, grouped,
        Text.trimChars_append_padding blankAfter, Text.trimChars_brackets]
    unfold items
    -- `noArray` leaves only the branch in which the text between the brackets is split.
    simp only [String.toList_ofList, trimmed, unbracket?_brackets]
    exact pieces_join visible

/-- Pieces with a quote inside, a bracket at the start and no text at all, and a quote alone. -/
def mixedParts : List Piece :=
  [{ text := ['a', '\x22', 'b'], quote := some .single, before := ['\u00A0'], after := [' '],
     whole := by decide, bare := by simp, blankBefore := by simp [Text.IsPadding, Text.isBlank],
     blankAfter := by simp [Text.IsPadding, Text.isBlank] },
   { text := ['[', 'x'], quote := none, before := [], after := [], whole := by decide,
     bare := fun _ => ⟨by simp [Text.isBlank], by simp [Text.isBlank], by decide⟩,
     blankBefore := by simp [Text.IsPadding], blankAfter := by simp [Text.IsPadding] },
   { text := [], quote := some .double, before := [], after := [' '], whole := by decide,
     bare := by simp, blankBefore := by simp [Text.IsPadding],
     blankAfter := by simp [Text.IsPadding, Text.isBlank] },
   { text := ['\x22'], quote := none, before := [], after := [], whole := by decide,
     bare := fun _ => ⟨by simp [Text.isBlank], by simp [Text.isBlank], by decide⟩,
     blankBefore := by simp [Text.IsPadding], blankAfter := by simp [Text.IsPadding] }]

theorem joined_pieces_split_back_mixed :
    items "\u00A0'a\"b' ,[x,\"\" ,\"" =
        [.string "a\"b", .string "[x", .string "", .string "\""] ∧
      items "\n[\u00A0'a\"b' ,[x,\"\" ,\"]\t" =
        [.string "a\"b", .string "[x", .string "", .string "\""] := by
  have visible : ¬ Text.IsPadding (join mixedParts) := fun blank =>
    absurd (blank 'a' (by decide)) (by decide)
  have noJson : Json.readChars ('[' :: (join mixedParts ++ [']'])) = none := rfl
  obtain ⟨plain, bracketed⟩ := joined_pieces_split_back mixedParts visible
  constructor
  · exact plain (by decide)
  · exact bracketed ['\n'] ['\t'] (by simp [Text.IsPadding, Text.isBlank])
      (by simp [Text.IsPadding, Text.isBlank]) (by simp [noJson])

end RecordFilter.Delimited
