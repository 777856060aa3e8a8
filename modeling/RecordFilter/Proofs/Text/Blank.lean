import Mathlib.Data.List.Forall2
import Mathlib.Data.List.TakeWhile
import RecordFilter.Text.Blank
import RecordFilter.Text.Split

/-!
# Blanks around text

A text is its trimmed text with blanks before and after it, so trimming twice is trimming
once. A separator that is no blank splits a text and its trimmed text into pieces that differ
in outer blanks only.
-/

namespace RecordFilter.Text

def IsPadding (text : List Char) : Prop :=
  ∀ c ∈ text, isBlank c = true

theorem IsPadding.reverse {padding : List Char} (blank : IsPadding padding) :
    IsPadding padding.reverse :=
  fun c member => blank c (List.mem_reverse.mp member)

theorem isPadding_takeWhile (text : List Char) : IsPadding (text.takeWhile isBlank) :=
  fun _ member => List.mem_takeWhile_imp member

/-! ## Trimming -/

theorem trimStart_append_padding (text : List Char) {padding : List Char}
    (blank : IsPadding padding) :
    trimStart (text ++ padding) = trimStart text ++ padding ∨
      trimStart text = [] ∧ trimStart (text ++ padding) = [] := by
  unfold trimStart
  rw [List.dropWhile_append]
  by_cases empty : (text.dropWhile isBlank).isEmpty = true
  · right
    rw [if_pos empty]
    exact ⟨List.isEmpty_iff.mp empty, List.dropWhile_eq_nil_iff.mpr blank⟩
  · left
    rw [if_neg empty]

theorem trimEnd_append_padding {text padding : List Char} (blank : IsPadding padding) :
    trimEnd (text ++ padding) = trimEnd text := by
  rw [trimEnd_eq_reverse, trimEnd_eq_reverse, List.reverse_append,
    trimStart_append_of_blank blank.reverse]

theorem trimChars_append_padding {text padding : List Char} (blank : IsPadding padding) :
    trimChars (text ++ padding) = trimChars text := by
  unfold trimChars
  rcases trimStart_append_padding text blank with more | ⟨none, noMore⟩
  · rw [more, trimEnd_append_padding blank]
  · rw [none, noMore]

theorem trimChars_padding_append {text padding : List Char} (blank : IsPadding padding) :
    trimChars (padding ++ text) = trimChars text := by
  unfold trimChars
  rw [trimStart_append_of_blank blank]

theorem exists_padding (text : List Char) :
    ∃ before after, IsPadding before ∧ IsPadding after ∧
      text = before ++ (trimChars text ++ after) := by
  refine ⟨text.takeWhile isBlank, ((trimStart text).reverse.takeWhile isBlank).reverse,
    isPadding_takeWhile text, (isPadding_takeWhile _).reverse, ?_⟩
  have trailing :
      trimChars text ++ ((trimStart text).reverse.takeWhile isBlank).reverse =
        trimStart text := by
    unfold trimChars
    rw [trimEnd_eq_reverse, ← List.reverse_append]
    unfold trimStart
    rw [List.takeWhile_append_dropWhile, List.reverse_reverse]
  rw [trailing]
  exact List.takeWhile_append_dropWhile.symm

theorem trimChars_sublist (text : List Char) : (trimChars text).Sublist text := by
  obtain ⟨before, after, _, _, equality⟩ := exists_padding text
  have inner : (trimChars text).Sublist (before ++ (trimChars text ++ after)) :=
    (List.sublist_append_left _ _).trans (List.sublist_append_right _ _)
  rwa [← equality] at inner

theorem trimChars_trimChars (text : List Char) : trimChars (trimChars text) = trimChars text := by
  obtain ⟨before, after, blankBefore, blankAfter, equality⟩ := exists_padding text
  calc trimChars (trimChars text)
      = trimChars (before ++ (trimChars text ++ after)) := by
        rw [trimChars_padding_append blankBefore, trimChars_append_padding blankAfter]
    _ = trimChars text := by rw [← equality]

@[simp]
theorem trim_trim (text : String) : trim (trim text) = trim text := by
  unfold trim
  rw [String.toList_ofList, trimChars_trimChars]

/-- Only blanks are trimmed to nothing. -/
theorem trimChars_eq_nil_iff {text : List Char} : trimChars text = [] ↔ IsPadding text := by
  constructor
  · intro nothing
    obtain ⟨before, after, blankBefore, blankAfter, equality⟩ := exists_padding text
    rw [equality, nothing]
    exact fun c member => (List.mem_append.mp member).elim (blankBefore c) (blankAfter c)
  · intro blank
    have trimmed : trimChars ([] ++ text) = trimChars [] := trimChars_append_padding blank
    exact trimmed

/-- A text without blanks at its ends is not changed. -/
theorem trimChars_eq_self {text : List Char} (first : ∀ c ∈ text.head?, isBlank c = false)
    (last : ∀ c ∈ text.getLast?, isBlank c = false) : trimChars text = text := by
  have start : ∀ {text : List Char}, (∀ c ∈ text.head?, isBlank c = false) →
      trimStart text = text := by
    intro text visible
    cases text with
    | nil => rfl
    | cons c rest => exact trimStart_cons_of_not_blank (visible c rfl)
  have reversed : trimStart text.reverse = text.reverse :=
    start fun c member => last c (by rwa [← List.head?_reverse])
  rw [trimChars, start first, trimEnd_eq_reverse, reversed, List.reverse_reverse]

/-- A text between two characters that are no blanks is not changed. -/
theorem trimChars_between {first last : Char} (visibleFirst : isBlank first = false)
    (visibleLast : isBlank last = false) (text : List Char) :
    trimChars (first :: (text ++ [last])) = first :: (text ++ [last]) := by
  have closing : (first :: (text ++ [last])).getLast? = some last := by
    rw [← List.cons_append, List.getLast?_concat]
  refine trimChars_eq_self ?_ ?_
  · rintro c ⟨⟩
    exact visibleFirst
  · intro c member
    rw [closing] at member
    cases member
    exact visibleLast

/-! ## Splitting -/

section Split

variable {separator : Char} {text padding : List Char}

theorem splitAt_cons_of_ne {c : Char} {piece : List Char} {pieces : List (List Char)}
    (other : c ≠ separator) (split : splitAt separator text = piece :: pieces) :
    splitAt separator (c :: text) = (c :: piece) :: pieces := by
  rw [splitAt, if_neg other, split]

theorem exists_splitAt_eq_cons (separator : Char) (text : List Char) :
    ∃ piece pieces, splitAt separator text = piece :: pieces :=
  List.exists_cons_of_ne_nil (splitAt_ne_nil separator text)

/-- Characters before the first separator belong to the first piece. -/
theorem splitAt_append_left {piece : List Char} {pieces : List (List Char)}
    (free : ∀ c ∈ padding, c ≠ separator) (split : splitAt separator text = piece :: pieces) :
    splitAt separator (padding ++ text) = (padding ++ piece) :: pieces := by
  induction padding with
  | nil => exact split
  | cons c rest inductionHypothesis =>
      have restFree : ∀ other ∈ rest, other ≠ separator :=
        fun other member => free other (List.mem_cons_of_mem c member)
      exact splitAt_cons_of_ne (free c List.mem_cons_self) (inductionHypothesis restFree)

/-- A text without separators, a separator and a rest are a piece before those of the rest. -/
theorem splitAt_append_separator (free : ∀ c ∈ padding, c ≠ separator) :
    splitAt separator (padding ++ separator :: text) = padding :: splitAt separator text := by
  have split : splitAt separator (separator :: text) = [] :: splitAt separator text := by
    rw [splitAt, if_pos rfl]
  simpa using splitAt_append_left free split

/-- Pieces without separators are what their text with a separator between each two is split
into. -/
theorem splitAt_intercalate {pieces : List (List Char)} (some : pieces ≠ [])
    (free : ∀ piece ∈ pieces, separator ∉ piece) :
    splitAt separator (List.intercalate [separator] pieces) = pieces := by
  have others : ∀ {piece : List Char}, separator ∉ piece → ∀ c ∈ piece, c ≠ separator := by
    rintro piece absent c member rfl
    exact absent member
  induction pieces with
  | nil => exact absurd rfl some
  | cons piece rest inductionHypothesis =>
      obtain ⟨first, later⟩ := List.forall_mem_cons.mp free
      cases rest with
      | nil =>
          have alone : splitAt separator (piece ++ []) = [piece ++ []] :=
            splitAt_append_left (others first) rfl
          simpa [List.intercalate] using alone
      | cons second rest =>
          rw [List.intercalate_cons_cons, List.append_assoc, List.singleton_append,
            splitAt_append_separator (others first),
            inductionHypothesis (List.cons_ne_nil second rest) later]

/-- A separator puts the pieces of the text before it and of the text after it in a row. -/
theorem splitAt_append (text more : List Char) :
    splitAt separator (text ++ separator :: more) =
      splitAt separator text ++ splitAt separator more := by
  induction text with
  | nil => exact splitAt_append_separator fun c member => absurd member List.not_mem_nil
  | cons c rest inductionHypothesis =>
      by_cases same : c = separator
      · rw [List.cons_append, splitAt, splitAt, if_pos same, if_pos same, inductionHypothesis]
        rfl
      · obtain ⟨piece, pieces, split⟩ := exists_splitAt_eq_cons separator rest
        rw [split] at inductionHypothesis
        rw [splitAt_cons_of_ne same split]
        exact splitAt_cons_of_ne same inductionHypothesis

/-- Characters after the last separator belong to the last piece. -/
theorem splitAt_append_right (text : List Char) (free : ∀ c ∈ padding, c ≠ separator) :
    List.Forall₂ (fun longer piece => longer = piece ∨ longer = piece ++ padding)
      (splitAt separator (text ++ padding)) (splitAt separator text) := by
  induction text with
  | nil =>
      have whole : splitAt separator (padding ++ []) = [padding ++ []] :=
        splitAt_append_left free rfl
      rw [List.append_nil] at whole
      rw [List.nil_append, whole, splitAt]
      exact .cons (Or.inr rfl) .nil
  | cons c rest inductionHypothesis =>
      by_cases same : c = separator
      · rw [List.cons_append, splitAt, splitAt, if_pos same, if_pos same]
        exact .cons (Or.inl rfl) inductionHypothesis
      · obtain ⟨piece, pieces, split⟩ := exists_splitAt_eq_cons separator rest
        obtain ⟨longer, others, longerSplit⟩ := exists_splitAt_eq_cons separator (rest ++ padding)
        rw [split, longerSplit] at inductionHypothesis
        rw [List.cons_append, splitAt_cons_of_ne same split, splitAt_cons_of_ne same longerSplit]
        cases inductionHypothesis with
        | cons head tail =>
            refine .cons ?_ tail
            rcases head with rfl | rfl
            · exact Or.inl rfl
            · exact Or.inr rfl

/-- Trimming before splitting makes no difference to trimmed pieces. -/
theorem map_trimChars_splitAt_trimChars (text : List Char)
    (visible : isBlank separator = false) :
    (splitAt separator (trimChars text)).map trimChars =
      (splitAt separator text).map trimChars := by
  have free : ∀ {padding : List Char}, IsPadding padding → ∀ c ∈ padding, c ≠ separator := by
    rintro padding blank c member rfl
    rw [blank c member] at visible
    cases visible
  -- The blanks at the two ends belong to the first and to the last piece, where trimming the
  -- pieces removes them again.
  obtain ⟨before, after, blankBefore, blankAfter, equality⟩ := exists_padding text
  generalize trimChars text = core at equality ⊢
  subst equality
  have withoutBefore :
      (splitAt separator (before ++ (core ++ after))).map trimChars =
        (splitAt separator (core ++ after)).map trimChars := by
    obtain ⟨piece, pieces, split⟩ := exists_splitAt_eq_cons separator (core ++ after)
    rw [splitAt_append_left (free blankBefore) split, split, List.map_cons, List.map_cons,
      trimChars_padding_append blankBefore]
  have withoutAfter :
      (splitAt separator (core ++ after)).map trimChars =
        (splitAt separator core).map trimChars := by
    have pieces := splitAt_append_right core (free blankAfter)
    rw [← List.forall₂_eq_eq_eq, List.forall₂_map_left_iff, List.forall₂_map_right_iff]
    refine pieces.imp fun longer piece same => ?_
    rcases same with rfl | rfl
    · rfl
    · exact trimChars_append_padding blankAfter
  rw [withoutBefore, withoutAfter]

end Split

end RecordFilter.Text
