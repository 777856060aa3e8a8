import RecordFilter.Literal.Culture
import RecordFilter.Proofs.Text.Blank

/-!
# Numbers with separators

A culture writes a number with a decimal separator in place of the point, and may put group
separators anywhere. Reading takes all of this back: what is left is the number as it was, also
where the two separators have changed their roles with the point and the comma.
-/

namespace RecordFilter

/-! ## Numerals -/

/-- Digits, signs and the marks of an exponent. -/
def Number.isNumeralPart (c : Char) : Bool :=
  c.isDigit || c = '+' || c = '-' || c = 'e' || c = 'E'

/-- A text of digits, signs, exponent marks and points. It need not be a number. -/
def Number.IsNumeral (text : List Char) : Prop :=
  ∀ c ∈ text, isNumeralPart c = true ∨ c = '.'

instance : DecidablePred Number.IsNumeral := fun text => List.decidableBAll _ text

theorem Number.isBlank_of_isNumeralPart {c : Char} (part : isNumeralPart c = true) :
    Text.isBlank c = false := by
  simp only [isNumeralPart, Bool.or_eq_true, decide_eq_true_eq, or_assoc] at part
  rcases part with digit | rfl | rfl | rfl | rfl
  · have range : 48 ≤ c.toNat ∧ c.toNat ≤ 57 := by
      rw [Char.isDigit, Bool.and_eq_true, decide_eq_true_iff, decide_eq_true_iff] at digit
      exact digit
    simp only [Text.isBlank, Bool.or_eq_false_iff, Bool.and_eq_false_iff, decide_eq_false_iff_not]
    omega
  all_goals decide

/-! ## Writing -/

namespace Culture

/-- A character that may separate the parts of a number without being taken for one of them. -/
structure IsSeparator (c : Char) : Prop where
  visible : Text.isBlank c = false
  other : Number.isNumeralPart c = false

instance (c : Char) : Decidable (IsSeparator c) :=
  decidable_of_iff (Text.isBlank c = false ∧ Number.isNumeralPart c = false)
    ⟨fun ⟨visible, other⟩ => ⟨visible, other⟩, fun ⟨visible, other⟩ => ⟨visible, other⟩⟩

/-- The separators of the culture are two characters, and neither is taken for a part of a
number. -/
structure Separates (culture : Culture) : Prop where
  decimal : IsSeparator culture.decimalSeparator
  group : ∀ c ∈ culture.groupSeparator, IsSeparator c
  distinct : culture.groupSeparator ≠ some culture.decimalSeparator

/-- The text with the decimal separator of the culture for each point. -/
def localize (culture : Culture) (text : List Char) : List Char :=
  text.map fun c => if c = '.' then culture.decimalSeparator else c

/-- The second text is the first with any number of separators put anywhere. -/
inductive Grouped (separator : Option Char) : List Char → List Char → Prop where
  | nil : Grouped separator [] []
  | keep (c : Char) {plain grouped : List Char} (rest : Grouped separator plain grouped) :
      Grouped separator (c :: plain) (c :: grouped)
  | insert {c : Char} (separates : separator = some c) {plain grouped : List Char}
      (rest : Grouped separator plain grouped) : Grouped separator plain (c :: grouped)

theorem Grouped.refl (separator : Option Char) (text : List Char) :
    Grouped separator text text := by
  induction text with
  | nil => exact .nil
  | cons c rest inductionHypothesis => exact .keep c inductionHypothesis

/-! ## Reading back -/

section Reading

variable {separator : Option Char} {plain grouped : List Char}

/-- What holds of the separator and of each character of a text holds of the text with separators
put in. -/
theorem Grouped.forall_mem {property : Char → Prop} (groups : Grouped separator plain grouped)
    (inserted : ∀ c ∈ separator, property c) (each : ∀ c ∈ plain, property c) :
    ∀ c ∈ grouped, property c := by
  induction groups with
  | nil => exact each
  | keep c rest inductionHypothesis =>
      obtain ⟨first, others⟩ := List.forall_mem_cons.mp each
      exact List.forall_mem_cons.mpr ⟨first, inductionHypothesis others⟩
  | insert separates rest inductionHypothesis =>
      exact List.forall_mem_cons.mpr ⟨inserted _ separates, inductionHypothesis each⟩

/-- Separators are skipped wherever they stand, and nothing else is when the text has none. -/
theorem Grouped.filter_eq (groups : Grouped separator plain grouped)
    (free : ∀ c ∈ plain, some c ≠ separator) :
    (grouped.filter fun c => some c ≠ separator) = plain := by
  induction groups with
  | nil => rfl
  | keep c rest inductionHypothesis =>
      obtain ⟨first, others⟩ := List.forall_mem_cons.mp free
      rw [List.filter_cons, if_pos (decide_eq_true first), inductionHypothesis others]
  | insert separates rest inductionHypothesis =>
      rw [List.filter_cons, if_neg (by simp [separates]), inductionHypothesis free]

end Reading

section Culture

variable {culture : Culture} {text written : List Char}

/-- No separator of the culture is a part of a number. -/
theorem Separates.ne_decimal (separates : culture.Separates) {c : Char}
    (part : Number.isNumeralPart c = true) : c ≠ culture.decimalSeparator := by
  rintro rfl
  rw [separates.decimal.other] at part
  cases part

theorem Separates.ne_group (separates : culture.Separates) {c : Char}
    (part : Number.isNumeralPart c = true) : some c ≠ culture.groupSeparator := by
  intro group
  rw [(separates.group c group.symm).other] at part
  cases part

/-- A localized numeral consists of parts of numbers and decimal separators. -/
theorem of_mem_localize (numeral : Number.IsNumeral text) {c : Char}
    (member : c ∈ culture.localize text) :
    Number.isNumeralPart c = true ∨ c = culture.decimalSeparator := by
  obtain ⟨original, originalMember, rfl⟩ := List.mem_map.mp member
  split
  next => exact Or.inr rfl
  next other => exact Or.inl ((numeral original originalMember).resolve_right other)

theorem isBlank_of_written (separates : culture.Separates) (numeral : Number.IsNumeral text)
    (groups : Grouped culture.groupSeparator (culture.localize text) written) :
    ∀ c ∈ written, Text.isBlank c = false := by
  refine groups.forall_mem (fun c group => (separates.group c group).visible) fun c member => ?_
  rcases of_mem_localize numeral member with part | rfl
  · exact Number.isBlank_of_isNumeralPart part
  · exact separates.decimal.visible

/-- Without its group separators and with points for decimal separators, the text is as it was. -/
theorem normalize_written (separates : culture.Separates) (numeral : Number.IsNumeral text)
    (groups : Grouped culture.groupSeparator (culture.localize text) written) :
    culture.normalize written = text := by
  have ungrouped : (written.filter fun c => some c ≠ culture.groupSeparator) =
      culture.localize text := by
    refine groups.filter_eq fun c member => ?_
    rcases of_mem_localize numeral member with part | rfl
    · exact separates.ne_group part
    · exact separates.distinct.symm
  have restored : ∀ c ∈ text,
      (if (if c = '.' then culture.decimalSeparator else c) = culture.decimalSeparator then '.'
        else if c = '.' then culture.decimalSeparator else c) = c := by
    intro c member
    by_cases point : c = '.'
    · rw [if_pos point, if_pos rfl, point]
    · have part := (numeral c member).resolve_right point
      rw [if_neg point, if_neg (separates.ne_decimal part)]
  rw [normalize, ungrouped, localize, List.map_map]
  exact (List.map_congr_left restored).trans (List.map_id' text)

/-- A culture reads what it has written. -/
theorem readDouble_written (separates : culture.Separates) (numeral : Number.IsNumeral text)
    (groups : Grouped culture.groupSeparator (culture.localize text) written)
    {before after : List Char} (blankBefore : Text.IsPadding before)
    (blankAfter : Text.IsPadding after) :
    culture.readDouble (.ofList (before ++ (written ++ after))) = Number.readDouble text := by
  have visible := isBlank_of_written separates numeral groups
  have trimmed : Text.trimChars (before ++ (written ++ after)) = written := by
    rw [Text.trimChars_padding_append blankBefore, Text.trimChars_append_padding blankAfter]
    exact Text.trimChars_eq_self (fun c first => visible c (List.mem_of_mem_head? first))
      fun c last => visible c (List.mem_of_mem_getLast? last)
  rw [readDouble, String.toList_ofList, trimmed, normalize_written separates numeral groups]

end Culture

/-- Numbers with a point and without groups are written as they are. -/
theorem separates_of_point {culture : Culture} (point : culture.decimalSeparator = '.')
    (ungrouped : culture.groupSeparator = none) :
    culture.Separates ∧ ∀ text, culture.localize text = text := by
  refine ⟨⟨?_, ?_, ?_⟩, fun text => ?_⟩
  · rw [point]
    decide
  · simp [ungrouped]
  · simp [ungrouped]
  · have same : ∀ c ∈ text, (if c = '.' then culture.decimalSeparator else c) = c := by
      intro c _
      rw [point]
      split
      next dot => exact dot.symm
      next => rfl
    exact (List.map_congr_left same).trans (List.map_id' text)

end Culture

/-- A numeral that is written with the separators of a culture, groups anywhere and blanks around
it, is read in this culture as it is read without groups and with a point: as the same double, or
not at all. -/
theorem separators_undone (culture plain : Culture) (separates : culture.Separates)
    (point : plain.decimalSeparator = '.') (ungrouped : plain.groupSeparator = none)
    {text written before after : List Char} (numeral : Number.IsNumeral text)
    (groups : Culture.Grouped culture.groupSeparator (culture.localize text) written)
    (blankBefore : Text.IsPadding before) (blankAfter : Text.IsPadding after) :
    culture.readDouble (.ofList (before ++ (written ++ after))) =
      plain.readDouble (.ofList text) := by
  obtain ⟨plainSeparates, unchanged⟩ := Culture.separates_of_point point ungrouped
  have groupless : Culture.Grouped plain.groupSeparator (plain.localize text) text := by
    rw [unchanged]
    exact .refl _ text
  have none : Text.IsPadding [] := fun c member => absurd member List.not_mem_nil
  have read := Culture.readDouble_written separates numeral groups blankBefore blankAfter
  have readPlain := Culture.readDouble_written plainSeparates numeral groupless none none
  rw [List.nil_append, List.append_nil] at readPlain
  rw [read, readPlain]

/-- In German numbers the point and the comma have changed their roles. Groups may have any size,
and a text that is no number stays none. -/
theorem separators_undone_german :
    let plain : Culture := { Culture.invariant with groupSeparator := none }
    Culture.german.readDouble "\u00A0.12..34,5e1.\n" = plain.readDouble "1234.5e1" ∧
      plain.readDouble "1234.5e1" = some (.ofNat 12345) ∧
      Culture.german.readDouble " 1.,2,3\t" = plain.readDouble "1.2.3" ∧
      plain.readDouble "1.2.3" = none := by
  intro plain
  have separates : Culture.german.Separates := by
    refine ⟨by decide, ?_, by decide⟩
    rintro c ⟨⟩
    decide
  have blank (c : Char) (isBlank : Text.isBlank c = true) : Text.IsPadding [c] :=
    List.forall_mem_singleton.mpr isBlank
  have numeral : Number.IsNumeral ['1', '2', '3', '4', '.', '5', 'e', '1'] := by decide
  have localized : Culture.german.localize ['1', '2', '3', '4', '.', '5', 'e', '1'] =
      ['1', '2', '3', '4', ',', '5', 'e', '1'] := rfl
  have groups : Culture.Grouped Culture.german.groupSeparator
      (Culture.german.localize ['1', '2', '3', '4', '.', '5', 'e', '1'])
      ['.', '1', '2', '.', '.', '3', '4', ',', '5', 'e', '1', '.'] := by
    rw [localized]
    exact .insert rfl <| .keep _ <| .keep _ <| .insert rfl <| .insert rfl <| .keep _ <|
      .keep _ <| .keep _ <| .keep _ <| .keep _ <| .keep _ <| .insert rfl .nil
  have otherNumeral : Number.IsNumeral ['1', '.', '2', '.', '3'] := by decide
  have otherLocalized : Culture.german.localize ['1', '.', '2', '.', '3'] =
      ['1', ',', '2', ',', '3'] := rfl
  have otherGroups : Culture.Grouped Culture.german.groupSeparator
      (Culture.german.localize ['1', '.', '2', '.', '3']) ['1', '.', ',', '2', ',', '3'] := by
    rw [otherLocalized]
    exact .keep _ <| .insert rfl <| .refl _ _
  have undone := separators_undone .german plain separates rfl rfl numeral groups
    (blank '\u00A0' (by decide)) (blank '\n' (by decide))
  have otherUndone := separators_undone .german plain separates rfl rfl otherNumeral otherGroups
    (blank ' ' (by decide)) (blank '\t' (by decide))
  -- The texts are spelled out first, or the reader is unfolded to compare the literals with them.
  have written : "\u00A0.12..34,5e1.\n" = String.ofList
      ['\u00A0', '.', '1', '2', '.', '.', '3', '4', ',', '5', 'e', '1', '.', '\n'] := rfl
  have otherWritten : " 1.,2,3\t" = String.ofList [' ', '1', '.', ',', '2', ',', '3', '\t'] := rfl
  have text : "1234.5e1" = String.ofList ['1', '2', '3', '4', '.', '5', 'e', '1'] := rfl
  have otherText : "1.2.3" = String.ofList ['1', '.', '2', '.', '3'] := rfl
  refine ⟨?_, by decide +kernel, ?_, by decide +kernel⟩
  · rw [written, text]
    exact undone
  · rw [otherWritten, otherText]
    exact otherUndone

end RecordFilter
