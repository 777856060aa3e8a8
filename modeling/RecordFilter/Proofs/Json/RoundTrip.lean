import RecordFilter.Json.Reader
import RecordFilter.Proofs.Json.Lexing
import RecordFilter.Proofs.Json.Ordered

/-!
# Written values are read back

The text of a value is cut into the tokens of the value, and these are read as its own document.
So a value whose numbers are all integers is read back from its text, unless it is nested deeper
than text may be.
-/

namespace RecordFilter

namespace Json

/-- What holds of scalars, and of arrays and objects once it holds of what they hold, holds of
every value. -/
@[elab_as_elim]
theorem tree_induction {motive : Json → Prop} (null : motive .null)
    (bool : ∀ value, motive (.bool value)) (number : ∀ value, motive (.number value))
    (string : ∀ value, motive (.string value))
    (array : ∀ items : List Json, (∀ item ∈ items, motive item) → motive (.array items))
    (object : ∀ members : List (String × Json), (∀ member ∈ members, motive member.2) →
      motive (.object members))
    (json : Json) : motive json :=
  match json with
  | .null => null
  | .bool value => bool value
  | .number value => number value
  | .string value => string value
  | .array items => array items fun item _member =>
      tree_induction null bool number string array object item
  | .object members => object members fun member _member =>
      tree_induction null bool number string array object member.2
termination_by sizeOf json
decreasing_by
  · have smaller := List.sizeOf_lt_of_mem _member
    simp only [Json.array.sizeOf_spec]
    omega
  · have smaller := List.sizeOf_lt_of_mem _member
    obtain ⟨name, value⟩ := member
    simp only [Json.object.sizeOf_spec, Prod.mk.sizeOf_spec] at smaller ⊢
    omega

/-! ## Tokens of a value -/

mutual

/-- The tokens of the text of a value. -/
def tokens : Json → List JsonToken
  | null => [.null]
  | bool value => [.bool value]
  | number value => [.number (some value)]
  | string value => [.string (some value)]
  | array items => .openArray :: (itemTokens items ++ [.closeArray])
  | object members => .openObject :: (memberTokens members ++ [.closeObject])

def itemTokens : List Json → List JsonToken
  | [] => []
  | [item] => tokens item
  | item :: rest => tokens item ++ .comma :: itemTokens rest

def memberTokens : List (String × Json) → List JsonToken
  | [] => []
  | [(name, member)] => .string (some name) :: .colon :: tokens member
  | (name, member) :: rest =>
      .string (some name) :: .colon :: (tokens member ++ .comma :: memberTokens rest)

end

section Separated

variable (item : Json) (member second : String × Json)

theorem itemChars_cons_cons (second : Json) (rest : List Json) :
    itemChars (item :: second :: rest) = item.chars ++ ',' :: itemChars (second :: rest) := rfl

theorem itemTokens_cons_cons (second : Json) (rest : List Json) :
    itemTokens (item :: second :: rest) = item.tokens ++ .comma :: itemTokens (second :: rest) :=
  rfl

theorem memberChars_cons_cons (rest : List (String × Json)) :
    memberChars (member :: second :: rest) =
      stringChars member.1 ++
        ':' :: (member.2.chars ++ ',' :: memberChars (second :: rest)) := rfl

theorem memberTokens_cons_cons (rest : List (String × Json)) :
    memberTokens (member :: second :: rest) =
      .string (some member.1) :: .colon ::
        (member.2.tokens ++ .comma :: memberTokens (second :: rest)) := rfl

end Separated

/-! ## Cutting -/

/-- All numbers in a value are integers of 64 bits, with a sign or without. -/
inductive IsIntegral : Json → Prop where
  | null : IsIntegral .null
  | bool (value : Bool) : IsIntegral (.bool value)
  | integer {value : Int} (stored : (JsonNumber.integer value).IsStored) :
      IsIntegral (.integer value)
  | string (value : String) : IsIntegral (.string value)
  | array {items : List Json} (each : ∀ item ∈ items, IsIntegral item) :
      IsIntegral (.array items)
  | object {members : List (String × Json)} (each : ∀ member ∈ members, IsIntegral member.2) :
      IsIntegral (.object members)

/-- The text of a value is cut into its tokens, wherever it stands. -/
def IsCut (json : Json) : Prop :=
  ∀ before rest, JsonToken.Lexer.Ends rest →
    JsonToken.Lexer.after before (json.chars ++ rest) =
      JsonToken.Lexer.after (json.tokens.reverse ++ before) rest

section Cutting

open JsonToken JsonToken.Lexer

variable {before : List JsonToken} {rest : List Char}

theorem after_stringChars (text : String) :
    after before (stringChars text ++ rest) = after (.string (some text) :: before) rest := by
  have spelled : after before ('\x22' :: (text.toList.flatMap escapeChar ++ '\x22' :: rest)) =
      after (.string (some (String.ofList text.toList)) :: before) rest :=
    after_text fun c _ => spells_escapeChar c
  simpa [stringChars] using spelled

theorem after_itemChars {items : List Json} (each : ∀ item ∈ items, item.IsCut)
    (ends : Ends rest) :
    after before (itemChars items ++ rest) = after ((itemTokens items).reverse ++ before) rest := by
  induction items generalizing before with
  | nil => rfl
  | cons item others inductionHypothesis =>
      obtain ⟨first, later⟩ := List.forall_mem_cons.mp each
      cases others with
      | nil => exact first before rest ends
      | cons second others =>
          have comma : punctuation? ',' = some .comma := rfl
          rw [itemChars_cons_cons, itemTokens_cons_cons, List.append_assoc, List.cons_append,
            first before _ (ends_cons rfl), after_punctuation comma, inductionHypothesis later]
          simp

theorem after_memberChars {members : List (String × Json)}
    (each : ∀ member ∈ members, member.2.IsCut) (ends : Ends rest) :
    after before (memberChars members ++ rest) =
      after ((memberTokens members).reverse ++ before) rest := by
  have colon : punctuation? ':' = some .colon := rfl
  induction members generalizing before with
  | nil => rfl
  | cons member others inductionHypothesis =>
      obtain ⟨first, later⟩ := List.forall_mem_cons.mp each
      cases others with
      | nil =>
          rw [memberChars, memberTokens, List.append_assoc, after_stringChars, List.cons_append,
            after_punctuation colon, first _ rest ends]
          simp
      | cons second others =>
          have comma : punctuation? ',' = some .comma := rfl
          rw [memberChars_cons_cons, memberTokens_cons_cons, List.append_assoc,
            after_stringChars, List.cons_append, after_punctuation colon, List.append_assoc,
            List.cons_append, first _ _ (ends_cons rfl), after_punctuation comma,
            inductionHypothesis later]
          simp

theorem isCut_of_isIntegral {json : Json} (integral : json.IsIntegral) : json.IsCut := by
  induction integral with
  | null => exact fun before rest ends => after_word rfl rfl ends
  | bool value =>
      intro before rest ends
      cases value with
      | true => exact after_word rfl rfl ends
      | false => exact after_word rfl rfl ends
  | integer stored =>
      intro before rest ends
      exact after_number (run_integerChars _) (numberToken?_integerChars stored) ends
  | string value => exact fun before rest _ => after_stringChars value
  | array _ inductionHypothesis =>
      intro before rest _
      have opening : punctuation? '[' = some .openArray := rfl
      have closing : punctuation? ']' = some .closeArray := rfl
      rw [chars, tokens, List.cons_append, after_punctuation opening, List.append_assoc,
        List.singleton_append, after_itemChars inductionHypothesis (ends_cons rfl),
        after_punctuation closing]
      simp
  | object _ inductionHypothesis =>
      intro before rest _
      have opening : punctuation? '\x7b' = some .openObject := rfl
      have closing : punctuation? '\x7d' = some .closeObject := rfl
      rw [chars, tokens, List.cons_append, after_punctuation opening, List.append_assoc,
        List.singleton_append, after_memberChars inductionHypothesis (ends_cons rfl),
        after_punctuation closing]
      simp

theorem ofChars_chars {json : Json} (integral : json.IsIntegral) :
    JsonToken.ofChars json.chars = some json.tokens := by
  have cut := isCut_of_isIntegral integral [] [] ends_nil
  rw [List.append_nil, List.append_nil] at cut
  exact cut.trans (by simp [after, run, finish])

end Cutting

end Json

/-! ## Reading -/

namespace JsonDocument

open Json

/-- A value or the first item of an array may stand next. -/
def Expected.IsValue (expected : Expected) : Prop :=
  expected = .value ∨ expected = .firstItem

def Expected.IsName (expected : Expected) : Prop :=
  expected = .name ∨ expected = .firstName

/-- The tokens of a value complete its document, in whatever it stands. -/
def Completes (json : Json) : Prop :=
  ∀ (frames : List Frame) (expected : Expected) (rest : List JsonToken), expected.IsValue →
    (Progress.reading frames expected).run (json.tokens ++ rest) =
      (Progress.complete (.ofValue json) frames).run rest

theorem run_itemTokens {item : Json} {others : List Json}
    (each : ∀ other ∈ item :: others, Completes other) (frames : List Frame)
    (collected : List JsonDocument) {expected : Expected} (next : expected.IsValue)
    (rest : List JsonToken) :
    (Progress.reading (.array collected :: frames) expected).run
        (itemTokens (item :: others) ++ .closeArray :: rest) =
      (Progress.complete (.array (collected.reverse ++ ofItems (item :: others))) frames).run
        rest := by
  induction others generalizing item collected expected with
  | nil =>
      have complete : Completes item := each item List.mem_cons_self
      have closed :
          (Progress.reading (.array (ofValue item :: collected) :: frames) .separator).run
              (.closeArray :: rest) =
            (Progress.complete (.array (ofValue item :: collected).reverse) frames).run rest := rfl
      rw [itemTokens, complete _ _ _ next, Progress.complete, closed, List.reverse_cons,
        ofItems, ofItems]
  | cons second others inductionHypothesis =>
      obtain ⟨complete, later⟩ := List.forall_mem_cons.mp each
      have separated :
          (Progress.reading (.array (ofValue item :: collected) :: frames) .separator).run
              (.comma :: (itemTokens (second :: others) ++ .closeArray :: rest)) =
            (Progress.reading (.array (ofValue item :: collected) :: frames) .value).run
              (itemTokens (second :: others) ++ .closeArray :: rest) := rfl
      rw [itemTokens_cons_cons, List.append_assoc, complete _ _ _ next, Progress.complete,
        List.cons_append, separated, inductionHypothesis later _ (Or.inl rfl)]
      simp [ofItems]

theorem run_memberTokens {member : String × Json} {others : List (String × Json)}
    (each : ∀ other ∈ member :: others, Completes other.2) (frames : List Frame)
    (collected : List (Option String × JsonDocument)) (before : Option String)
    {expected : Expected} (next : expected.IsName) (rest : List JsonToken) :
    (Progress.reading (.object collected before :: frames) expected).run
        (memberTokens (member :: others) ++ .closeObject :: rest) =
      (Progress.complete
        (.object (collected.reverse ++ ofMemberList (member :: others))) frames).run rest := by
  have named : ∀ (name : String) (rest : List JsonToken),
      (Progress.reading (.object collected before :: frames) expected).run
          (.string (some name) :: .colon :: rest) =
        (Progress.reading (.object collected (some name) :: frames) .value).run rest := by
    intro name rest
    rcases next with rfl | rfl <;> rfl
  induction others generalizing member collected before expected with
  | nil =>
      obtain ⟨name, value⟩ := member
      have complete : Completes value := each (name, value) List.mem_cons_self
      have closed :
          (Progress.reading
              (.object ((some name, ofValue value) :: collected) (some name) :: frames)
              .separator).run (.closeObject :: rest) =
            (Progress.complete (.object ((some name, ofValue value) :: collected).reverse)
              frames).run rest := rfl
      rw [memberTokens, List.cons_append, List.cons_append, named,
        complete _ _ _ (Or.inl rfl), Progress.complete, closed, List.reverse_cons,
        ofMemberList, ofMemberList]
  | cons second others inductionHypothesis =>
      obtain ⟨name, value⟩ := member
      obtain ⟨complete, later⟩ := List.forall_mem_cons.mp each
      have separated :
          (Progress.reading
              (.object ((some name, ofValue value) :: collected) (some name) :: frames)
              .separator).run
              (.comma :: (memberTokens (second :: others) ++ .closeObject :: rest)) =
            (Progress.reading
              (.object ((some name, ofValue value) :: collected) (some name) :: frames)
              .name).run (memberTokens (second :: others) ++ .closeObject :: rest) := rfl
      rw [memberTokens_cons_cons, List.cons_append, List.cons_append, List.append_assoc,
        List.cons_append, named, complete _ _ _ (Or.inl rfl), Progress.complete, separated,
        inductionHypothesis later _ _ (Or.inl rfl) fun _ _ => rfl]
      simp [ofMemberList]

theorem completes (json : Json) : Completes json := by
  induction json using Json.tree_induction with
  | null | bool value | number value | string value =>
      intro frames expected rest next
      rcases next with rfl | rfl <;> rfl
  | array items inductionHypothesis =>
      intro frames expected rest next
      have opened : (Progress.reading frames expected).run ((Json.array items).tokens ++ rest) =
          (Progress.reading (.array [] :: frames) .firstItem).run
            (itemTokens items ++ .closeArray :: rest) := by
        rw [tokens, List.cons_append, List.append_assoc]
        rcases next with rfl | rfl <;> rfl
      rw [opened]
      cases items with
      | nil => rfl
      | cons item others => exact run_itemTokens inductionHypothesis frames [] (Or.inr rfl) rest
  | object members inductionHypothesis =>
      intro frames expected rest next
      have opened : (Progress.reading frames expected).run ((Json.object members).tokens ++ rest) =
          (Progress.reading (.object [] none :: frames) .firstName).run
            (memberTokens members ++ .closeObject :: rest) := by
        rw [tokens, List.cons_append, List.append_assoc]
        rcases next with rfl | rfl <;> rfl
      rw [opened]
      cases members with
      | nil => rfl
      | cons member others =>
          exact run_memberTokens inductionHypothesis frames [] none (Or.inr rfl) rest

theorem ofTokens_tokens (json : Json) : ofTokens json.tokens = some (.ofValue json) := by
  have complete := completes json [] .value [] (Or.inl rfl)
  rw [List.append_nil] at complete
  rw [ofTokens, complete]
  rfl

end JsonDocument

/-! ## Values -/

namespace Json

/-- A text that is cut into the tokens of a value is read as the value of its document, unless
that is nested too deep. -/
theorem readChars_of_tokens {text : List Char} {json : Json}
    (cut : JsonToken.ofChars text = some json.tokens)
    (shallow : (JsonDocument.ofValue json).nesting ≤ JsonDocument.deepest) :
    readChars text = (JsonDocument.ofValue json).value? := by
  have allowed : (guard ((JsonDocument.ofValue json).nesting ≤ JsonDocument.deepest) :
      Option Unit) = some () := if_pos shallow
  rw [readChars, JsonDocument.read, cut, Option.bind_some, JsonDocument.ofTokens_tokens,
    Option.bind_eq_bind, Option.bind_some, allowed]
  rfl

/-- A value with integers only is read back from its text, unless it is nested too deep. -/
theorem readChars_chars {json : Json} (integral : json.IsIntegral) (ordered : json.IsOrdered)
    (shallow : (JsonDocument.ofValue json).nesting ≤ JsonDocument.deepest) :
    readChars json.chars = some json := by
  rw [readChars_of_tokens (ofChars_chars integral) shallow]
  exact JsonDocument.value?_ofValue ordered

end Json

end RecordFilter
