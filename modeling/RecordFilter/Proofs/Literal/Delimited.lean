import RecordFilter.Literal.Coercion
import RecordFilter.Proofs.Json.RoundTrip
import RecordFilter.Proofs.Record.Mirrors
import RecordFilter.Proofs.Text.Blank

/-!
# Arrays as text

The text of an array, with any blanks around it, is taken apart into the items of the array. So an
operator that takes several literals takes the same ones from the array and from its text.
-/

namespace RecordFilter

namespace Json

variable {json : Json}

theorem isOrdered_of_isScalar (scalar : json.isScalar = true) : json.IsOrdered := by
  cases json with
  | null => exact .null
  | bool value => exact .bool value
  | number value => exact .number value
  | string value => exact .string value
  | array items => cases scalar
  | object members => cases scalar

theorem nesting_of_isScalar (scalar : json.isScalar = true) :
    (JsonDocument.ofValue json).nesting = 0 := by
  cases json with
  | array items => cases scalar
  | object members => cases scalar
  | _ => simp [JsonDocument.ofValue, JsonDocument.nesting]

theorem nesting_array_of_isScalar {items : List Json}
    (scalars : ∀ item ∈ items, item.isScalar = true) :
    (JsonDocument.ofValue (.array items)).nesting = 1 := by
  have flat : JsonDocument.itemNesting (JsonDocument.ofItems items) = 0 := by
    induction items with
    | nil => rfl
    | cons item others inductionHypothesis =>
        obtain ⟨scalar, later⟩ := List.forall_mem_cons.mp scalars
        rw [JsonDocument.ofItems, JsonDocument.itemNesting, nesting_of_isScalar scalar,
          inductionHypothesis later, Nat.max_self]
  rw [JsonDocument.ofValue, JsonDocument.nesting, flat]

/-- An array of scalars is read back from its text. -/
theorem readChars_scalars {items : List Json}
    (scalars : ∀ item ∈ items, item.isScalar = true ∧ item.IsIntegral) :
    readChars (Json.array items).chars = some (.array items) := by
  apply readChars_chars
  · exact .array fun item member => (scalars item member).2
  · exact .array fun item member => isOrdered_of_isScalar (scalars item member).1
  · rw [nesting_array_of_isScalar fun item member => (scalars item member).1]
    decide

end Json

/-! ## Brackets -/

theorem Text.trimChars_brackets (text : List Char) :
    Text.trimChars ('[' :: (text ++ [']'])) = '[' :: (text ++ [']']) :=
  Text.trimChars_between (by decide) (by decide) text

theorem Delimited.unbracket?_brackets (text : List Char) :
    Delimited.unbracket? ('[' :: (text ++ [']'])) = some text := by
  simp [Delimited.unbracket?]

/-- The items of an array stand in its text, with any blanks around it. -/
theorem Delimited.items_write {items : List Json}
    (scalars : ∀ item ∈ items, item.isScalar = true ∧ item.IsIntegral) {before after : String}
    (blankBefore : Text.IsPadding before.toList) (blankAfter : Text.IsPadding after.toList) :
    Delimited.items (before ++ (Json.array items).write ++ after) = items := by
  have trimmed : Text.trimChars (before ++ (Json.array items).write ++ after).toList =
      (Json.array items).chars := by
    rw [String.toList_append, String.toList_append, Json.write, String.toList_ofList,
      Text.trimChars_append_padding blankAfter, Text.trimChars_padding_append blankBefore,
      Json.chars, Text.trimChars_brackets]
  have bracketed : Delimited.unbracket? (Json.array items).chars =
      some (Json.itemChars items) := by
    rw [Json.chars, Delimited.unbracket?_brackets]
  unfold Delimited.items
  simp only [trimmed, bracketed, Json.readChars_scalars scalars]

/-! ## Literals -/

/-- An operator with two or more literals takes the same ones, or fails with the same error, for
an array of scalars and for its text with blanks around it. -/
theorem array_text_coerced_alike (coercer : Coercer) (context : LeafContext) {arity : Arity}
    (several : arity = .pair ∨ arity = .list) {items : List Json}
    (scalars : ∀ item ∈ items, item.isScalar = true ∧ item.IsIntegral) {before after : String}
    (blankBefore : Text.IsPadding before.toList) (blankAfter : Text.IsPadding after.toList) :
    coercer.coerce context arity
        (some (.string (before ++ (Json.array items).write ++ after))) =
      coercer.coerce context arity (some (.array items)) := by
  have taken : Coercer.itemsOf arity (.string (before ++ (Json.array items).write ++ after)) =
      Coercer.itemsOf arity (.array items) := by
    unfold Coercer.itemsOf
    dsimp only
    rw [if_pos several, Delimited.items_write scalars blankBefore blankAfter]
  unfold Coercer.coerce
  simp only [taken]

theorem array_text_coerced_alike_quoted :
    let coercer : Coercer := ⟨.invariant, 0⟩
    let context : LeafContext := ⟨"Name", "in", .string⟩
    let items : List Json :=
      [.bool true, .integer (-2 ^ 63), .integer (2 ^ 64 - 1), .string "],\"[\\", .string "\x01\n𝄞"]
    coercer.coerce context .list (some (.string ("\u00A0" ++ (Json.array items).write ++ "\n"))) =
        .ok [.text "true", .text "-9223372036854775808", .text "18446744073709551615",
          .text "],\"[\\", .text "\x01\n𝄞"] ∧
      coercer.coerce context .list (some (.string ("" ++ (Json.array [.null]).write ++ ""))) =
        .error (.coercion context .null .nullValue) := by
  intro coercer context items
  have least : (JsonNumber.integer (-2 ^ 63)).IsStored := ⟨by decide, by decide⟩
  have greatest : (JsonNumber.integer (2 ^ 64 - 1)).IsStored := ⟨by decide, by decide⟩
  have scalars : ∀ item ∈ items, item.isScalar = true ∧ item.IsIntegral := by
    simp only [items, List.forall_mem_cons]
    exact ⟨⟨rfl, .bool true⟩, ⟨rfl, .integer least⟩, ⟨rfl, .integer greatest⟩,
      ⟨rfl, .string _⟩, ⟨rfl, .string _⟩, by simp⟩
  have nulls : ∀ item ∈ [Json.null], item.isScalar = true ∧ item.IsIntegral := by
    simp only [List.forall_mem_singleton]
    exact ⟨rfl, .null⟩
  constructor
  · rw [array_text_coerced_alike coercer context (Or.inr rfl) scalars
      (by simp [Text.IsPadding, Text.isBlank]) (by simp [Text.IsPadding, Text.isBlank])]
    rfl
  · rw [array_text_coerced_alike coercer context (Or.inr rfl) nulls
      (by simp [Text.IsPadding]) (by simp [Text.IsPadding])]
    rfl

end RecordFilter
