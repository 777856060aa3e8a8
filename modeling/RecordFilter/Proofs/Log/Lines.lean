import Mathlib.Data.List.Nodup
import RecordFilter.Log.Entry
import RecordFilter.Proofs.Json.RoundTrip

/-!
# Lines are read back as entries

What an entry says is written as texts of JSON, in which every quote, backslash and control is
escaped. So no text ends early or breaks the line, the line is read as the object that was
written, and the order in which the fields were given leaves no trace.
-/

namespace RecordFilter

namespace LogEntry

open JsonToken JsonToken.Lexer

/-! ## Characters -/

/-- How a character may be written inside a text of a line. -/
inductive Escapes : Char → List Char → Prop where
  | short {mark c : Char} (other : mark ≠ 'u') (visible : 0x20 ≤ mark.toNat)
      (stands : shortEscape? mark = some c) : Escapes c ['\x5c', mark]
  | code {c : Char} (small : c.toNat < 0x10000) : Escapes c (Json.codeEscape c)
  | plain {c : Char} (quote : c ≠ '\x22') (backslash : c ≠ '\x5c') (visible : 0x20 ≤ c.toNat) :
      Escapes c [c]

theorem escapes_escapeChar (c : Char) : Escapes c (escapeChar c) := by
  unfold escapeChar
  split_ifs with special newline carriage tab control
  · have escaped : c = '\x22' ∨ c = '\x5c' := by simpa using special
    rcases escaped with rfl | rfl
    · exact .short (by decide) (by decide) rfl
    · exact .short (by decide) (by decide) rfl
  · exact .short (by decide) (by decide) (newline ▸ rfl)
  · exact .short (by decide) (by decide) (carriage ▸ rfl)
  · exact .short (by decide) (by decide) (tab ▸ rfl)
  · have small : c.toNat < 0x20 ∨ 0x7F ≤ c.toNat ∧ c.toNat ≤ 0x9F := by
      simpa [isControl] using control
    exact .code (by omega)
  · obtain ⟨quote, backslash⟩ : c ≠ '\x22' ∧ c ≠ '\x5c' := by simpa using special
    have visible : ¬ c.toNat < 0x20 := fun low => control (by simp [isControl, low])
    exact .plain quote backslash (not_lt.mp visible)

theorem spells_of_escapes {c : Char} {spelling : List Char} (escapes : Escapes c spelling) :
    Spells spelling c := by
  cases escapes with
  | short other _ stands => exact spells_short other stands
  | code small => exact spells_code small
  | plain quote backslash visible => exact spells_self quote backslash (not_lt.mpr visible)

/-- The text has no control below the space, so it does not break a line. -/
def IsOneLine (text : List Char) : Prop :=
  ∀ c ∈ text, 0x20 ≤ c.toNat

theorem isOneLine_of_escapes {c : Char} {spelling : List Char} (escapes : Escapes c spelling) :
    IsOneLine spelling := by
  cases escapes with
  | short _ visible _ => simp [IsOneLine, visible]
  | code small =>
      have hexadecimal : ∀ digit < 16, 0x20 ≤ (Nat.digitChar digit).toNat := by decide
      have digit : ∀ n, 0x20 ≤ (Nat.digitChar (n % 16)).toNat := fun n =>
        hexadecimal (n % 16) (Nat.mod_lt n (by decide))
      simp [IsOneLine, Json.codeEscape, Json.hexFour, digit]
  | plain _ _ visible => simpa [IsOneLine] using visible

/-! ## One line -/

namespace IsOneLine

variable {text more : List Char}

theorem append (first : IsOneLine text) (second : IsOneLine more) : IsOneLine (text ++ more) :=
  fun c member => (List.mem_append.mp member).elim (first c) (second c)

theorem cons {c : Char} (visible : 0x20 ≤ c.toNat) (others : IsOneLine text) :
    IsOneLine (c :: text) :=
  List.forall_mem_cons.mpr ⟨visible, others⟩

end IsOneLine

theorem isOneLine_stringChars (text : String) : IsOneLine (stringChars text) := by
  have escaped : IsOneLine (text.toList.flatMap escapeChar) := by
    intro c member
    obtain ⟨source, _, inSpelling⟩ := List.mem_flatMap.mp member
    exact isOneLine_of_escapes (escapes_escapeChar source) c inSpelling
  exact .cons (by decide) (escaped.append (.cons (by decide) (by simp [IsOneLine])))

theorem isOneLine_memberChars (member : String × String) : IsOneLine (memberChars member) :=
  (isOneLine_stringChars member.1).append (.cons (by decide) (isOneLine_stringChars member.2))

theorem isOneLine_intercalate (members : List (String × String)) :
    IsOneLine (List.intercalate [','] (members.map memberChars)) := by
  induction members with
  | nil => simp [IsOneLine]
  | cons member others inductionHypothesis =>
      cases others with
      | nil => simpa using isOneLine_memberChars member
      | cons second others =>
          rw [List.map_cons, List.map_cons, List.intercalate_cons_cons, List.append_assoc,
            List.singleton_append]
          exact (isOneLine_memberChars member).append (.cons (by decide) inductionHypothesis)

theorem isOneLine_lineChars (entry : LogEntry) : IsOneLine entry.lineChars := by
  have members := isOneLine_intercalate entry.members
  exact .cons (by decide) (members.append (.cons (by decide) (by simp [IsOneLine])))

/-! ## Reading -/

section Cutting

variable {before : List JsonToken} {rest : List Char}

theorem after_stringChars (text : String) :
    after before (stringChars text ++ rest) = after (.string (some text) :: before) rest := by
  have spelled : after before ('\x22' :: (text.toList.flatMap escapeChar ++ '\x22' :: rest)) =
      after (.string (some (String.ofList text.toList)) :: before) rest :=
    after_text fun c _ => spells_of_escapes (escapes_escapeChar c)
  simpa [stringChars] using spelled

theorem after_memberChars (member : String × String) :
    after before (memberChars member ++ rest) =
      after (.string (some member.2) :: .colon :: .string (some member.1) :: before) rest := by
  have colon : punctuation? ':' = some .colon := rfl
  rw [memberChars, List.append_assoc, after_stringChars, List.cons_append,
    after_punctuation colon, after_stringChars]

/-- The members of an object, all of them texts. -/
def textMembers (members : List (String × String)) : List (String × Json) :=
  members.map fun member => (member.1, .string member.2)

theorem after_members (members : List (String × String)) :
    after before (List.intercalate [','] (members.map memberChars) ++ rest) =
      after ((Json.memberTokens (textMembers members)).reverse ++ before) rest := by
  induction members generalizing before with
  | nil => rfl
  | cons member others inductionHypothesis =>
      cases others with
      | nil =>
          rw [List.map_singleton, List.intercalate_singleton, after_memberChars]
          rfl
      | cons second others =>
          have comma : punctuation? ',' = some .comma := rfl
          have tokens : Json.memberTokens (textMembers (member :: second :: others)) =
              [.string (some member.1), .colon, .string (some member.2), .comma] ++
                Json.memberTokens (textMembers (second :: others)) := rfl
          rw [List.map_cons, List.map_cons, List.intercalate_cons_cons, List.append_assoc,
            List.append_assoc, List.singleton_append, after_memberChars, after_punctuation comma,
            ← List.map_cons, inductionHypothesis, tokens, List.reverse_append, List.append_assoc]
          rfl

end Cutting

theorem ofChars_written (entry : LogEntry) :
    JsonToken.ofChars entry.written = some (Json.object (textMembers entry.members)).tokens := by
  have opening : punctuation? '\x7b' = some .openObject := rfl
  have closing : punctuation? '\x7d' = some .closeObject := rfl
  have ended : ∀ tokens, after tokens ['\n'] = some tokens.reverse := fun tokens => rfl
  change after [] entry.written = _
  rw [written, lineChars, List.cons_append, List.cons_append, after_punctuation opening,
    List.append_assoc, after_members, List.singleton_append, after_punctuation closing, ended,
    Json.tokens]
  simp

theorem nesting_textMembers (members : List (String × String)) :
    (JsonDocument.ofValue (.object (textMembers members))).nesting = 1 := by
  have flat : JsonDocument.memberNesting
      (JsonDocument.ofMemberList (textMembers members)) = 0 := by
    induction members with
    | nil => rfl
    | cons member others inductionHypothesis =>
        have split : textMembers (member :: others) =
            (member.1, .string member.2) :: textMembers others := rfl
        rw [split, JsonDocument.ofMemberList, JsonDocument.memberNesting, inductionHypothesis]
        rfl
  rw [JsonDocument.ofValue, JsonDocument.nesting, flat]

/-- A line is read as the object of its members. -/
theorem readChars_written (entry : LogEntry) :
    Json.readChars entry.written = some (.ofMembers (textMembers entry.members)) := by
  have shallow : (JsonDocument.ofValue (.object (textMembers entry.members))).nesting ≤
      JsonDocument.deepest := by
    rw [nesting_textMembers]
    decide
  have each : ∀ member ∈ textMembers entry.members,
      (JsonDocument.ofValue member.2).value? = some member.2 := by
    intro member inMembers
    obtain ⟨source, _, rfl⟩ := List.mem_map.mp inMembers
    rfl
  rw [Json.readChars_of_tokens entry.ofChars_written shallow, JsonDocument.ofValue,
    JsonDocument.value?, JsonDocument.memberValues?_ofMemberList each, Option.map_some]

/-! ## Fields in any order -/

/-- Fields with different keys are sorted alike, however they were given. -/
theorem sortedFields_eq_of_perm {entry other : LogEntry}
    (distinct : (entry.fields.map Prod.fst).Nodup) (same : other.fields.Perm entry.fields) :
    other.sortedFields = entry.sortedFields := by
  have ordered (fields : List (String × String)) :
      (fields.mergeSort fun left right => left.1 ≤ right.1).Pairwise
        fun left right => left.1 ≤ right.1 := by
    have transitive (first second third : String × String)
        (before : decide (first.1 ≤ second.1) = true)
        (after : decide (second.1 ≤ third.1) = true) : decide (first.1 ≤ third.1) = true := by
      rw [decide_eq_true_eq] at before after ⊢
      exact le_trans before after
    have total (first second : String × String) :
        (decide (first.1 ≤ second.1) || decide (second.1 ≤ first.1)) = true := by
      simpa using le_total first.1 second.1
    exact (List.pairwise_mergeSort transitive total fields).imp of_decide_eq_true
  have entryPerm : entry.sortedFields.Perm entry.fields := List.mergeSort_perm _ _
  have otherPerm : other.sortedFields.Perm entry.fields := (List.mergeSort_perm _ _).trans same
  refine List.Perm.eq_of_pairwise ?_ (ordered other.fields) (ordered entry.fields)
    (otherPerm.trans entryPerm.symm)
  intro first second firstMember secondMember before after
  exact List.inj_on_of_nodup_map distinct (otherPerm.subset firstMember)
    (entryPerm.subset secondMember) (le_antisymm before after)

theorem perm_members (entry : LogEntry) :
    entry.members.Perm
      (("event", entry.event) :: ("severity", entry.severity.name) :: entry.fields) :=
  ((List.mergeSort_perm _ _).cons _).cons _

theorem nodup_members {entry : LogEntry} (distinct : (entry.fields.map Prod.fst).Nodup)
    (own : ∀ field ∈ entry.fields, field.1 ≠ "event" ∧ field.1 ≠ "severity") :
    (entry.members.map Prod.fst).Nodup := by
  have absent {key : String} (others : ∀ field ∈ entry.fields, field.1 ≠ key) :
      key ∉ entry.fields.map Prod.fst := by
    intro member
    obtain ⟨field, inFields, same⟩ := List.mem_map.mp member
    exact others field inFields same
  rw [(entry.perm_members.map Prod.fst).nodup_iff, List.map_cons, List.map_cons,
    List.nodup_cons, List.nodup_cons, List.mem_cons, not_or]
  have different : "event" ≠ "severity" := by decide
  exact ⟨⟨different, absent fun field member => (own field member).1⟩,
    absent fun field member => (own field member).2, distinct⟩

end LogEntry

/-- The line of an entry whose fields have keys of their own is one line of JSON: it is read as
an object with the event, the severity and the fields, and nothing else. The order of the fields
does not show in it. -/
theorem written_entry_read_back (entry : LogEntry) (distinct : (entry.fields.map Prod.fst).Nodup)
    (own : ∀ field ∈ entry.fields, field.1 ≠ "event" ∧ field.1 ≠ "severity") :
    (∃ line, entry.written = line ++ ['\n'] ∧ ∀ c ∈ line, 0x20 ≤ c.toNat) ∧
    (∃ members, Json.readChars entry.written = some (.object members) ∧
      members.Perm (("event", .string entry.event) ::
        ("severity", .string entry.severity.name) ::
          entry.fields.map fun field => (field.1, .string field.2))) ∧
    ∀ fields, fields.Perm entry.fields →
      LogEntry.written { entry with fields := fields } = entry.written := by
  refine ⟨⟨entry.lineChars, rfl, entry.isOneLine_lineChars⟩, ?_, ?_⟩
  · have names : ((LogEntry.textMembers entry.members).map Prod.fst).Nodup := by
      have nodup := LogEntry.nodup_members distinct own
      rw [LogEntry.textMembers, List.map_map]
      exact nodup
    exact ⟨_, entry.readChars_written,
      (Json.perm_collapse names).trans (entry.perm_members.map _)⟩
  · intro fields same
    have sorted : LogEntry.sortedFields { entry with fields := fields } = entry.sortedFields :=
      LogEntry.sortedFields_eq_of_perm distinct same
    rw [LogEntry.written, LogEntry.written, LogEntry.lineChars, LogEntry.lineChars,
      LogEntry.members, LogEntry.members, sorted]

/-- A warning with quotes, a backslash and controls in its texts. -/
def escapedEntry : LogEntry :=
  ⟨.warn, "T\tEST", [("value", "say \"hi\"\nthere"), ("\x01", "\u0085𝄞\\")]⟩

theorem written_entry_read_back_escaped :
    escapedEntry.line =
        "\x7b\"event\":\"T\\tEST\",\"severity\":\"WARN\",\"\\u0001\":\"\\u0085𝄞\\\\\"," ++
          "\"value\":\"say \\\"hi\\\"\\nthere\"\x7d" ∧
      (∃ members, Json.readChars escapedEntry.written = some (.object members) ∧
        members.Perm [("event", .string "T\tEST"), ("severity", .string "WARN"),
          ("value", .string "say \"hi\"\nthere"), ("\x01", .string "\u0085𝄞\\")]) ∧
      LogEntry.written { escapedEntry with fields := escapedEntry.fields.reverse } =
        escapedEntry.written := by
  have distinct : (escapedEntry.fields.map Prod.fst).Nodup := by decide
  have own : ∀ field ∈ escapedEntry.fields, field.1 ≠ "event" ∧ field.1 ≠ "severity" := by
    decide
  have sorted : escapedEntry.sortedFields =
      [("\x01", "\u0085𝄞\\"), ("value", "say \"hi\"\nthere")] := by
    simp [LogEntry.sortedFields, escapedEntry, List.mergeSort]
  obtain ⟨_, read, anyOrder⟩ := written_entry_read_back escapedEntry distinct own
  refine ⟨?_, read, anyOrder _ (List.reverse_perm _)⟩
  rw [LogEntry.line, LogEntry.lineChars, LogEntry.members, sorted]
  decide +kernel

end RecordFilter
