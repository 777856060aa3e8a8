import RecordFilter.Proofs.Literal.Integer
import RecordFilter.Proofs.Text.Lower
import RecordFilter.Record.Value

/-!
# Texts of integers, booleans and guids

Different integers, booleans and guids have different texts, a field and a literal are written in
the same way, and lower-casing changes none of these texts.
-/

namespace RecordFilter

/-! ## Texts in small letters -/

namespace Text

/-- An ASCII character that is no capital letter. -/
def IsSmall (c : Char) : Prop :=
  c.toNat < 128 ∧ c.toLower = c

instance (c : Char) : Decidable (IsSmall c) :=
  inferInstanceAs (Decidable (_ ∧ _))

theorem lowerChar_of_isSmall {c : Char} (small : IsSmall c) : lowerChar c = [c] := by
  rw [lowerChar, if_pos small.1, small.2]

theorem lowerAfter_of_isSmall {text : List Char} (small : ∀ c ∈ text, IsSmall c)
    (before : List Char) : lowerAfter before text = text := by
  induction text generalizing before with
  | nil => rfl
  | cons c rest inductionHypothesis =>
      obtain ⟨head, others⟩ := List.forall_mem_cons.mp small
      have noSigma : c ≠ capitalSigma := by
        rintro rfl
        exact absurd head.1 (by decide)
      rw [lowerAfter, if_neg noSigma, lowerChar_of_isSmall head, inductionHypothesis others]
      rfl

theorem lower_of_isSmall {text : String} (small : ∀ c ∈ text.toList, IsSmall c) :
    lower text = text := by
  rw [lower, lowerAfter_of_isSmall small, String.ofList_toList]

end Text

/-! ## Integers -/

namespace Number

theorem isSmall_of_isDigit {c : Char} (digit : c.isDigit = true) : Text.IsSmall c := by
  have range : 48 ≤ c.toNat ∧ c.toNat ≤ 57 := by
    rw [Char.isDigit, Bool.and_eq_true, decide_eq_true_iff, decide_eq_true_iff] at digit
    exact digit
  refine ⟨by omega, dif_neg fun capital => ?_⟩
  have letter : 65 ≤ c.toNat := capital.1
  omega

theorem isSmall_integerChars (i : Int) : ∀ c ∈ integerChars i, Text.IsSmall c := by
  have digits : ∀ c ∈ Nat.toDigits 10 i.natAbs, Text.IsSmall c := fun c member =>
    isSmall_of_isDigit (Nat.isDigit_of_mem_toDigits (by decide) (by decide) member)
  unfold integerChars
  split
  · exact List.forall_mem_cons.mpr ⟨by decide, digits⟩
  · exact digits

theorem toDigits_injective : Function.Injective (Nat.toDigits 10) := by
  intro first second same
  calc
    first = Nat.ofDigitChars 10 (Nat.toDigits 10 first) 0 := Nat.ofDigitChars_ten_toDigits.symm
    _ = Nat.ofDigitChars 10 (Nat.toDigits 10 second) 0 := by rw [same]
    _ = second := Nat.ofDigitChars_ten_toDigits

theorem minus_notMem_toDigits (n : Nat) : '-' ∉ Nat.toDigits 10 n := by
  intro member
  have digit := Nat.isDigit_of_mem_toDigits (by decide) (by decide) member
  exact absurd digit (by decide)

/-- The minus sign is no digit, so texts that are the same have the same sign and digits. -/
theorem integerChars_injective : Function.Injective integerChars := by
  intro first second same
  unfold integerChars at same
  split at same
  next firstNegative =>
      split at same
      next secondNegative =>
          have magnitudes := toDigits_injective (List.cons.inj same).2
          omega
      next =>
          exact absurd (same ▸ List.mem_cons_self) (minus_notMem_toDigits second.natAbs)
  next firstNatural =>
      split at same
      next =>
          exact absurd (same ▸ List.mem_cons_self) (minus_notMem_toDigits first.natAbs)
      next secondNatural =>
          have magnitudes := toDigits_injective same
          omega

theorem integerText_injective : Function.Injective integerText :=
  fun _ _ same => integerChars_injective (String.ofList_injective same)

end Number

/-! ## Guids -/

namespace Guid

theorem isSmall_hexChar : ∀ digit : Fin 16, Text.IsSmall (hexChar digit) := by
  decide

theorem hexChar_ne_hyphen : ∀ digit : Fin 16, hexChar digit ≠ '-' := by
  decide

theorem hexChar_injective : Function.Injective hexChar := by
  have differ : ∀ first second, hexChar first = hexChar second → first = second := by decide
  exact differ

/-- The digits of a guid are what its text has besides hyphens. -/
theorem filter_text (guid : Guid) :
    guid.text.toList.filter (· ≠ '-') = guid.digits.map hexChar := by
  have groups (chars : List Char) :
      chars.take 8 ++ (chars.drop 8).take 4 ++ (chars.drop 12).take 4 ++
        (chars.drop 16).take 4 ++ chars.drop 20 = chars := by
    have next (start : Nat) (before : List Char) :
        before ++ (chars.drop start).take 4 ++ chars.drop (start + 4) =
          before ++ chars.drop start := by
      rw [List.append_assoc, ← List.drop_drop, List.take_append_drop]
    rw [next 16, next 12, next 8, List.take_append_drop]
  have kept : (guid.digits.map hexChar).filter (· ≠ '-') = guid.digits.map hexChar := by
    refine List.filter_eq_self.mpr fun c member => decide_eq_true ?_
    obtain ⟨digit, _, rfl⟩ := List.mem_map.mp member
    exact hexChar_ne_hyphen digit
  have hyphen : ['-'].filter (· ≠ '-') = [] := rfl
  rw [text, String.toList_ofList]
  simp only [List.filter_append, hyphen, List.append_nil]
  rw [← List.filter_append, ← List.filter_append, ← List.filter_append, ← List.filter_append,
    groups, kept]

theorem text_injective : Function.Injective text := by
  intro first second same
  have digits : first.digits.map hexChar = second.digits.map hexChar := by
    rw [← filter_text, ← filter_text, same]
  have equal := List.map_injective_iff.mpr hexChar_injective digits
  cases first
  cases second
  cases equal
  rfl

theorem isSmall_text (guid : Guid) : ∀ c ∈ guid.text.toList, Text.IsSmall c := by
  intro c member
  by_cases hyphen : c = '-'
  · rw [hyphen]
    decide
  · have kept : c ∈ guid.text.toList.filter (· ≠ '-') :=
      List.mem_filter.mpr ⟨member, decide_eq_true hyphen⟩
    rw [filter_text] at kept
    obtain ⟨digit, _, rfl⟩ := List.mem_map.mp kept
    exact isSmall_hexChar digit

end Guid

/-! ## Literals for values -/

/-- The literal for an integer, a boolean or a guid, when it is of the declared type. -/
inductive Literal.StandsFor (declared : DeclaredType) : Literal → Value → Prop where
  | int (number : Int) (whole : declared.isWhole = true) :
      StandsFor declared (.int number) (.int number)
  | bool (answer : Bool) (boolean : declared = .boolean) :
      StandsFor declared (.bool answer) (.bool answer)
  | guid (guid : Guid) (unique : declared = .guid) : StandsFor declared (.guid guid) (.guid guid)

namespace Literal.StandsFor

variable {declared : DeclaredType} {literal other : Literal} {value otherValue : Value}

/-- A field and a literal are written in the same way. -/
theorem toText?_eq (stands : StandsFor declared literal value) :
    value.toText? = some literal.render := by
  cases stands <;> rfl

theorem lower_render (stands : StandsFor declared literal value) :
    Text.lower literal.render = literal.render := by
  refine Text.lower_of_isSmall ?_
  cases stands with
  | int number _ =>
      rw [render, Number.integerText, String.toList_ofList]
      exact Number.isSmall_integerChars number
  | bool answer _ =>
      have each : (render (.bool answer)).toList.all (fun c => decide (Text.IsSmall c)) = true := by
        cases answer <;> decide
      exact fun c member => of_decide_eq_true (List.all_eq_true.mp each c member)
  | guid guid _ => exact guid.isSmall_text

/-- Literals of one declared type are of one kind. -/
@[elab_as_elim]
theorem pair_cases {motive : Literal → Value → Literal → Value → Prop}
    (stands : StandsFor declared literal value) (otherStands : StandsFor declared other otherValue)
    (int : ∀ first second, motive (.int first) (.int first) (.int second) (.int second))
    (bool : ∀ first second, motive (.bool first) (.bool first) (.bool second) (.bool second))
    (guid : ∀ first second, motive (.guid first) (.guid first) (.guid second) (.guid second)) :
    motive literal value other otherValue := by
  cases stands with
  | int number whole =>
      cases otherStands with
      | int otherNumber _ => exact int number otherNumber
      | bool _ kind | guid _ kind =>
          rw [kind] at whole
          cases whole
  | bool answer boolean =>
      cases otherStands with
      | bool otherAnswer _ => exact bool answer otherAnswer
      | int _ kind | guid _ kind =>
          rw [boolean] at kind
          cases kind
  | guid identifier unique =>
      cases otherStands with
      | guid otherIdentifier _ => exact guid identifier otherIdentifier
      | int _ kind | bool _ kind =>
          rw [unique] at kind
          cases kind

/-- Literals of one type are told apart by their texts. -/
theorem render_inj (stands : StandsFor declared literal value)
    (otherStands : StandsFor declared other otherValue) :
    literal.render = other.render ↔ literal = other := by
  refine ⟨?_, congrArg render⟩
  refine stands.pair_cases otherStands (fun first second same => ?_) (by decide)
    fun first second same => ?_
  · rw [Number.integerText_injective same]
  · rw [Guid.text_injective same]

end Literal.StandsFor

/-- The literals of these types that can be read stand for values. -/
theorem Coercer.exists_standsFor {coercer : Coercer} {declared : DeclaredType} {raw : Json}
    {literal : Literal}
    (exact : declared.isWhole = true ∨ declared = .boolean ∨ declared = .guid)
    (read : coercer.readLiteral declared raw = .ok literal) :
    ∃ value, literal.StandsFor declared value := by
  rcases exact with whole | rfl | rfl
  · obtain ⟨number, _, rfl⟩ := exists_integer_of_readLiteral whole read
    exact ⟨_, .int number whole⟩
  · obtain ⟨plain, readPlain⟩ := exists_readPlain read
    obtain ⟨answer, _, rfl⟩ := map_eq_ok_iff.mp readPlain
    exact ⟨_, .bool answer rfl⟩
  · obtain ⟨plain, readPlain⟩ := exists_readPlain read
    obtain ⟨guid, _, rfl⟩ := map_eq_ok_iff.mp readPlain
    exact ⟨_, .guid guid rfl⟩

end RecordFilter
