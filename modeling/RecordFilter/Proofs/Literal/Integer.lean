import RecordFilter.Proofs.Literal.Coercion
import RecordFilter.Proofs.Number.Whole

/-!
# Whole literals

A literal of an integer type is a whole number of at most 64 bits with sign. Reading refuses
every number and every text beyond that range, and it takes a number exactly or not at all.
-/

namespace RecordFilter

namespace Number

theorem readDigits_le {limit value number : Nat} {beyond : IntegerFault} {digits : List Char}
    (start : value ≤ limit) (read : readDigits limit beyond value digits = .ok number) :
    number ≤ limit := by
  induction digits generalizing value with
  | nil =>
      cases read
      exact start
  | cons c rest inductionHypothesis =>
      unfold readDigits at read
      split at read
      next => cases read
      next digit _ =>
          simp only at read
          split at read
          next => cases read
          next within => exact inductionHypothesis (Nat.le_of_not_lt within) read

theorem isInt64_of_readInteger {text : List Char} {number : Int}
    (read : readInteger text = .ok number) : isInt64 number = true := by
  have inRange : ∀ magnitude : Nat, magnitude ≤ int64Max → isInt64 magnitude = true := by
    intro magnitude bound
    unfold isInt64
    simp only [Bool.and_eq_true, decide_eq_true_eq]
    omega
  have inRangeBelow : ∀ magnitude : Nat, magnitude ≤ int64Max + 1 →
      isInt64 (-(magnitude : Int)) = true := by
    intro magnitude bound
    unfold isInt64
    simp only [Bool.and_eq_true, decide_eq_true_eq]
    omega
  unfold readInteger at read
  split at read
  next => cases read
  next => cases read
  next => cases read
  next digits _ =>
      obtain ⟨magnitude, digitsRead, equality⟩ := bind_eq_ok_iff.mp read
      cases equality
      exact inRangeBelow magnitude (readDigits_le (Nat.zero_le _) digitsRead)
  next digits _ =>
      obtain ⟨magnitude, digitsRead, equality⟩ := bind_eq_ok_iff.mp read
      cases equality
      exact inRange magnitude (readDigits_le (Nat.zero_le _) digitsRead)
  next =>
      obtain ⟨magnitude, digitsRead, equality⟩ := bind_eq_ok_iff.mp read
      cases equality
      exact inRange magnitude (readDigits_le (Nat.zero_le _) digitsRead)

end Number

namespace DeclaredType

/-- Whether literals of the type are whole numbers. -/
def isWhole : DeclaredType → Bool
  | integer | long => true
  | _ => false

theorem isNumeric_of_isWhole {declared : DeclaredType} (whole : declared.isWhole = true) :
    declared.isNumeric = true := by
  cases declared with
  | integer | long => rfl
  | _ => cases whole

end DeclaredType

namespace Coercer

variable {coercer : Coercer} {declared : DeclaredType} {raw : Json} {literal : Literal}

theorem isInt64_of_readInteger {number : Int} (read : readInteger raw = .ok number) :
    Number.isInt64 number = true := by
  unfold readInteger at read
  split at read
  next number =>
      split at read
      next whole taken =>
          cases read
          exact JsonNumber.isInt64_of_toInt64? taken
      next => cases read
  next text => exact Number.isInt64_of_readInteger (mapError_eq_ok_iff.mp read)
  next => cases read

theorem exists_integer_of_readPlain (whole : declared.isWhole = true)
    (read : coercer.readPlain declared raw = .ok literal) :
    ∃ number, Number.isInt64 number = true ∧ literal = .int number := by
  cases declared with
  | integer =>
      obtain ⟨number, narrow, rfl⟩ := map_eq_ok_iff.mp read
      obtain ⟨value, wide, within⟩ := bind_eq_ok_iff.mp narrow
      split at within
      next =>
          cases within
          exact ⟨number, isInt64_of_readInteger wide, rfl⟩
      next => cases within
  | long =>
      obtain ⟨number, wide, rfl⟩ := map_eq_ok_iff.mp read
      exact ⟨number, isInt64_of_readInteger wide, rfl⟩
  | _ => cases whole

theorem exists_integer_of_readLiteral (whole : declared.isWhole = true)
    (read : coercer.readLiteral declared raw = .ok literal) :
    ∃ number, Number.isInt64 number = true ∧ literal = .int number := by
  obtain ⟨plain, readPlain⟩ := exists_readPlain read
  exact exists_integer_of_readPlain whole readPlain

/-- The literals of a leaf of an integer type are whole numbers of 64 bits. -/
theorem exists_integers_of_coerce {context : LeafContext} {arity : Arity} {value : Option Json}
    {literals : List Literal} (whole : context.declared.isWhole = true)
    (read : coercer.coerce context arity value = .ok literals) :
    ∃ numbers : List Int, literals = numbers.map .int ∧
      ∀ number ∈ numbers, Number.isInt64 number = true := by
  have each := forall_of_coerce (fun _ _ => exists_integer_of_readLiteral whole) read
  clear read
  induction literals with
  | nil => exact ⟨[], rfl, fun number member => absurd member List.not_mem_nil⟩
  | cons literal rest inductionHypothesis =>
      obtain ⟨number, range, rfl⟩ := each literal List.mem_cons_self
      obtain ⟨numbers, rfl, ranges⟩ := inductionHypothesis fun other member =>
        each other (List.mem_cons_of_mem _ member)
      exact ⟨number :: numbers, rfl, List.forall_mem_cons.mpr ⟨range, ranges⟩⟩

/-! ## Numbers read as integers -/

variable {number : JsonNumber}

theorem readInteger_number_eq_ok_iff (stored : number.IsStored) {whole : Int} :
    readInteger (.number number) = .ok whole ↔
      number.exact = whole ∧ -2 ^ 63 ≤ whole ∧ whole < 2 ^ 63 := by
  rw [← Number.isInt64_iff, ← JsonNumber.toInt64?_eq_some_iff stored, readInteger]
  cases number.toInt64? with
  | none => simp
  | some value => simp

theorem readInt32_number_eq_ok_iff (stored : number.IsStored) {whole : Int} :
    readInt32 (.number number) = .ok whole ↔
      number.exact = whole ∧ -2 ^ 31 ≤ whole ∧ whole < 2 ^ 31 := by
  rw [readInt32, bind_eq_ok_iff]
  constructor
  · rintro ⟨value, wide, within⟩
    split at within
    next narrow =>
        cases within
        exact ⟨((readInteger_number_eq_ok_iff stored).mp wide).1, Number.isInt32_iff.mp narrow⟩
    next => cases within
  · rintro ⟨exact, range⟩
    refine ⟨whole, (readInteger_number_eq_ok_iff stored).mpr ⟨exact, by omega, by omega⟩, ?_⟩
    rw [if_pos (Number.isInt32_iff.mpr range)]

end Coercer

/-- A JSON number is a literal of an integer type exactly when its exact value is a whole number
in the range of the type, and then the literal is that number: none is rounded, wrapped or cut to
the range. -/
theorem whole_numbers_read_exactly (coercer : Coercer) (context : LeafContext)
    {number : JsonNumber} (stored : number.IsStored) (literal : Literal) :
    (context.declared = .long →
      (coercer.coerceScalar context (.number number) = .ok literal ↔
        ∃ whole : ℤ, number.exact = whole ∧ -2 ^ 63 ≤ whole ∧ whole < 2 ^ 63 ∧
          literal = .int whole)) ∧
    (context.declared = .integer →
      (coercer.coerceScalar context (.number number) = .ok literal ↔
        ∃ whole : ℤ, number.exact = whole ∧ -2 ^ 31 ≤ whole ∧ whole < 2 ^ 31 ∧
          literal = .int whole)) := by
  have read : coercer.coerceScalar context (.number number) = .ok literal ↔
      coercer.readPlain context.declared (.number number) = .ok literal :=
    Coercer.coerceScalar_eq_ok_iff
  rw [read]
  constructor
  · intro long
    rw [long, Coercer.readPlain, map_eq_ok_iff]
    simp only [Coercer.readInteger_number_eq_ok_iff stored, and_assoc, eq_comm]
  · intro integer
    rw [integer, Coercer.readPlain, map_eq_ok_iff]
    simp only [Coercer.readInt32_number_eq_ok_iff stored, and_assoc, eq_comm]

/-- The greatest double below `2 ^ 63`. -/
def lastDouble : Number.Finite :=
  ⟨false, 2 ^ 53 - 1, 1084, by decide, by decide, by decide⟩

/-- The double before `2 ^ 63` is a literal of type `long`, and `2 ^ 63` itself is not read as the
greatest such literal. -/
theorem whole_numbers_read_exactly_ends :
    let coercer : Coercer := ⟨.invariant, 0⟩
    let context : LeafContext := ⟨"Views", "equal", .long⟩
    JsonNumber.IsStored (.double lastDouble) ∧ JsonNumber.IsStored (.integer (2 ^ 63)) ∧
      coercer.coerceScalar context (.number (.double lastDouble)) =
        .ok (.int 9223372036854774784) ∧
      coercer.coerceScalar context (.number (.integer (2 ^ 63))) ≠
        .ok (.int 9223372036854775807) := by
  intro coercer context
  have whole : JsonNumber.exact (.double lastDouble) = (9223372036854774784 : ℤ) := by
    have units : lastDouble.units = 9223372036854774784 * (Number.Double.one : Int) := by
      decide +kernel
    have nonzero : (Number.Double.one : ℚ) ≠ 0 :=
      Nat.cast_ne_zero.mpr (Nat.ne_of_gt Number.Double.one_pos)
    rw [JsonNumber.exact, div_eq_iff nonzero, units]
    norm_cast
  have stored : JsonNumber.IsStored (.double lastDouble) := trivial
  have beyond : JsonNumber.IsStored (.integer (2 ^ 63)) := ⟨by decide, by decide⟩
  refine ⟨stored, beyond, ?_, ?_⟩
  · apply ((whole_numbers_read_exactly coercer context stored _).1 rfl).mpr
    exact ⟨9223372036854774784, whole, by decide, by decide, rfl⟩
  · intro saturated
    obtain ⟨read, exact, range, within, _⟩ :=
      ((whole_numbers_read_exactly coercer context beyond _).1 rfl).mp saturated
    have same : (2 ^ 63 : ℤ) = read := Int.cast_inj.mp exact
    omega

end RecordFilter
