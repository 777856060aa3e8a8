import RecordFilter.Proofs.Predicate.Leaves
import RecordFilter.Proofs.Text.LetterCase

/-!
# Registering an operator

A custom operator is found by its name when the name has no blanks around it: a name in a rule is
trimmed before it is looked up, and the name of the operator is not. The operator that is registered
last is found first, and it changes nothing for any other name, nor for any rule whose leaves have
other names.
-/

namespace RecordFilter

/-! ## Names -/

namespace CustomOperator

variable {operator : CustomOperator} {name : String}

/-- Whether a name is that of the operator, but for the case of ASCII letters and for blanks around
either. -/
def isNamed (operator : CustomOperator) (name : String) : Bool :=
  Text.equalIgnoringCase (Text.trim operator.name) (Text.trim name)

theorem isNamed_name (operator : CustomOperator) : operator.isNamed operator.name = true :=
  Text.equalIgnoringCase_refl _

/-- A rule that writes the name of an operator finds it unless that name has blanks around it: they
cannot be written in a rule. -/
theorem answersTo_iff :
    operator.answersTo name = true ↔
      Text.trim operator.name = operator.name ∧ operator.isNamed name = true := by
  unfold answersTo isNamed
  constructor
  · intro same
    -- A text that is equal to a trimmed one but for its case is trimmed.
    have trimmed : Text.trim operator.name = operator.name :=
      (Text.trim_eq_self_iff_of_equalIgnoringCase same).mpr (Text.trim_trim name)
    exact ⟨trimmed, by rwa [trimmed]⟩
  · rintro ⟨trimmed, same⟩
    rwa [trimmed] at same

end CustomOperator

/-! ## Looking up -/

section Lookup

variable {operators : List CustomOperator} {operator : CustomOperator} {name : String}

/-- The operator registered last is asked first. -/
theorem resolveOperator?_append_singleton (operators : List CustomOperator)
    (operator : CustomOperator) (name : String) :
    resolveOperator? (operators ++ [operator]) name =
      if operator.answersTo name then some (.custom operator)
      else resolveOperator? operators name := by
  unfold resolveOperator?
  rw [List.reverse_append, List.reverse_singleton, List.singleton_append, List.find?_cons]
  cases operator.answersTo name with
  | true => rfl
  | false => rfl

/-- A custom operator that is found answers to the name. -/
theorem answersTo_of_resolveOperator?
    (found : resolveOperator? operators name = some (.custom operator)) :
    operator.answersTo name = true := by
  unfold resolveOperator? at found
  split at found
  next other first =>
      cases found
      have answers := List.find?_some first
      exact answers
  next =>
      obtain ⟨builtin, _, impossible⟩ := Option.map_eq_some_iff.mp found
      cases impossible

end Lookup

/-! ## Compiling -/

namespace Compiler

/-- The compiler with one more operator. -/
def registering (compiler : Compiler) (operator : CustomOperator) : Compiler :=
  { compiler with options := compiler.options.withOperator operator }

variable {compiler : Compiler} {operator : CustomOperator} {rule : Rule}

theorem operators_registering (compiler : Compiler) (operator : CustomOperator) :
    (compiler.registering operator).options.operators = compiler.options.operators ++ [operator] :=
  rfl

/-- A leaf depends on the registered operators through the one that its name stands for. -/
theorem leaf_registering
    (other : resolveOperator? (compiler.registering operator).options.operators rule.operatorName =
      resolveOperator? compiler.options.operators rule.operatorName) :
    (compiler.registering operator).leaf rule = compiler.leaf rule := by
  have planned : (compiler.registering operator).plan rule = compiler.plan rule := by
    unfold plan
    rw [other]
    rfl
  rw [leaf, planned]
  rfl

theorem compile_registering
    (others : ∀ leaf ∈ rule.leaves,
      resolveOperator? (compiler.registering operator).options.operators leaf.operatorName =
        resolveOperator? compiler.options.operators leaf.operatorName) (elapsed : String) :
    (compiler.registering operator).compile (some rule) elapsed =
      compiler.compile (some rule) elapsed := by
  have compiled : (compiler.registering operator).compileRule (some rule) =
      compiler.compileRule (some rule) :=
    compileTree_congr_leaves fun leaf member => leaf_registering (others leaf member)
  unfold compile
  rw [compiled]
  rfl

end Compiler

/-- Registering an operator adds its name and nothing else, but not even its name when there are
blanks around it. Every name is looked up as before unless it is that of the operator, and every
rule none of whose leaves has that name is compiled to the same predicate or error, with the same
log. -/
theorem registering_adds_trimmed_name (compiler : Compiler) (operator : CustomOperator) :
    (resolveOperator? (compiler.registering operator).options.operators operator.name =
      some (.custom operator) ↔ Text.trim operator.name = operator.name) ∧
    (∀ name,
      resolveOperator? (compiler.registering operator).options.operators name =
        if Text.trim operator.name = operator.name ∧ operator.isNamed name = true then
          some (.custom operator)
        else resolveOperator? compiler.options.operators name) ∧
    ∀ (rule : Rule) (elapsed : String),
      (∀ leaf ∈ rule.leaves, operator.isNamed leaf.operatorName = false) →
        (compiler.registering operator).compile (some rule) elapsed =
          compiler.compile (some rule) elapsed := by
  have lookup (name : String) :
      resolveOperator? (compiler.registering operator).options.operators name =
        if Text.trim operator.name = operator.name ∧ operator.isNamed name = true then
          some (.custom operator)
        else resolveOperator? compiler.options.operators name := by
    rw [Compiler.operators_registering, resolveOperator?_append_singleton]
    simp only [CustomOperator.answersTo_iff]
  refine ⟨⟨fun found => ?_, fun trimmed => ?_⟩, lookup, fun rule elapsed others => ?_⟩
  · exact (CustomOperator.answersTo_iff.mp (answersTo_of_resolveOperator? found)).1
  · rw [lookup, if_pos ⟨trimmed, operator.isNamed_name⟩]
  · refine Compiler.compile_registering (fun leaf member => ?_) elapsed
    rw [lookup, if_neg fun named => ?_]
    rw [others leaf member] at named
    cases named.2

/-- An operator of this name that every value passes. -/
def fancy (name : String) : CustomOperator :=
  ⟨name, .none, false, fun _ _ => true⟩

/-- Cards that have a title. -/
def cardCompiler : Compiler :=
  ⟨.default, ⟨[⟨"Card", [("Title", .text)], none⟩]⟩, "Card"⟩

/-- With blanks around its name the operator is not found by it, without them it is found by the
name with any blanks and in any case. A rule with another operator is compiled as before. -/
theorem registering_adds_trimmed_name_fancy :
    resolveOperator? (cardCompiler.registering (fancy " Fancy ")).options.operators " Fancy " =
      none ∧
    resolveOperator? (cardCompiler.registering (fancy "Fancy")).options.operators "\tfANCY " =
      some (.custom (fancy "Fancy")) ∧
    (cardCompiler.registering (fancy "Fancy")).compile (some (.test "Title" "is_null")) "1ms" =
      cardCompiler.compile (some (.test "Title" "is_null")) "1ms" := by
  obtain ⟨_, padded, _⟩ := registering_adds_trimmed_name cardCompiler (fancy " Fancy ")
  obtain ⟨_, plain, compiled⟩ := registering_adds_trimmed_name cardCompiler (fancy "Fancy")
  have missing : resolveOperator? cardCompiler.options.operators " Fancy " = none :=
    Option.isNone_iff_eq_none.mp (by decide +kernel)
  have leaves : (Rule.test "Title" "is_null").leaves = [.test "Title" "is_null"] :=
    Rule.leaves_named rfl (by decide +kernel)
  refine ⟨?_, ?_, compiled (.test "Title" "is_null") "1ms" fun leaf member => ?_⟩
  · rw [padded, if_neg (by decide +kernel), missing]
  · rw [plain, if_pos (by decide +kernel)]
  · rw [leaves] at member
    cases List.mem_singleton.mp member
    decide +kernel

end RecordFilter
