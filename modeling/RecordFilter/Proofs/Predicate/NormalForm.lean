import RecordFilter.Proofs.Path.Exchange
import RecordFilter.Proofs.Predicate.Duality

/-!
# Normal forms of predicates

In the normal form of a predicate negations stand at the leaves only, no group has a group of
its own kind among its children, and no group has a single child. Groups stop at the first child
that decides or errs, so it has to be seen that the normal form stops at the same leaf: it makes
the same tests in the same order and gives the same result.
-/

namespace RecordFilter

/-- How the negations of the children of a negated group are joined. -/
def Condition.turned (negated : Bool) (condition : Condition) : Condition :=
  if negated then condition.dual else condition

namespace Predicate

/-! ## The normal form -/

/-- The predicate or its negation. -/
def signed (negated : Bool) (predicate : Predicate) : Predicate :=
  if negated then predicate.not else predicate

/-- The children of a group that is joined in the given way; any other predicate is one part. -/
def parts : Condition → Predicate → List Predicate
  | .and, allOf children => children
  | .or, anyOf children => children
  | _, other => [other]

/-- Joins predicates without groups of the same kind among them. One predicate alone needs no
group. -/
def merge (condition : Condition) (children : List Predicate) : Predicate :=
  match children.flatMap (parts condition) with
  | [only] => only
  | several => Compiler.join condition several

mutual

/-- The normal form of a predicate or of its negation. -/
def normal (negated : Bool) : Predicate → Predicate
  | always => signed negated always
  | allOf children => merge (Condition.and.turned negated) (normalAll negated children)
  | anyOf children => merge (Condition.or.turned negated) (normalAll negated children)
  | negation inner => normal (!negated) inner
  | leaf compiled => signed negated (leaf compiled)

def normalAll (negated : Bool) : List Predicate → List Predicate
  | [] => []
  | child :: rest => normal negated child :: normalAll negated rest

end

/-- Negations at the leaves only, no group within a group of its kind, no group of one. -/
def normalize (predicate : Predicate) : Predicate :=
  predicate.normal false

/-- What is said of a predicate in normal form: it is a leaf, a vacuous predicate or the negation
of one of these, or a group of none or several normal predicates, none of which is a group that is
joined in the same way. -/
inductive IsNormal : Predicate → Prop where
  | always (negated : Bool) : IsNormal (always.signed negated)
  | leaf (negated : Bool) (compiled : Leaf) : IsNormal ((leaf compiled).signed negated)
  | group (condition : Condition) {children : List Predicate}
      (each : ∀ child ∈ children, IsNormal child)
      (flat : ∀ child ∈ children, ∀ inner, child ≠ Compiler.join condition inner)
      (several : children.length ≠ 1) : IsNormal (Compiler.join condition children)

variable {condition : Condition} {children : List Predicate} {record : Value}

theorem normalAll_eq_map (negated : Bool) (children : List Predicate) :
    normalAll negated children = children.map (normal negated) := by
  induction children with
  | nil => rfl
  | cons child rest inductionHypothesis =>
      rw [normalAll, inductionHypothesis, List.map_cons]

theorem normal_join (negated : Bool) (condition : Condition) (children : List Predicate) :
    (Compiler.join condition children).normal negated =
      merge (condition.turned negated) (children.map (normal negated)) := by
  cases condition with
  | and => rw [Compiler.join, normal, normalAll_eq_map]
  | or => rw [Compiler.join, normal, normalAll_eq_map]

/-- A predicate is a group that is joined in the given way, with its children for parts, or it is
its only part. -/
theorem parts_cases (condition : Condition) (predicate : Predicate) :
    predicate = Compiler.join condition (parts condition predicate) ∨
      parts condition predicate = [predicate] ∧
        ∀ inner, predicate ≠ Compiler.join condition inner := by
  cases condition with
  | and =>
      cases predicate with
      | allOf children => exact Or.inl rfl
      | always | anyOf _ | negation _ | leaf _ =>
          exact Or.inr ⟨rfl, fun inner impossible => by cases impossible⟩
  | or =>
      cases predicate with
      | anyOf children => exact Or.inl rfl
      | always | allOf _ | negation _ | leaf _ =>
          exact Or.inr ⟨rfl, fun inner impossible => by cases impossible⟩

/-- A merged group is its only part, or the group of none or several parts. -/
theorem merge_cases (condition : Condition) (children : List Predicate) :
    (∃ only, children.flatMap (parts condition) = [only] ∧ merge condition children = only) ∨
      (children.flatMap (parts condition)).length ≠ 1 ∧
        merge condition children =
          Compiler.join condition (children.flatMap (parts condition)) := by
  unfold merge
  split
  next only single => exact Or.inl ⟨only, single, rfl⟩
  next several =>
      refine Or.inr ⟨fun one => ?_, rfl⟩
      obtain ⟨only, single⟩ := List.length_eq_one_iff.mp one
      exact several only single

/-! ## The shape of the normal form -/

/-- The parts of a normal predicate are normal, and none of them is such a group itself. -/
theorem IsNormal.of_mem_parts {predicate part : Predicate} (normal : predicate.IsNormal)
    (member : part ∈ parts condition predicate) :
    part.IsNormal ∧ ∀ inner, part ≠ Compiler.join condition inner := by
  rcases parts_cases condition predicate with joined | ⟨alone, other⟩
  · rw [joined] at normal
    generalize parts condition predicate = children at member normal
    generalize whole : Compiler.join condition children = joined at normal
    cases normal with
    | always negated => cases negated <;> cases condition <;> cases whole
    | leaf negated compiled => cases negated <;> cases condition <;> cases whole
    | group otherCondition each flat several =>
        cases condition <;> cases otherCondition <;> cases whole
        · exact ⟨each part member, flat part member⟩
        · exact ⟨each part member, flat part member⟩
  · rw [alone, List.mem_singleton] at member
    rw [member]
    exact ⟨normal, other⟩

theorem isNormal_merge (condition : Condition) (each : ∀ child ∈ children, child.IsNormal) :
    (merge condition children).IsNormal := by
  have parts : ∀ part ∈ children.flatMap (parts condition),
      part.IsNormal ∧ ∀ inner, part ≠ Compiler.join condition inner := by
    intro part member
    obtain ⟨child, childMember, partMember⟩ := List.mem_flatMap.mp member
    exact (each child childMember).of_mem_parts partMember
  rcases merge_cases condition children with ⟨only, single, merged⟩ | ⟨several, merged⟩
  · rw [merged]
    exact (parts only (single ▸ List.mem_singleton_self only)).1
  · rw [merged]
    exact .group condition (fun part member => (parts part member).1)
      (fun part member => (parts part member).2) several

theorem isNormal_normal (predicate : Predicate) (negated : Bool) :
    (predicate.normal negated).IsNormal := by
  induction predicate using tree_induction generalizing negated with
  | always => exact .always negated
  | leaf compiled => exact .leaf negated compiled
  | negation inner inductionHypothesis => exact inductionHypothesis (!negated)
  | group condition children inductionHypothesis =>
      rw [normal_join]
      refine isNormal_merge _ fun child member => ?_
      obtain ⟨original, originalMember, rfl⟩ := List.mem_map.mp member
      exact inductionHypothesis original originalMember negated

/-! ## Results -/

theorem map_false_xor (answer : Except EvalError Bool) :
    answer.map (false ^^ ·) = answer := by
  cases answer with
  | error error => rfl
  | ok passed => exact congrArg Except.ok (Bool.false_xor passed)

theorem map_true_xor (answer : Except EvalError Bool) :
    answer.map (true ^^ ·) = answer.map Bool.not := by
  cases answer with
  | error error => rfl
  | ok passed => exact congrArg Except.ok (Bool.true_xor passed)

theorem evaluate_negation (inner : Predicate) :
    (negation inner).evaluate record = (inner.evaluate record).map Bool.not := by
  rw [evaluate]
  cases inner.evaluate record with
  | error error => rfl
  | ok passed => rfl

theorem evaluate_signed (negated : Bool) (predicate : Predicate) :
    (predicate.signed negated).evaluate record =
      (predicate.evaluate record).map (negated ^^ ·) := by
  cases negated with
  | true => exact (evaluate_negation predicate).trans (map_true_xor _).symm
  | false => exact (map_false_xor _).symm

theorem visitItems_parts (condition : Condition) (predicate : Predicate) :
    condition.quantifier.visitItems (evaluate record) (parts condition predicate) =
      predicate.evaluate record := by
  rcases parts_cases condition predicate with joined | ⟨alone, _⟩
  · rw [← Compiler.evaluate_join, ← joined]
  · rw [alone, Quantifier.visitItems_singleton]

/-- Merging groups does not change what they say. -/
theorem evaluate_merge (condition : Condition) (children : List Predicate) :
    (merge condition children).evaluate record =
      condition.quantifier.visitItems (evaluate record) children := by
  have flattened :
      condition.quantifier.visitItems (evaluate record) (children.flatMap (parts condition)) =
        condition.quantifier.visitItems (evaluate record) children := by
    rw [Quantifier.visitItems_flatMap]
    exact Quantifier.visitItems_congr fun child _ => visitItems_parts condition child
  rw [← flattened]
  rcases merge_cases condition children with ⟨only, single, merged⟩ | ⟨_, merged⟩
  · rw [merged, single, Quantifier.visitItems_singleton]
  · rw [merged, Compiler.evaluate_join]

/-- Children that are negated or not, and joined accordingly, make a group that is negated or
not. -/
theorem visitItems_turned {α β : Type} {visit : α → Except EvalError Bool}
    {revisit : β → Except EvalError Bool} {items : List α} {change : α → β} (negated : Bool)
    (condition : Condition)
    (each : ∀ item ∈ items, revisit (change item) = (visit item).map (negated ^^ ·)) :
    (condition.turned negated).quantifier.visitItems revisit (items.map change) =
      (condition.quantifier.visitItems visit items).map (negated ^^ ·) := by
  cases negated with
  | false =>
      rw [map_false_xor, Quantifier.visitItems_map]
      exact Quantifier.visitItems_congr fun item member =>
        (each item member).trans (map_false_xor _)
  | true =>
      have opposite : List.Forall₂ (fun item dual => revisit dual = (visit item).map Bool.not) items
          (items.map change) := by
        rw [List.forall₂_map_right_iff, List.forall₂_same]
        exact fun item member => (each item member).trans (map_true_xor _)
      rw [map_true_xor, ← Quantifier.visitItems_dual opposite, ← condition.quantifier_dual]
      rfl

theorem evaluate_normal (predicate : Predicate) (negated : Bool) :
    (predicate.normal negated).evaluate record =
      (predicate.evaluate record).map (negated ^^ ·) := by
  induction predicate using tree_induction generalizing negated with
  | always => exact evaluate_signed negated always
  | leaf compiled => exact evaluate_signed negated (leaf compiled)
  | negation inner inductionHypothesis =>
      rw [normal, inductionHypothesis, evaluate_negation]
      cases inner.evaluate record with
      | error error => rfl
      | ok passed =>
          refine congrArg Except.ok ?_
          cases negated <;> cases passed <;> rfl
  | group condition children inductionHypothesis =>
      rw [normal_join, evaluate_merge, Compiler.evaluate_join]
      exact visitItems_turned negated condition fun child member =>
        inductionHypothesis child member negated

/-! ## Tests -/

/-- An answer lets a group of some kind go on when its negation lets the other kind go on. -/
theorem goesOn_turned (negated wanted : Bool) (answer : Except EvalError Bool) :
    goesOn (negated ^^ wanted) (answer.map (negated ^^ ·)) = goesOn wanted answer := by
  cases answer with
  | error error => rfl
  | ok passed => cases negated <;> cases wanted <;> cases passed <;> rfl

theorem tests_signed (negated : Bool) (predicate : Predicate) :
    (predicate.signed negated).tests record = predicate.tests record := by
  cases negated with
  | true =>
      rw [signed, if_pos rfl, not, tests]
  | false => rfl

theorem tests_join (condition : Condition) (children : List Predicate) :
    (Compiler.join condition children).tests record =
      testsWhile condition.quantifier.ofNone record children := by
  cases condition with
  | and => rw [Compiler.join, tests]; rfl
  | or => rw [Compiler.join, tests]; rfl

theorem testsWhile_append (wanted : Bool) (first second : List Predicate) :
    testsWhile wanted record (first ++ second) =
      testsWhile wanted record first ++
        if first.all fun child => goesOn wanted (child.evaluate record) then
          testsWhile wanted record second
        else [] := by
  induction first with
  | nil => rfl
  | cons child rest inductionHypothesis =>
      rw [List.cons_append, testsWhile, testsWhile, inductionHypothesis, List.all_cons]
      cases goesOn wanted (child.evaluate record) with
      | true => simp
      | false => simp

/-- A group goes on to what follows it when each of its children lets it go on. -/
theorem goesOn_join (condition : Condition) (children : List Predicate) :
    goesOn condition.quantifier.ofNone ((Compiler.join condition children).evaluate record) =
      children.all fun child => goesOn condition.quantifier.ofNone (child.evaluate record) := by
  rw [Compiler.evaluate_join]
  generalize condition.quantifier = quantifier
  induction children with
  | nil => exact beq_self_eq_true quantifier.ofNone
  | cons child rest inductionHypothesis =>
      rw [List.all_cons, ← inductionHypothesis, Quantifier.visitItems_cons]
      cases child.evaluate record with
      | error error => rfl
      | ok passed =>
          rw [Quantifier.orElse_ok]
          by_cases settled : quantifier.isSettledBy passed = true
          · have stops : goesOn quantifier.ofNone (.ok passed) = false := by
              simpa [goesOn, Quantifier.isSettledBy] using settled
            rw [if_pos settled, stops, Bool.false_and]
          · have continues : goesOn quantifier.ofNone (.ok passed) = true := by
              simpa [goesOn, Quantifier.isSettledBy] using settled
            rw [if_neg settled, continues, Bool.true_and]

theorem testsWhile_singleton (wanted : Bool) (predicate : Predicate) :
    testsWhile wanted record [predicate] = predicate.tests record := by
  rw [testsWhile, testsWhile, ite_self, List.append_nil]

theorem testsWhile_parts (condition : Condition) (predicate : Predicate) :
    testsWhile condition.quantifier.ofNone record (parts condition predicate) =
      predicate.tests record := by
  rcases parts_cases condition predicate with joined | ⟨alone, _⟩
  · rw [← tests_join, ← joined]
  · rw [alone, testsWhile_singleton]

theorem all_goesOn_parts (condition : Condition) (predicate : Predicate) :
    ((parts condition predicate).all fun part =>
        goesOn condition.quantifier.ofNone (part.evaluate record)) =
      goesOn condition.quantifier.ofNone (predicate.evaluate record) := by
  rcases parts_cases condition predicate with joined | ⟨alone, _⟩
  · rw [← goesOn_join, ← joined]
  · rw [alone, List.all_cons, List.all_nil, Bool.and_true]

/-- Merging groups does not change what they test. -/
theorem tests_merge (condition : Condition) (children : List Predicate) :
    (merge condition children).tests record =
      testsWhile condition.quantifier.ofNone record children := by
  have flattened :
      testsWhile condition.quantifier.ofNone record (children.flatMap (parts condition)) =
        testsWhile condition.quantifier.ofNone record children := by
    induction children with
    | nil => rfl
    | cons child rest inductionHypothesis =>
        rw [List.flatMap_cons, testsWhile_append, testsWhile_parts, all_goesOn_parts,
          inductionHypothesis, testsWhile]
  rw [← flattened]
  rcases merge_cases condition children with ⟨only, single, merged⟩ | ⟨_, merged⟩
  · rw [merged, single, testsWhile_singleton]
  · rw [merged, tests_join]

theorem tests_normal (predicate : Predicate) (negated : Bool) :
    (predicate.normal negated).tests record = predicate.tests record := by
  induction predicate using tree_induction generalizing negated with
  | always => exact tests_signed negated always
  | leaf compiled => exact tests_signed negated (leaf compiled)
  | negation inner inductionHypothesis => rw [normal, inductionHypothesis, tests]
  | group condition children inductionHypothesis =>
      have turned : (condition.turned negated).quantifier.ofNone =
          (negated ^^ condition.quantifier.ofNone) := by
        cases negated <;> cases condition <;> rfl
      rw [normal_join, tests_merge, tests_join, turned]
      induction children with
      | nil => rfl
      | cons child rest restHypothesis =>
          have restTests := restHypothesis fun other member =>
            inductionHypothesis other (List.mem_cons_of_mem child member)
          rw [List.map_cons, testsWhile, testsWhile, restTests, evaluate_normal, goesOn_turned,
            inductionHypothesis child List.mem_cons_self]

end Predicate

/-- A predicate and its normal form, in which negations stand at leaves and vacuous predicates
only and groups are flat, give the same result for every record, and they make the same tests in
the same order. A vacuous predicate answers yes without a test. -/
theorem normal_form_runs_alike (predicate : Predicate) :
    predicate.normalize.IsNormal ∧
      ∀ record, predicate.normalize.evaluate record = predicate.evaluate record ∧
        predicate.normalize.tests record = predicate.tests record ∧
          Predicate.always.evaluate record = .ok true := by
  refine ⟨predicate.isNormal_normal false, fun record => ⟨?_, ?_, ?_⟩⟩
  · exact (predicate.evaluate_normal false).trans (Predicate.map_false_xor _)
  · exact predicate.tests_normal false
  · rw [Predicate.evaluate]

/-- A negated group within a negated group. -/
example (first second third : Leaf) :
    ((Predicate.leaf first).and
        ((Predicate.leaf second).and (Predicate.leaf third).not).not).not.normalize =
      .anyOf [.negation (.leaf first), .allOf [.leaf second, .negation (.leaf third)]] := rfl

end RecordFilter
