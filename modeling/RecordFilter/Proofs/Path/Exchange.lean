import RecordFilter.Proofs.Path.Soundness

/-!
# Tests one by one and all at once

A value may be tested in several ways at once, or each test may scan all outcomes before the
next one does. Both orders quantify alike, so they can differ in one respect only: the tests
one by one may meet an error where the tests at once have found an answer before it. Without
list hops there is no such error.
-/

namespace RecordFilter

/-- The second result is the first one, or an error where the first one is an answer. -/
inductive Loosens : Except EvalError Bool → Except EvalError Bool → Prop where
  | same (answer : Except EvalError Bool) : Loosens answer answer
  | early (answer : Bool) (error : EvalError) : Loosens (.ok answer) (.error error)

theorem Loosens.answer {tight loose : Except EvalError Bool} (loosens : Loosens tight loose)
    {answer : Bool} (answered : loose = .ok answer) : tight = .ok answer := by
  cases loosens with
  | same => exact answered
  | early => cases answered

theorem Loosens.error {tight loose : Except EvalError Bool} (loosens : Loosens tight loose)
    {error : EvalError} (failed : tight = .error error) : loose = .error error := by
  cases loosens with
  | same => exact failed
  | early => cases failed

namespace Quantifier

variable {quantifier : Quantifier} {first second : Bool}

theorem isSettledBy_eq_true_iff :
    quantifier.isSettledBy first = true ↔ first = !quantifier.ofNone := by
  unfold isSettledBy
  cases quantifier <;> cases first <;> decide

theorem eq_of_isSettledBy (firstSettles : quantifier.isSettledBy first = true)
    (secondSettles : quantifier.isSettledBy second = true) : first = second :=
  (isSettledBy_eq_true_iff.mp firstSettles).trans (isSettledBy_eq_true_iff.mp secondSettles).symm

section Visits

variable {α β : Type} {visit revisit : α → Except EvalError Bool} {items : List α}

theorem visitItems_congr (same : ∀ item ∈ items, visit item = revisit item) :
    quantifier.visitItems visit items = quantifier.visitItems revisit items := by
  induction items with
  | nil => rfl
  | cons item rest inductionHypothesis =>
      have restSame := inductionHypothesis fun other member =>
        same other (List.mem_cons_of_mem item member)
      rw [visitItems_cons, visitItems_cons, same item List.mem_cons_self, restSame]

theorem visitItems_map {change : β → α} {items : List β} :
    quantifier.visitItems visit (items.map change) =
      quantifier.visitItems (fun item => visit (change item)) items := by
  induction items with
  | nil => rfl
  | cons item rest inductionHypothesis =>
      rw [List.map_cons, visitItems_cons, visitItems_cons, inductionHypothesis]

theorem visitItems_append (first second : List α) :
    quantifier.visitItems visit (first ++ second) =
      quantifier.orElse (quantifier.visitItems visit first)
        (quantifier.visitItems visit second) := by
  induction first with
  | nil =>
      rw [List.nil_append, visitItems, orElse_ok, isSettledBy_ofNone, if_neg Bool.false_ne_true]
  | cons item rest inductionHypothesis =>
      rw [List.cons_append, visitItems_cons, visitItems_cons, inductionHypothesis]
      cases visit item with
      | error error => rfl
      | ok passed =>
          rw [orElse_ok, orElse_ok]
          by_cases settled : quantifier.isSettledBy passed = true
          · rw [if_pos settled, if_pos settled, orElse_ok, if_pos settled]
          · rw [if_neg settled, if_neg settled]

/-- A single item gives its own answer. -/
theorem visitItems_singleton (item : α) : quantifier.visitItems visit [item] = visit item := by
  rw [visitItems_cons, visitItems]
  cases visit item with
  | error error => rfl
  | ok passed =>
      rw [orElse_ok]
      by_cases settled : quantifier.isSettledBy passed = true
      · rw [if_pos settled]
      · rw [if_neg settled]
        rw [Bool.not_eq_true, isSettledBy_eq_false_iff] at settled
        rw [settled]

/-- Items that spread to others may be visited group by group. -/
theorem visitItems_flatMap {parts : β → List α} (items : List β) :
    quantifier.visitItems visit (items.flatMap parts) =
      quantifier.visitItems (fun item => quantifier.visitItems visit (parts item)) items := by
  induction items with
  | nil => rfl
  | cons item rest inductionHypothesis =>
      rw [List.flatMap_cons, visitItems_append, inductionHypothesis, visitItems_cons]

theorem visitItems_of_none (unsettled : ∀ item ∈ items, visit item = .ok quantifier.ofNone) :
    quantifier.visitItems visit items = .ok quantifier.ofNone := by
  induction items with
  | nil => rfl
  | cons item rest inductionHypothesis =>
      have restOpen := inductionHypothesis fun other member =>
        unsettled other (List.mem_cons_of_mem item member)
      rw [visitItems_cons, unsettled item List.mem_cons_self, orElse_ok, isSettledBy_ofNone,
        restOpen]
      rfl

/-- The first item gives the answer when it settles, and leaves it to the rest otherwise. -/
theorem visitItems_cons_eq_ok_iff {item : α} {rest : List α} {answer : Bool} :
    quantifier.visitItems visit (item :: rest) = .ok answer ↔
      (visit item = .ok answer ∧ quantifier.isSettledBy answer = true) ∨
        (visit item = .ok quantifier.ofNone ∧ quantifier.visitItems visit rest = .ok answer) := by
  rw [visitItems_cons]
  cases visit item with
  | error error => simp
  | ok passed =>
      rw [orElse_ok]
      by_cases settles : quantifier.isSettledBy passed = true
      · have different : passed ≠ quantifier.ofNone := by
          rintro rfl
          rw [isSettledBy_ofNone] at settles
          cases settles
        rw [if_pos settles]
        simp only [Except.ok.injEq, different, false_and, or_false]
        constructor
        · rintro rfl
          exact ⟨rfl, settles⟩
        · exact fun ⟨same, _⟩ => same
      · rw [Bool.not_eq_true, isSettledBy_eq_false_iff] at settles
        subst settles
        simp only [isSettledBy_ofNone, Bool.false_eq_true, if_false, Except.ok.injEq, true_and]
        constructor
        · exact Or.inr
        · rintro (⟨rfl, impossible⟩ | answered)
          · rw [isSettledBy_ofNone] at impossible
            cases impossible
          · exact answered

/-- When some item settles, an answer of all items settles as well. -/
theorem isSettledBy_of_visitItems {item : α} {passed answer : Bool} (member : item ∈ items)
    (visited : visit item = .ok passed) (settles : quantifier.isSettledBy passed = true)
    (answered : quantifier.visitItems visit items = .ok answer) :
    quantifier.isSettledBy answer = true := by
  induction items with
  | nil => cases member
  | cons other rest inductionHypothesis =>
      rcases visitItems_cons_eq_ok_iff.mp answered with ⟨_, settled⟩ | ⟨head, restAnswered⟩
      · exact settled
      · rcases List.mem_cons.mp member with rfl | inRest
        · cases visited.symm.trans head
          rw [isSettledBy_ofNone] at settles
          cases settles
        · exact inductionHypothesis inRest restAnswered

/-- An answer that settles is that of an item. -/
theorem exists_of_settled {answer : Bool}
    (answered : quantifier.visitItems visit items = .ok answer)
    (settled : quantifier.isSettledBy answer = true) :
    ∃ item ∈ items, visit item = .ok answer := by
  induction items with
  | nil =>
      cases answered
      rw [isSettledBy_ofNone] at settled
      cases settled
  | cons item rest inductionHypothesis =>
      rcases visitItems_cons_eq_ok_iff.mp answered with ⟨head, _⟩ | ⟨_, restAnswered⟩
      · exact ⟨item, List.mem_cons_self, head⟩
      · obtain ⟨other, member, visited⟩ := inductionHypothesis restAnswered
        exact ⟨other, List.mem_cons_of_mem item member, visited⟩

/-- An answer that does not settle is that of every item. -/
theorem forall_of_unsettled
    (answered : quantifier.visitItems visit items = .ok quantifier.ofNone) :
    ∀ item ∈ items, visit item = .ok quantifier.ofNone := by
  induction items with
  | nil => exact fun item member => absurd member List.not_mem_nil
  | cons item rest inductionHypothesis =>
      rcases visitItems_cons_eq_ok_iff.mp answered with ⟨_, impossible⟩ | ⟨head, restAnswered⟩
      · rw [isSettledBy_ofNone] at impossible
        cases impossible
      · exact List.forall_mem_cons.mpr ⟨head, inductionHypothesis restAnswered⟩

theorem exists_error_of_visitItems {error : EvalError}
    (failed : quantifier.visitItems visit items = .error error) :
    ∃ item ∈ items, visit item = .error error := by
  induction items with
  | nil => cases failed
  | cons item rest inductionHypothesis =>
      rw [visitItems_cons] at failed
      cases head : visit item with
      | error other =>
          rw [head] at failed
          cases failed
          exact ⟨item, List.mem_cons_self, head⟩
      | ok passed =>
          rw [head, orElse_ok] at failed
          by_cases settles : quantifier.isSettledBy passed = true
          · rw [if_pos settles] at failed
            cases failed
          · rw [if_neg settles] at failed
            obtain ⟨other, member, otherFailed⟩ := inductionHypothesis failed
            exact ⟨other, List.mem_cons_of_mem item member, otherFailed⟩

end Visits

end Quantifier

namespace Outcome

variable {quantifier : Quantifier}

theorem failed_mem_of_scan {test : Value → Bool} {outcomes : List Outcome} {error : EvalError}
    (failed : scan quantifier test outcomes = .error error) :
    Outcome.failed error ∈ outcomes := by
  induction outcomes with
  | nil => cases failed
  | cons outcome rest inductionHypothesis =>
      cases outcome with
      | failed other =>
          cases failed
          exact List.mem_cons_self
      | reached value =>
          rw [scan] at failed
          split at failed
          · cases failed
          · exact List.mem_cons_of_mem _ (inductionHypothesis failed)
      | dropped cause =>
          rw [scan] at failed
          split at failed
          · cases failed
          · exact List.mem_cons_of_mem _ (inductionHypothesis failed)

section Tests

variable {many : Value → Bool} {tests : List (Value → Bool)}

/-- Tests one by one loosen the test that settles whenever one of them does. The induction is
on the outcomes: one that settles none of the tests leaves all of them where they are. -/
theorem loosens_scan_many
    (combines : ∀ value, quantifier.isSettledBy (many value) =
      tests.any fun test => quantifier.isSettledBy (test value))
    (nonempty : tests ≠ []) (outcomes : List Outcome) :
    Loosens (scan quantifier many outcomes)
      (quantifier.visitItems (fun test => scan quantifier test outcomes) tests) := by
  induction outcomes with
  | nil =>
      have none : quantifier.visitItems (fun test => scan quantifier test []) tests =
          .ok quantifier.ofNone := Quantifier.visitItems_of_none fun _ _ => rfl
      rw [none]
      exact .same _
  | cons outcome rest inductionHypothesis =>
      cases outcome with
      | failed error =>
          obtain ⟨first, others, rfl⟩ := List.exists_cons_of_ne_nil nonempty
          exact .same _
      | dropped cause =>
          by_cases settled : quantifier.isSettledBy false = true
          · have each : ∀ test, scan quantifier test (.dropped cause :: rest) = .ok false :=
              fun test => if_pos settled
            obtain ⟨first, others, rfl⟩ := List.exists_cons_of_ne_nil nonempty
            rw [each, Quantifier.visitItems_cons, each, Quantifier.orElse_ok, if_pos settled]
            exact .same _
          · have each : ∀ test, scan quantifier test (.dropped cause :: rest) =
                scan quantifier test rest := fun test => if_neg settled
            simp only [each]
            exact inductionHypothesis
      | reached value =>
          by_cases settled : quantifier.isSettledBy (many value) = true
          · have answer : scan quantifier many (.reached value :: rest) = .ok (many value) :=
              if_pos settled
            rw [answer]
            cases visited : quantifier.visitItems
                (fun test => scan quantifier test (.reached value :: rest)) tests with
            | error error => exact .early _ _
            | ok passed =>
                -- One of the tests settles on this value, so their common answer settles as
                -- well, and only one answer does.
                have someSettles := settled
                rw [combines, List.any_eq_true] at someSettles
                obtain ⟨test, member, testSettles⟩ := someSettles
                have passedSettles : quantifier.isSettledBy passed = true :=
                  Quantifier.isSettledBy_of_visitItems member (if_pos testSettles) testSettles
                    visited
                rw [Quantifier.eq_of_isSettledBy passedSettles settled]
                exact .same _
          · have restScan : scan quantifier many (.reached value :: rest) =
                scan quantifier many rest := if_neg settled
            have each : ∀ test ∈ tests, scan quantifier test (.reached value :: rest) =
                scan quantifier test rest := by
              intro test member
              refine if_neg fun testSettles => settled ?_
              rw [combines, List.any_eq_true]
              exact ⟨test, member, testSettles⟩
            rw [restScan, Quantifier.visitItems_congr each]
            exact inductionHypothesis

/-- Where no error can come after an answer, tests one by one are the tests at once. -/
theorem scan_many_eq_visitItems
    (combines : ∀ value, quantifier.isSettledBy (many value) =
      tests.any fun test => quantifier.isSettledBy (test value))
    (nonempty : tests ≠ []) {outcomes : List Outcome}
    (flat : (∃ outcome, outcomes = [outcome]) ∨
      ∀ outcome ∈ outcomes, ∃ value, outcome = .reached value) :
    scan quantifier many outcomes =
      quantifier.visitItems (fun test => scan quantifier test outcomes) tests := by
  have loosens := loosens_scan_many combines nonempty outcomes
  cases answered : scan quantifier many outcomes with
  | error error => exact (loosens.error answered).symm
  | ok answer =>
      cases visited : quantifier.visitItems (fun test => scan quantifier test outcomes) tests with
      | ok passed =>
          rw [← answered]
          exact loosens.answer visited
      | error error =>
          obtain ⟨test, _, testFailed⟩ := Quantifier.exists_error_of_visitItems visited
          have member := failed_mem_of_scan testFailed
          rcases flat with ⟨outcome, rfl⟩ | reached
          · rw [← List.mem_singleton.mp member] at answered
            cases answered
          · obtain ⟨value, impossible⟩ := reached _ member
            cases impossible

end Tests

end Outcome

/-! ## Chains without list hops -/

theorem Hop.ofEntry_ne_items (key : String) (entry : Option Value) (items : List Value) :
    ofEntry key entry ≠ .items items := by
  cases entry with
  | none => exact fun impossible => by cases impossible
  | some value => exact fun impossible => by cases impossible

namespace Step

theorem hop_ne_items {step : Step} (other : step ≠ .each) (value : Value) (items : List Value) :
    step.hop value ≠ .items items := by
  cases step with
  | each => exact absurd rfl other
  | dynamic name => exact fun impossible => by cases impossible
  | member name =>
      cases value with
      | object members indexed =>
          rw [hop]
          cases members.lookup name with
          | none => exact fun impossible => by cases impossible
          | some value => exact fun impossible => by cases impossible
      | _ => exact fun impossible => by cases impossible
  | key name =>
      cases value with
      | map entries => exact Hop.ofEntry_ne_items name _ items
      | intMap entries => exact Hop.ofEntry_ne_items name _ items
      | _ => exact fun impossible => by cases impossible
  | index name =>
      cases value with
      | object members indexed => exact Hop.ofEntry_ne_items name _ items
      | _ => exact fun impossible => by cases impossible

end Step

namespace Chain

variable {chain : Chain} {schema : Schema} {type target : FieldType} {steps : List Step}

theorem reached_of_any (leads : Leads schema type steps target) (any : type.nonNull = .any)
    (value : Value) :
    ∀ outcome ∈ chain.outcomesFrom steps value, ∃ found, outcome = .reached found := by
  induction leads generalizing value with
  | stop type => exact fun outcome member => ⟨value, List.mem_singleton.mp member⟩
  | @step type next target step rest hops further inductionHypothesis =>
      cases hops with
      | dynamic name _ =>
          refine Outcome.spread_forall .all ?_ value trivial
          intro value _
          cases value.part? name with
          | some part => exact inductionHypothesis rfl part
          | none => exact fun outcome member => ⟨.null, List.mem_singleton.mp member⟩
      | member record _ | index _ record _ =>
          rw [any] at record
          cases record
      | key _ map =>
          rw [any] at map
          cases map
      | each list =>
          rw [any] at list
          cases list

/-- A chain without list hops meets one outcome, or it goes into untyped data and reaches
values only. -/
theorem outcomesFrom_flat (leads : Leads schema type steps target) (noEach : .each ∉ steps)
    (value : Value) :
    (∃ outcome, chain.outcomesFrom steps value = [outcome]) ∨
      ∀ outcome ∈ chain.outcomesFrom steps value, ∃ found, outcome = .reached found := by
  induction leads generalizing value with
  | stop type => exact Or.inl ⟨_, rfl⟩
  | @step type next target step rest hops further inductionHypothesis =>
      have restNoEach : .each ∉ rest := fun member => noEach (List.mem_cons_of_mem step member)
      by_cases typed : step.isDynamic = false
      · rw [outcomesFrom_typed chain typed]
        by_cases null : value.isNull = true
        · rw [if_pos null]
          exact Or.inl ⟨_, rfl⟩
        · rw [if_neg null]
          have stepNoEach : step ≠ .each := fun same => noEach (same ▸ List.mem_cons_self)
          cases hop : step.hop value with
          | found next => exact inductionHypothesis restNoEach next
          | items items => exact absurd hop (step.hop_ne_items stepNoEach value items)
          | missingKey key => exact Or.inl ⟨_, rfl⟩
          | missingMember => exact Or.inl ⟨_, rfl⟩
          | wrongKind => exact Or.inl ⟨_, rfl⟩
      · right
        cases hops with
        | dynamic name any => exact reached_of_any (.step (.dynamic name any) further) any value
        | member _ _ | key _ _ | index _ _ _ | each _ => exact absurd rfl typed

end Chain

end RecordFilter
