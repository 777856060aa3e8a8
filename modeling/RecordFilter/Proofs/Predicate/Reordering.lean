import RecordFilter.Proofs.Predicate.Splitting

/-!
# The order of children

A rule tree and the same tree with the children of its groups in another order compile alike.
Their predicates evaluate different children, because a group stops at the first child that
decides, so one of them may meet an error that the other one never gets to. But when both of
them answer, a child that decides for one has a counterpart that the other one evaluates too,
and the answers are the same.
-/

namespace RecordFilter

/-! ## Lists that cover each other -/

/-- Each element of one list is related to one of the other list, in both directions. -/
structure Covers {α β : Type} (related : α → β → Prop) (lefts : List α) (rights : List β) :
    Prop where
  forward : ∀ left ∈ lefts, ∃ right ∈ rights, related left right
  backward : ∀ right ∈ rights, ∃ left ∈ lefts, related left right

section Lists

variable {α β γ δ : Type} {related : α → β → Prop} {lefts : List α} {rights : List β}

namespace Covers

theorem of_forall₂ (each : List.Forall₂ related lefts rights) : Covers related lefts rights where
  forward _ member := exists_of_forall₂ each member
  backward _ member := exists_of_forall₂_right each member

theorem of_perm {others : List β} (covers : Covers related lefts rights)
    (order : rights.Perm others) : Covers related lefts others where
  forward left member := by
    obtain ⟨right, rightMember, holds⟩ := covers.forward left member
    exact ⟨right, order.mem_iff.mp rightMember, holds⟩
  backward right member := covers.backward right (order.mem_iff.mpr member)

theorem imp {weaker : α → β → Prop} (covers : Covers related lefts rights)
    (implies : ∀ left ∈ lefts, ∀ right, related left right → weaker left right) :
    Covers weaker lefts rights where
  forward left member := by
    obtain ⟨right, rightMember, holds⟩ := covers.forward left member
    exact ⟨right, rightMember, implies left member right holds⟩
  backward right member := by
    obtain ⟨left, leftMember, holds⟩ := covers.backward right member
    exact ⟨left, leftMember, implies left leftMember right holds⟩

end Covers

/-- Lists whose items give counterparts give counterparts, whatever their order. -/
theorem Counterparts.mapM_of_covers {ε φ : Type} {read : α → Except ε γ}
    {reread : β → Except φ δ} {answers : γ → δ → Prop}
    (covers : Covers (fun left right => Counterparts answers (read left) (reread right)) lefts
      rights) :
    Counterparts (Covers answers) (lefts.mapM read) (rights.mapM reread) := by
  refine .of_ok ?_ ?_
  · intro values valuesOk
    have reads := mapM_eq_ok_iff.mp valuesOk
    have rereads : ∀ right ∈ rights, ∃ other, reread right = .ok other := by
      intro right member
      obtain ⟨left, leftMember, counterparts⟩ := covers.backward right member
      obtain ⟨value, _, readOk⟩ := exists_of_forall₂ reads leftMember
      exact counterparts.exists_ok_iff.mp ⟨value, readOk⟩
    obtain ⟨others, othersRead⟩ := exists_forall₂_iff.mpr rereads
    have valueReads := Covers.of_forall₂ reads
    have otherReads := Covers.of_forall₂ othersRead
    refine ⟨others, mapM_eq_ok_iff.mpr othersRead, ?_, ?_⟩
    · intro value member
      obtain ⟨left, leftMember, readOk⟩ := valueReads.backward value member
      obtain ⟨right, rightMember, counterparts⟩ := covers.forward left leftMember
      obtain ⟨other, otherMember, rereadOk⟩ := otherReads.forward right rightMember
      exact ⟨other, otherMember, counterparts.values readOk rereadOk⟩
    · intro other member
      obtain ⟨right, rightMember, rereadOk⟩ := otherReads.backward other member
      obtain ⟨left, leftMember, counterparts⟩ := covers.backward right rightMember
      obtain ⟨value, valueMember, readOk⟩ := valueReads.forward left leftMember
      exact ⟨value, valueMember, counterparts.values readOk rereadOk⟩
  · intro others othersOk
    have rereads := mapM_eq_ok_iff.mp othersOk
    have reads : ∀ left ∈ lefts, ∃ value, read left = .ok value := by
      intro left member
      obtain ⟨right, rightMember, counterparts⟩ := covers.forward left member
      obtain ⟨other, _, rereadOk⟩ := exists_of_forall₂ rereads rightMember
      exact counterparts.exists_ok_iff.mpr ⟨other, rereadOk⟩
    obtain ⟨values, valuesRead⟩ := exists_forall₂_iff.mpr reads
    exact ⟨values, mapM_eq_ok_iff.mpr valuesRead⟩

end Lists

/-! ## Answers that do not differ -/

/-- The results are not two different values; either of them may be an error. -/
def Agree {ε α : Type} (first second : Except ε α) : Prop :=
  ∀ value other, first = .ok value → second = .ok other → value = other

theorem Agree.symm {ε α : Type} {first second : Except ε α} (agree : Agree first second) :
    Agree second first :=
  fun value other secondOk firstOk => (agree other value firstOk secondOk).symm

namespace Quantifier

variable {α β : Type} {quantifier : Quantifier} {visit : α → Except EvalError Bool}
  {revisit : β → Except EvalError Bool} {items : List α} {others : List β}

/-- Where all other items leave the answer open, no item settles it. -/
theorem unsettled_of_agree {answer : Bool}
    (agree : ∀ item ∈ items, ∃ other ∈ others, Agree (visit item) (revisit other))
    (answered : quantifier.visitItems visit items = .ok answer)
    (unsettled : quantifier.visitItems revisit others = .ok quantifier.ofNone) :
    answer = quantifier.ofNone := by
  by_contra different
  have settles : quantifier.isSettledBy answer = true := by
    by_contra leaves
    exact different (isSettledBy_eq_false_iff.mp (eq_false_of_ne_true leaves))
  obtain ⟨item, member, visited⟩ := exists_of_settled answered settles
  obtain ⟨other, otherMember, same⟩ := agree item member
  have otherVisited := forall_of_unsettled unsettled other otherMember
  exact different (same answer quantifier.ofNone visited otherVisited)

/-- Lists of visits that cover each other give no different answers. An answer that settles is
given by some item, and then the other list cannot leave the answer open: that takes all of its
items, among them the counterpart. -/
theorem agree_visitItems
    (covers : Covers (fun item other => Agree (visit item) (revisit other)) items others) :
    Agree (quantifier.visitItems visit items) (quantifier.visitItems revisit others) := by
  intro answer other answered otherAnswered
  by_cases settles : quantifier.isSettledBy answer = true
  · by_cases otherSettles : quantifier.isSettledBy other = true
    · exact eq_of_isSettledBy settles otherSettles
    · rw [Bool.not_eq_true, isSettledBy_eq_false_iff] at otherSettles
      subst otherSettles
      exact unsettled_of_agree covers.forward answered otherAnswered
  · rw [Bool.not_eq_true, isSettledBy_eq_false_iff] at settles
    subst settles
    have backward : ∀ second ∈ others, ∃ first ∈ items, Agree (revisit second) (visit first) := by
      intro second member
      obtain ⟨first, firstMember, agree⟩ := covers.backward second member
      exact ⟨first, firstMember, agree.symm⟩
    exact (unsettled_of_agree backward otherAnswered answered).symm

end Quantifier

/-! ## Trees -/

namespace Compiler

/-- For no record the predicates give different answers. -/
def Consistent (first second : Predicate) : Prop :=
  ∀ record, Agree (first.evaluate record) (second.evaluate record)

theorem consistent_join (condition : Condition) {children others : List Predicate}
    (covers : Covers Consistent children others) :
    Consistent (join condition children) (join condition others) := by
  intro record
  rw [evaluate_join, evaluate_join]
  exact Quantifier.agree_visitItems (covers.imp fun _ _ _ consistent => consistent record)

/-- A tree and a reordered one both compile, to consistent predicates, or neither does. The
induction is on the tree; a group asks of its children what does not depend on their order. -/
theorem counterparts_reordered (compiler : Compiler) (rule : Rule) :
    ∀ reordered, rule.Reorders reordered →
      Counterparts Consistent (compiler.predicate rule) (compiler.predicate reordered) := by
  induction rule using Rule.tree_induction with
  | node rule inductionHypothesis =>
      rintro _ (@⟨_, middle, others, each, order⟩)
      have covers : Covers Rule.Reorders rule.rules others := (Covers.of_forall₂ each).of_perm order
      by_cases childless : rule.rules = []
      · have none : others = [] := by
          rw [childless, List.forall₂_nil_left_iff] at each
          rw [each] at order
          exact order.nil_eq.symm
        have same : { rule with rules := others } = rule := by
          rw [none, ← childless]
          cases rule
          rfl
        rw [same]
        exact .refl fun predicate record value other valueOk otherOk =>
          Except.ok.inj (valueOk.symm.trans otherOk)
      · have children : ({ rule with rules := others } : Rule).rules ≠ [] := by
          obtain ⟨child, member⟩ := List.exists_mem_of_ne_nil _ childless
          obtain ⟨other, otherMember, _⟩ := covers.forward child member
          exact List.ne_nil_of_mem otherMember
        rw [predicate_group childless, predicate_group children]
        have counterparts := Counterparts.mapM_of_covers
          (covers.imp fun child member other => inductionHypothesis child member other)
        exact counterparts.map fun _ _ => consistent_join rule.condition

end Compiler

/-- The order of children matters only through errors: a tree with its children reordered at any
depth compiles exactly when the tree does, and where neither predicate errs both give the same
answer. -/
theorem reordering_keeps_answers (compiler : Compiler) {rule reordered : Rule}
    (reorders : rule.Reorders reordered) :
    ((∃ compiled, compiler.predicate rule = .ok compiled) ↔
      ∃ other, compiler.predicate reordered = .ok other) ∧
    ∀ compiled other, compiler.predicate rule = .ok compiled →
      compiler.predicate reordered = .ok other →
        ∀ record answer otherAnswer, compiled.evaluate record = .ok answer →
          other.evaluate record = .ok otherAnswer → answer = otherAnswer := by
  have counterparts := compiler.counterparts_reordered rule reordered reorders
  refine ⟨counterparts.exists_ok_iff, fun compiled other compiledOk otherOk record => ?_⟩
  exact counterparts.values compiledOk otherOk record

/-- Two rules on rows, in both orders at two depths. -/
theorem reordering_keeps_answers_rows :
    let rule := Rule.allOf [.anyOf [amongRows, rowsRule], rowsRule]
    let reordered := Rule.allOf [rowsRule, .anyOf [rowsRule, amongRows]]
    rule.Reorders reordered ∧
      ∃ compiled other, nodeCompiler.predicate rule = .ok compiled ∧
        nodeCompiler.predicate reordered = .ok other ∧
        compiled.evaluate twoNodes = .ok true ∧ other.evaluate twoNodes = .ok true ∧
        ∀ record answer otherAnswer, compiled.evaluate record = .ok answer →
          other.evaluate record = .ok otherAnswer → answer = otherAnswer := by
  intro rule reordered
  have inner : (Rule.anyOf [amongRows, rowsRule]).Reorders (.anyOf [rowsRule, amongRows]) :=
    .node (.cons (.refl _) (.cons (.refl _) .nil)) (.swap ..)
  have outer : rule.Reorders reordered :=
    .node (.cons inner (.cons (.refl _) .nil)) (.swap ..)
  have innerOk := nodeCompiler.predicate_of_children (.anyOf [amongRows, rowsRule])
    (by decide) (.cons amongRows_compiles (.cons rowsRule_compiles .nil))
  have compiledOk := nodeCompiler.predicate_of_children rule
    (by decide) (.cons innerOk (.cons rowsRule_compiles .nil))
  have swappedOk := nodeCompiler.predicate_of_children (.anyOf [rowsRule, amongRows])
    (by decide) (.cons rowsRule_compiles (.cons amongRows_compiles .nil))
  have otherOk := nodeCompiler.predicate_of_children reordered
    (by decide) (.cons rowsRule_compiles (.cons swappedOk .nil))
  have agree := (reordering_keeps_answers nodeCompiler outer).2 _ _ compiledOk otherOk
  exact ⟨outer, _, _, compiledOk, otherOk, rfl, rfl, agree⟩

end RecordFilter
