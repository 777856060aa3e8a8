import RecordFilter.Proofs.Path.Alike
import RecordFilter.Proofs.Predicate.Fitness
import RecordFilter.Proofs.Predicate.Folding
import RecordFilter.Proofs.Predicate.Trichotomy

/-!
# Rules on days

The literals of a date rule are midnights. Where a timestamp of the field is compared with them,
it is cut to its day first, so the time of day does not matter. A rule that looks for a text
renders both sides instead, and the timestamp of the field is rendered with its time.
-/

namespace RecordFilter

/-! ## Literals of dates -/

namespace Coercer

variable {coercer : Coercer} {raw : Json} {literal : Literal}

theorem exists_day_of_readLiteral (read : coercer.readLiteral .date raw = .ok literal) :
    ∃ day, literal = .dateTime (.ofDay day) := by
  obtain ⟨plain, readPlain⟩ := exists_readPlain read
  obtain ⟨time, _, rfl⟩ := map_eq_ok_iff.mp readPlain
  exact ⟨time.day, rfl⟩

theorem readLiteral_date {text : String} {time : Calendar.Timestamp}
    (read : coercer.culture.readDateTime coercer.zone text = some time) :
    coercer.readLiteral .date (.string text) = .ok (.dateTime time.midnight) := by
  have timestamp : coercer.readDateTime (.string text) = .ok time := by
    simp only [readDateTime, read]
  exact map_eq_ok_iff.mpr ⟨time, timestamp, rfl⟩

end Coercer

/-! ## Two texts of one day -/

namespace Calendar.Timestamp

/-- The second after midnight. -/
def afterMidnight (day : Int) : Timestamp :=
  { ofDay day with
    second := 1
    second_lt := by decide }

/-- The text of the first ten seconds of a day but for its last digit. -/
def morningChars (day : Int) : List Char :=
  (ofDay day).dateChars ++ "T00:00:0".toList

theorem text_ofDay (day : Int) : (ofDay day).text = String.ofList (morningChars day ++ ['0']) := by
  have clock : (ofDay 0).clockChars = "00:00:0".toList ++ ['0'] := by decide +kernel
  change String.ofList ((ofDay day).dateChars ++ ['T'] ++ (ofDay 0).clockChars) = _
  rw [clock, morningChars, List.append_assoc, List.append_assoc]
  rfl

theorem text_afterMidnight (day : Int) :
    (afterMidnight day).text = String.ofList (morningChars day ++ ['1']) := by
  have clock : (afterMidnight 0).clockChars = "00:00:0".toList ++ ['1'] := by decide +kernel
  change String.ofList ((ofDay day).dateChars ++ ['T'] ++ (afterMidnight 0).clockChars) = _
  rw [clock, morningChars, List.append_assoc, List.append_assoc]
  rfl

end Calendar.Timestamp

/-! ## Looking for the text of a midnight -/

theorem Text.toList_lower_append (text : List Char) {c : Char} (plain : c ≠ capitalSigma)
    (small : lowerChar c = [c]) :
    (lower (String.ofList (text ++ [c]))).toList = lowerBetween [] [c] text ++ [c] := by
  rw [toList_lower, String.toList_ofList, ← lowerBetween_nil, lowerBetween_append, lowerBetween,
    if_neg plain, small]
  rfl

namespace Operator

variable {operator : Operator}

theorem spec_of_isTextMatch (part : operator.isTextMatch = true) :
    operator.isPresenceTest = false ∧ operator.arity = .single ∧
      operator.positive ∈ textual ∧ operator.positive.isTextMatch = true := by
  cases operator with
  | beginsWith | notBeginsWith | contains | notContains | endsWith | notEndsWith => decide
  | _ => cases part

/-- What is found in a text is a part of it. -/
theorem infix_of_finds {text part : String} (finds : operator.finds text part = true) :
    part.toList <:+: text.toList := by
  cases operator with
  | equal | oneOf =>
      obtain rfl := eq_of_beq finds
      exact List.infix_refl _
  | beginsWith => exact (Text.startsWith_iff.mp finds).isInfix
  | contains => exact Text.contains_iff.mp finds
  | endsWith => exact (Text.endsWith_iff.mp finds).isInfix
  | _ => cases finds

theorem finds_self (textual : operator ∈ textual) (text : String) :
    operator.finds text text = true := by
  simp only [Operator.textual, List.mem_cons, List.not_mem_nil, or_false] at textual
  rcases textual with rfl | rfl | rfl | rfl | rfl
  · exact beq_self_eq_true text
  · exact beq_self_eq_true text
  · exact Text.startsWith_iff.mpr (List.prefix_refl _)
  · exact Text.contains_iff.mpr (List.infix_refl _)
  · exact Text.endsWith_iff.mpr (List.suffix_refl _)

end Operator

namespace Semantics

variable {semantics : Semantics} {first second : Calendar.Timestamp}

/-- The text of a midnight is not found in that of the second after it: the two are of one
length, folded or not, and end in different digits. -/
theorem finds_afterMidnight (semantics : Semantics) (operator : Operator) (day : Int) :
    operator.finds (semantics.fold (Calendar.Timestamp.afterMidnight day).text)
      (semantics.fold (Calendar.Timestamp.ofDay day).text) = false := by
  have ends : ∃ start other : List Char, start.length = other.length ∧
      (semantics.fold (Calendar.Timestamp.ofDay day).text).toList = start ++ ['0'] ∧
      (semantics.fold (Calendar.Timestamp.afterMidnight day).text).toList = other ++ ['1'] := by
    rw [Calendar.Timestamp.text_ofDay, Calendar.Timestamp.text_afterMidnight]
    unfold fold
    cases semantics.caseSensitive with
    | true => exact ⟨_, _, rfl, String.toList_ofList, String.toList_ofList⟩
    | false =>
        exact ⟨_, _, Text.length_lowerBetween _ _ _ _ _,
          Text.toList_lower_append _ (by decide) (by decide +kernel),
          Text.toList_lower_append _ (by decide) (by decide +kernel)⟩
  obtain ⟨start, other, length, midnight, later⟩ := ends
  rw [Bool.eq_false_iff]
  intro finds
  have part := Operator.infix_of_finds finds
  rw [midnight, later] at part
  have same := part.eq_of_length (by simp [length])
  cases (List.append_inj same length).2

/-- A timestamp that is rendered is looked into as a text. -/
theorem holds_rendered {operator : Operator} (part : operator.isTextMatch = true)
    (positive : operator.isNegated = false) (render : semantics.renderText = true)
    (time : Calendar.Timestamp) (text : String) :
    semantics.holds operator [.text text] (.dateTime time) =
      operator.finds (semantics.fold time.text) text := by
  have rendered : semantics.textOf? (.dateTime time) = some (semantics.fold time.text) := by
    simp [textOf?, render, Value.toText?]
  cases operator with
  | beginsWith | contains | endsWith =>
      simp only [holds, containsOne, textMatch, rendered]
      exact Bool.or_false _
  | notBeginsWith | notContains | notEndsWith => cases positive
  | _ => cases part

/-! ## Comparing days -/

theorem order?_sameDay (cut : semantics.dateOnly = true) (same : first.day = second.day)
    (literal : Literal) :
    semantics.order? (.dateTime first) literal = semantics.order? (.dateTime second) literal := by
  cases literal with
  | dateTime right =>
      have midnights : first.midnight = second.midnight :=
        congrArg Calendar.Timestamp.ofDay same
      simp only [order?, cut, if_true, midnights]
  | _ => rfl

theorem equals_sameDay (cut : semantics.dateOnly = true) (plain : semantics.renderText = false)
    (same : first.day = second.day) (literal : Literal) :
    semantics.equals (.dateTime first) literal = semantics.equals (.dateTime second) literal := by
  cases literal with
  | dateTime right => simp only [equals, order?_sameDay cut same]
  | text expected => simp [equals, textOf?, plain]
  | _ => rfl

/-- Where timestamps are cut to their day and not rendered, no operator sees their time. -/
theorem holds_sameDay (cut : semantics.dateOnly = true) (plain : semantics.renderText = false)
    (same : first.day = second.day) (operator : Operator) (operands : List Literal) :
    semantics.holds operator operands (.dateTime first) =
      semantics.holds operator operands (.dateTime second) := by
  have equality := funext (equals_sameDay cut plain same)
  have order := funext (order?_sameDay cut same)
  have text (time : Calendar.Timestamp) : semantics.textOf? (.dateTime time) = none := by
    simp [textOf?, plain]
  refine holds_congr equality order (by rw [text, text]) fun _ => ?_
  simp only [containsOne, textMatch, text]

end Semantics

/-! ## Leaves of date rules -/

/-- Rendered scalars are compared with rendered literals. -/
theorem Adapts.eq_of_scalar {options : Options} {declared : DeclaredType}
    {semantics adapted : Semantics} {literals operands : List Literal} {base : FieldType}
    (adapts : Adapts options true declared semantics literals base adapted operands)
    (scalar : base.isScalar = true) :
    adapted = { semantics with renderText := true } ∧ operands = Compiler.renderAll literals := by
  cases adapts with
  | rendered => exact ⟨rfl, rfl⟩
  | any | text | enumText => cases scalar
  | enumName whole _ _ | enumNumber whole _ | own whole _ _ => cases whole

/-- The same value, or two timestamps of one day. -/
inductive Value.SameDay : Value → Value → Prop where
  | same (value : Value) : SameDay value value
  | times {first second : Calendar.Timestamp} (day : first.day = second.day) :
      SameDay (.dateTime first) (.dateTime second)

/-- A leaf has one answer for all timestamps of a day that its field may hold. -/
def Leaf.IgnoresTime (leaf : Leaf) (schema : Schema) : Prop :=
  ∀ first second, Conforms schema (fun _ => True) leaf.chain.target.nonNull (.dateTime first) →
    Conforms schema (fun _ => True) leaf.chain.target.nonNull (.dateTime second) →
    first.day = second.day → leaf.check.test (.dateTime first) = leaf.check.test (.dateTime second)

namespace LeafPlan

variable {plan : LeafPlan} {options : Options} {operator : Operator} {check : Check}

theorem test_sameDay (dated : plan.declared = .date) {first second : Calendar.Timestamp}
    (same : first.day = second.day) :
    (plan.comparison options operator).check.test (.dateTime first) =
      (plan.comparison options operator).check.test (.dateTime second) := by
  have cut : (plan.semantics options).dateOnly = true := decide_eq_true dated
  have holds := Semantics.holds_sameDay cut rfl same operator.positive plan.literals
  have present : Check.isPresent operator.positive (.dateTime first) =
      Check.isPresent operator.positive (.dateTime second) := by
    cases operator <;> rfl
  simp only [comparison, Check.test, Check.positive, Value.anyItem, holds, present]

/-- A date rule that looks for a text looks for the text of the midnight of its literal. -/
theorem exists_day_of_checks (checks : Checks options operator plan check)
    (part : operator.isTextMatch = true) (scalar : plan.chain.target.nonNull.isScalar = true)
    (admits : operator.arity.Admits plan.literals.length)
    (days : ∀ literal ∈ plan.literals, ∃ day, literal = .dateTime (.ofDay day)) :
    ∃ day, ∀ time, check.test (.dateTime time) =
      (operator.isNegated ^^ operator.positive.finds
        ((plan.semantics options).fold time.text)
        ((plan.semantics options).fold (Calendar.Timestamp.ofDay day).text)) := by
  obtain ⟨takes, single, _, positivePart⟩ := Operator.spec_of_isTextMatch part
  rw [single] at admits
  obtain ⟨literal, only⟩ := List.length_eq_one_iff.mp admits
  obtain ⟨day, rfl⟩ := days literal (only ▸ List.mem_cons_self)
  refine ⟨day, fun time => ?_⟩
  cases checks with
  | presence presence =>
      rw [takes] at presence
      cases presence
  | keys _ map _ =>
      rw [map] at scalar
      cases scalar
  | compared _ _ adapts =>
      rw [part] at adapts
      obtain ⟨rfl, rfl⟩ := adapts.eq_of_scalar scalar
      rw [Check.test, Check.positive, operator.isPresenceTest_positive, takes,
        if_neg Bool.false_ne_true, only]
      exact congrArg (operator.isNegated ^^ ·)
        (Semantics.holds_rendered positivePart operator.isNegated_positive rfl time _)

end LeafPlan

namespace Compiler

variable {compiler : Compiler} {rule : Rule} {leaf : Leaf} {operator : Operator} {plan : LeafPlan}

/-- The literals of a date rule are midnights. -/
theorem Plans.days (plans : compiler.Plans rule plan) (dated : plan.declared = .date) :
    ∀ literal ∈ plan.literals, ∃ day, literal = .dateTime (.ofDay day) := by
  have declared : plan.context.declared = .date := dated
  refine Coercer.forall_of_coerce (fun raw literal read => ?_) plans.literals
  rw [declared] at read
  exact Coercer.exists_day_of_readLiteral read

section Leaf

variable (leafOk : compiler.leaf rule = .ok (plan, leaf))
  (builtin : plan.operator = .builtin operator) (dated : plan.declared = .date)
  (target : leaf.chain.target.nonNull = .date ∨ leaf.chain.target.nonNull = .dateTime)

include leafOk builtin dated target

/-- A date rule that compares with its literals has one answer for the timestamps of a day. -/
theorem test_sameDay_of_leaf (takes : operator.isPresenceTest = false)
    (whole : operator.isTextMatch = false) {first second : Calendar.Timestamp}
    (same : first.day = second.day) :
    leaf.check.test (.dateTime first) = leaf.check.test (.dateTime second) := by
  obtain ⟨plans, _, chain, _⟩ := leaf_eq_ok_iff.mp leafOk
  have comparable : Comparable plan.declared plan.chain.target.nonNull := by
    rw [dated, ← chain]
    rcases target with date | dateTime
    · exact date ▸ .date rfl
    · exact dateTime ▸ .dateTime rfl
  have measures : ∀ literal ∈ plan.literals, literal.Measures plan.declared := by
    intro literal member
    obtain ⟨day, rfl⟩ := plans.days dated literal member
    rw [dated]
    exact .time _ rfl
  have comparison := leaf_of_comparable plans builtin takes whole comparable measures
  cases leafOk.symm.trans comparison
  exact LeafPlan.test_sameDay dated same

theorem exists_day_of_leaf (part : operator.isTextMatch = true) :
    ∃ day, ∀ time, leaf.check.test (.dateTime time) =
      (operator.isNegated ^^ operator.positive.finds
        ((plan.semantics compiler.options).fold time.text)
        ((plan.semantics compiler.options).fold (Calendar.Timestamp.ofDay day).text)) := by
  obtain ⟨plans, checked, chain, _⟩ := leaf_eq_ok_iff.mp leafOk
  have scalar : plan.chain.target.nonNull.isScalar = true := by
    rw [← chain]
    rcases target with date | dateTime
    · rw [date]
      rfl
    · rw [dateTime]
      rfl
  have admits := Coercer.admits_of_coerce plans.literals
  rw [builtin] at admits
  exact plan.exists_day_of_checks ((check_eq_ok_iff_of_builtin builtin).mp checked) part scalar
    admits (plans.days dated)

/-- The time is ignored unless a text is looked for in a timestamp. A date field holds midnights
only, so there are no two times of one day to tell apart. -/
theorem ignoresTime_iff (takes : operator.isPresenceTest = false) :
    leaf.IgnoresTime compiler.schema ↔
      operator.isTextMatch = false ∨ leaf.chain.target.nonNull = .date := by
  constructor
  · intro ignores
    cases part : operator.isTextMatch with
    | false => exact Or.inl rfl
    | true =>
        refine Or.inr (target.resolve_right fun dateTime => ?_)
        obtain ⟨day, answers⟩ := exists_day_of_leaf leafOk builtin dated target part
        have blind := ignores (.ofDay day) (.afterMidnight day) (dateTime ▸ .dateTime _)
          (dateTime ▸ .dateTime _) rfl
        rw [answers, answers, Bool.xor_right_inj, Semantics.finds_afterMidnight,
          Operator.finds_self (Operator.spec_of_isTextMatch part).2.2.1] at blind
        cases blind
  · rintro (whole | midnights) first second firstHeld secondHeld same
    · exact test_sameDay_of_leaf leafOk builtin dated target takes whole same
    · rw [midnights] at firstHeld secondHeld
      cases firstHeld
      cases secondHeld
      cases same
      rfl

end Leaf

/-- What a leaf does not tell apart in a field it does not tell apart in a record. -/
theorem evaluate_sameDay (compiled : compiler.predicate rule = .ok (.leaf leaf))
    (ignores : leaf.IgnoresTime compiler.schema) {record other : Value}
    (conforms : Conforms compiler.schema (fun _ => True) (.object compiler.root) record)
    (otherConforms : Conforms compiler.schema (fun _ => True) (.object compiler.root) other)
    (alike : List.Forall₂ (Outcome.Alike Value.SameDay) (leaf.chain.outcomes record)
      (leaf.chain.outcomes other)) :
    leaf.evaluate record = leaf.evaluate other := by
  have leads := leads_of_predicate compiled
  have held : ∀ {whole : Value},
      Conforms compiler.schema (fun _ => True) (.object compiler.root) whole →
      ∀ time, .reached (.dateTime time) ∈ leaf.chain.outcomes whole →
        Conforms compiler.schema (fun _ => True) leaf.chain.target.nonNull (.dateTime time) := by
    intro whole wholeConforms time member
    have admitted := Chain.outcomes_admitted .all leads wholeConforms _ member
    cases admitted with
    | reached valueConforms =>
        rcases valueConforms.null_or_nonNull with null | unwrapped
        · cases null
        · exact unwrapped
  rw [Leaf.evaluate, Leaf.evaluate, Chain.visit_eq_scan, Chain.visit_eq_scan]
  refine Outcome.scan_eq_of_alike alike fun first second firstMember secondMember days => ?_
  cases days with
  | same => rfl
  | times day =>
      exact ignores _ _ (held conforms _ firstMember) (held otherConforms _ secondMember) day

end Compiler

/-- A date rule on a date or timestamp field ignores the time of day, in a field and so in a
record, unless it looks for a text in a timestamp: then it looks for the text of a midnight in
the text of the whole timestamp. -/
theorem date_rules_ignore_time_iff (compiler : Compiler) {rule : Rule} {leaf : Leaf}
    {operator : Operator}
    (resolves : resolveOperator? compiler.options.operators rule.operatorName =
      some (.builtin operator))
    (takes : operator.isPresenceTest = false)
    (tagged : Compiler.declaredType rule = .ok .date)
    (compiled : compiler.predicate rule = .ok (.leaf leaf))
    (target : leaf.chain.target.nonNull = .date ∨ leaf.chain.target.nonNull = .dateTime) :
    let semantics : Semantics := ⟨compiler.options.caseSensitive, true, true⟩
    (leaf.IgnoresTime compiler.schema ↔
      operator.isTextMatch = false ∨ leaf.chain.target.nonNull = .date) ∧
    (leaf.IgnoresTime compiler.schema → ∀ record other,
      Conforms compiler.schema (fun _ => True) (.object compiler.root) record →
      Conforms compiler.schema (fun _ => True) (.object compiler.root) other →
      List.Forall₂ (Outcome.Alike Value.SameDay) (leaf.chain.outcomes record)
        (leaf.chain.outcomes other) →
      leaf.evaluate record = leaf.evaluate other) ∧
    (operator.isTextMatch = true → ∃ day, ∀ time,
      leaf.check.test (.dateTime time) =
        (operator.isNegated ^^ operator.positive.finds (semantics.fold time.text)
          (semantics.fold (Calendar.Timestamp.ofDay day).text))) := by
  obtain ⟨plan, leafOk⟩ := Compiler.leaf_of_predicate compiled
  obtain ⟨plans, _⟩ := Compiler.leaf_eq_ok_iff.mp leafOk
  have builtin := plans.operator_eq resolves
  have dated := plans.declared_eq tagged
  refine ⟨Compiler.ignoresTime_iff leafOk builtin dated target takes, ?_,
    Compiler.exists_day_of_leaf leafOk builtin dated target⟩
  exact fun ignores record other conforms otherConforms alike =>
    Compiler.evaluate_sameDay compiled ignores conforms otherConforms alike

/-- Events that happen at a time, under the default options. -/
def eventCompiler : Compiler :=
  ⟨.default, ⟨[⟨"Event", [("At", .dateTime)], none⟩]⟩, "Event"⟩

def juneRule : Rule :=
  ⟨.and, some "At", some "date", some "begins_with", some (.string "2021-06-15"), []⟩

/-- The middle of June, as the day of the rule. -/
def juneDay : Int :=
  18793

def juneAfternoon : Calendar.Timestamp :=
  { Calendar.Timestamp.ofDay juneDay with
    second := 47100
    second_lt := by decide }

def junePlan : LeafPlan :=
  ⟨"At", .builtin .beginsWith, .date, ⟨"At", [.member "At"], .dateTime, false⟩,
    [.dateTime (.ofDay juneDay)]⟩

def juneLeaf : Leaf :=
  ⟨junePlan.chain, .any, .builtin .beginsWith false
    [.text (Text.lower (Calendar.Timestamp.ofDay juneDay).text)] ⟨false, true, true⟩⟩

theorem juneDay_read :
    eventCompiler.options.coercer.readLiteral .date (.string "2021-06-15") =
      .ok (.dateTime (.ofDay juneDay)) := by
  have read : eventCompiler.options.coercer.culture.readDateTime
      eventCompiler.options.coercer.zone "2021-06-15" = some (.ofDay juneDay) := by
    decide +kernel
  exact Coercer.readLiteral_date read

theorem juneRule_resolves :
    resolveOperator? eventCompiler.options.operators juneRule.operatorName =
      some (.builtin .beginsWith) :=
  Compiler.resolveOperator?_builtin rfl (Operator.ofName?_trim_name .beginsWith)

theorem juneRule_tagged : Compiler.declaredType juneRule = .ok .date :=
  Compiler.declaredType_of_tag rfl (by decide +kernel) (by decide +kernel)

theorem juneRule_compiles : eventCompiler.predicate juneRule = .ok (.leaf juneLeaf) := by
  have field : juneRule.fieldPath = "At" := by decide +kernel
  have trimmed : Text.trim "At" = "At" := by decide +kernel
  have split : Resolver.segmentsOf "At" = ["At"] := by decide +kernel
  have resolved := Resolver.resolve_of_trimmed trimmed split (by decide)
    (Resolver.follow_member rfl rfl rfl :
      eventCompiler.resolver.follow "At" (.object "Event") ["At"] = _)
  rw [← field] at resolved
  have plans : eventCompiler.Plans juneRule junePlan := {
    field := field.symm
    operator := juneRule_resolves
    declared := juneRule_tagged
    orderable := fun _ _ _ => rfl
    chain := ⟨_, resolved, by rw [field]; rfl⟩
    literals := (Coercer.coerce_single_eq_ok_iff fun _ impossible => by cases impossible).mpr
      ⟨_, juneDay_read, rfl⟩ }
  have check : eventCompiler.check junePlan = .ok juneLeaf.check :=
    (Compiler.check_eq_ok_iff_of_builtin rfl).mpr
      (Checks.of_unordered rfl rfl (.rendered rfl (Or.inl rfl) rfl))
  have leafOk : eventCompiler.leaf juneRule = .ok (junePlan, juneLeaf) :=
    Compiler.leaf_eq_ok_iff.mpr ⟨plans, check, rfl, rfl⟩
  refine (Compiler.predicate_leaf_eq_ok_iff rfl ?_).mpr ⟨_, _, leafOk, rfl⟩
  rw [field]
  decide

/-- The event at midnight begins with the day, the one in the afternoon of that day does not. -/
theorem date_rules_ignore_time_iff_june :
    juneLeaf.evaluate (.object [("At", .dateTime (.ofDay juneDay))] []) = .ok true ∧
      juneLeaf.evaluate (.object [("At", .dateTime juneAfternoon)] []) = .ok false ∧
      ¬ juneLeaf.IgnoresTime eventCompiler.schema := by
  obtain ⟨ignores, _, _⟩ := date_rules_ignore_time_iff eventCompiler juneRule_resolves rfl
    juneRule_tagged juneRule_compiles (Or.inr rfl)
  have test (time : Calendar.Timestamp) :
      juneLeaf.evaluate (.object [("At", .dateTime time)] []) =
        .ok (juneLeaf.check.test (.dateTime time)) :=
    Leaf.evaluate_of_reached rfl
  refine ⟨?_, ?_, ?_⟩
  · rw [test]
    decide +kernel
  · rw [test]
    decide +kernel
  · rw [ignores]
    rintro (whole | date)
    · cases whole
    · cases date

end RecordFilter
