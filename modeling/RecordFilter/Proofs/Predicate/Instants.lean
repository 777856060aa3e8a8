import RecordFilter.Proofs.Calendar.Instant
import RecordFilter.Proofs.Predicate.Days
import RecordFilter.Proofs.Predicate.Integers
import RecordFilter.Record.Storage

/-!
# Rules on instants

A field that holds offset timestamps is read on the UTC clock. Literals with an offset are taken
to the clock of the options. Where this is the UTC clock too, a rule compares the instants. On any
clock a literal may be replaced by another text of its instant.
-/

namespace RecordFilter

open Calendar (OffsetTimestamp)

/-! ## Literals with an offset -/

/-- The same value, or two texts of offset timestamps that denote one instant. -/
inductive Json.SameInstant : Json → Json → Prop where
  | same (raw : Json) : SameInstant raw raw
  | texts {first second : String} {time other : OffsetTimestamp}
      (read : OffsetTimestamp.read (Text.trimChars first.toList) = some time)
      (otherRead : OffsetTimestamp.read (Text.trimChars second.toList) = some other)
      (instant : time.instant = other.instant) : SameInstant (.string first) (.string second)

/-- A date keeps only the day of a timestamp. -/
def DeclaredType.cut (declared : DeclaredType) (time : Calendar.Timestamp) : Calendar.Timestamp :=
  if declared = .date then time.midnight else time

namespace Coercer

variable {coercer : Coercer} {declared : DeclaredType} {context : LeafContext} {first second : Json}

/-- A text with an offset is read on the clock of the options, whatever the culture. -/
theorem readLiteral_of_offset (dated : declared.isDated = true) {text : String}
    {time : OffsetTimestamp}
    (read : OffsetTimestamp.read (Text.trimChars text.toList) = some time) :
    coercer.readLiteral declared (.string text) =
      .ok (.dateTime (declared.cut (time.toZone coercer.zone))) := by
  have timestamp : coercer.readDateTime (.string text) = .ok (time.toZone coercer.zone) := by
    simp only [readDateTime, Culture.readDateTime, read]
  cases declared with
  | date | dateTime => exact map_eq_ok_iff.mpr ⟨_, timestamp, rfl⟩
  | _ => cases dated

/-- The literal of a text with an offset is told by the instant. -/
theorem readLiteral_sameInstant (dated : declared.isDated = true)
    (instant : first.SameInstant second) :
    coercer.readLiteral declared first = coercer.readLiteral declared second := by
  cases instant with
  | same => rfl
  | texts read otherRead instant =>
      rw [readLiteral_of_offset dated read, readLiteral_of_offset dated otherRead,
        OffsetTimestamp.toZone_eq_of_instant instant]

/-- A text with an offset can be read, so no error shows it. -/
theorem coerceScalar_sameInstant (dated : context.declared.isDated = true)
    (instant : first.SameInstant second) :
    coercer.coerceScalar context first = coercer.coerceScalar context second := by
  have literal := coercer.readLiteral_sameInstant dated instant
  cases instant with
  | same => rfl
  | texts read otherRead _ =>
      rw [coerceScalar, coerceScalar, ← literal, readLiteral_of_offset dated read]
      rfl

theorem coerce_sameInstant (dated : context.declared.isDated = true) {arity : Arity}
    (present : first ≠ .null) (otherPresent : second ≠ .null)
    (instants : List.Forall₂ Json.SameInstant (itemsOf arity first) (itemsOf arity second)) :
    coercer.coerce context arity (some first) = coercer.coerce context arity (some second) :=
  coerce_eq_of_forall₂ present otherPresent
    (instants.imp fun _ _ instant => coerceScalar_sameInstant dated instant)

end Coercer

namespace Compiler

variable {compiler : Compiler} {rule : Rule}

/-! ## Replacing literals -/

/-- A rule is planned alike with another value from which the same literals are read. -/
theorem plan_withValue_eq {declared : DeclaredType} (tagged : declaredType rule = .ok declared)
    {found : ResolvedOperator}
    (resolves : resolveOperator? compiler.options.operators rule.operatorName = some found)
    {other : Json}
    (same : compiler.options.coercer.coerce ⟨rule.fieldPath, found.name, declared⟩ found.arity
        (some other) =
      compiler.options.coercer.coerce ⟨rule.fieldPath, found.name, declared⟩ found.arity
        rule.value) :
    compiler.plan (rule.withValue other) = compiler.plan rule := by
  have otherTagged : declaredType (rule.withValue other) = .ok declared :=
    declaredType_of_typeTag tagged rfl
  have otherResolves : resolveOperator? compiler.options.operators
      (rule.withValue other).operatorName = some found := resolves
  have path : (rule.withValue other).fieldPath = rule.fieldPath := rfl
  have value : (rule.withValue other).value = some other := rfl
  rw [plan_of_resolved resolves tagged, plan_of_resolved otherResolves otherTagged, path, value,
    same]

theorem predicate_withValue_eq {other : Json} (childless : rule.rules = [])
    (planned : compiler.plan (rule.withValue other) = compiler.plan rule) :
    compiler.predicate (rule.withValue other) = compiler.predicate rule := by
  have otherChildless : (rule.withValue other).rules = [] := childless
  by_cases named : rule.fieldPath = ""
  · have otherUnnamed : (rule.withValue other).fieldPath = "" := named
    rw [predicate_vacuous childless named, predicate_vacuous otherChildless otherUnnamed]
  · have otherNamed : (rule.withValue other).fieldPath ≠ "" := named
    rw [predicate_named childless named, predicate_named otherChildless otherNamed, Compiler.leaf,
      Compiler.leaf, planned]

end Compiler

/-! ## Comparing instants -/

namespace Operator

/-- The answer of an operator to the instant of a timestamp, given those of the literals. -/
def instantVerdict (operator : Operator) (bounds : List OffsetTimestamp) (time : OffsetTimestamp) :
    Bool :=
  operator.verdictBy (bounds.map fun bound => time.instant.order bound.instant)

/-- Outside of leap seconds, the answer is that to the nanoseconds from the start of 1970. -/
theorem instantVerdict_eq_verdict (operator : Operator) {bounds : List OffsetTimestamp}
    {time : OffsetTimestamp} (plain : time.instant.nano < 1000000000)
    (boundsPlain : ∀ bound ∈ bounds, bound.instant.nano < 1000000000) :
    operator.instantVerdict bounds time =
      operator.verdict (bounds.map fun bound => bound.instant.nanos) time.instant.nanos := by
  have orders : (bounds.map fun bound => time.instant.order bound.instant) =
      (bounds.map fun bound => bound.instant.nanos).map (compare time.instant.nanos) := by
    rw [List.map_map]
    exact List.map_congr_left fun bound member =>
      Calendar.Instant.order_eq_compare_nanos plain (boundsPlain bound member)
  rw [instantVerdict, orders, verdictBy_compare]

end Operator

/-- The literals of offset timestamps on the UTC clock. -/
def Literal.onUtcClock (times : List OffsetTimestamp) : List Literal :=
  times.map fun time => .dateTime time.toUtc

theorem Literal.measures_onUtcClock (times : List OffsetTimestamp) :
    ∀ literal ∈ onUtcClock times, literal.Measures .dateTime := by
  intro literal member
  obtain ⟨time, _, rfl⟩ := List.mem_map.mp member
  exact .time time.toUtc rfl

/-- On the UTC clock timestamps have the order of their instants. -/
theorem Semantics.ordersAs_instants {semantics : Semantics} (whole : semantics.dateOnly = false)
    (times : List OffsetTimestamp) (time : OffsetTimestamp) :
    semantics.OrdersAs (.dateTime time.toUtc) (Literal.onUtcClock times)
      (times.map fun other => time.instant.order other.instant) := by
  rw [OrdersAs, Literal.onUtcClock, List.forall₂_map_left_iff, List.forall₂_map_right_iff,
    List.forall₂_same]
  intro other _
  rw [← OffsetTimestamp.order_toUtc, order?, whole, if_neg Bool.false_ne_true]

/-- A rule that compares the timestamps of a field with literals that have an offset, under
options that take these to the UTC clock. -/
structure Compiler.ComparesInstants (compiler : Compiler) (rule : Rule) (operator : Operator)
    (chain : Chain) (times : List OffsetTimestamp) : Prop where
  utc : compiler.options.datesAsUtc = true
  childless : rule.rules = []
  resolves : resolveOperator? compiler.options.operators rule.operatorName =
    some (.builtin operator)
  compares : operator.comparesWhole = true
  tagged : declaredType rule = .ok .dateTime
  found : compiler.resolver.resolve (.object compiler.root) rule.fieldPath = .ok chain
  target : chain.throughLists.target.nonNull = .dateTime
  literals : ∃ value texts, rule.value = some value ∧
    Coercer.itemsOf operator.arity value = texts.map .string ∧
    List.Forall₂ (fun text time => OffsetTimestamp.read (Text.trimChars text.toList) = some time)
      texts times
  enough : Coercer.wantedBy operator.arity times.length = none

namespace Compiler.ComparesInstants

variable {compiler : Compiler} {rule : Rule} {operator : Operator} {chain : Chain}
  {times : List OffsetTimestamp}

/-- The plan of such a rule, with the literals on the UTC clock. -/
def plan (rule : Rule) (operator : Operator) (chain : Chain) (times : List OffsetTimestamp) :
    LeafPlan :=
  ⟨rule.fieldPath, .builtin operator, .dateTime, chain.throughLists, Literal.onUtcClock times⟩

theorem coerce_eq (asks : compiler.ComparesInstants rule operator chain times) :
    compiler.options.coercer.coerce ⟨rule.fieldPath, operator.name, .dateTime⟩ operator.arity
      rule.value = .ok (Literal.onUtcClock times) := by
  obtain ⟨value, texts, valued, items, reads⟩ := asks.literals
  have takes : operator.arity ≠ .none :=
    of_decide_eq_false (Operator.takes_of_comparesWhole asks.compares).1
  have utc : compiler.options.coercer.zone = 0 := if_pos asks.utc
  refine Coercer.coerce_eq_ok_iff.mpr (Or.inr ⟨takes, value, valued,
    Coercer.ne_null_of_items items, ?_, ?_⟩)
  · rw [items, List.length_map, reads.length_eq]
    exact asks.enough
  · rw [items, Literal.onUtcClock, List.forall₂_map_left_iff, List.forall₂_map_right_iff]
    refine reads.imp fun text time read => ?_
    rw [Coercer.readLiteral_of_offset rfl read, utc, OffsetTimestamp.toZone_zero]
    rfl

theorem plans (asks : compiler.ComparesInstants rule operator chain times) :
    compiler.Plans rule (plan rule operator chain times) where
  field := rfl
  operator := asks.resolves
  declared := asks.tagged
  orderable _ _ _ := rfl
  chain := by
    have takes : operator.arity ≠ .none :=
      of_decide_eq_false (Operator.takes_of_comparesWhole asks.compares).1
    exact ⟨chain, asks.found, (if_neg takes).symm⟩
  literals := asks.coerce_eq

/-- Such a rule compiles to the leaf that compares with the literals as they are. -/
theorem predicate_eq (asks : compiler.ComparesInstants rule operator chain times) :
    compiler.predicate rule =
      .ok (.leaf ((plan rule operator chain times).comparison compiler.options operator)) := by
  obtain ⟨takes, whole⟩ := Operator.takes_of_comparesWhole asks.compares
  have named : rule.fieldPath ≠ "" := by
    intro unnamed
    have visible := Resolver.trim_ne_of_resolve asks.found
    rw [unnamed] at visible
    exact absurd visible (by decide +kernel)
  have comparable : Comparable .dateTime chain.throughLists.target.nonNull := by
    rw [asks.target]
    exact .dateTime rfl
  have leafOk := leaf_of_comparable asks.plans rfl takes whole comparable
    (Literal.measures_onUtcClock times)
  exact (predicate_leaf_eq_ok_iff asks.childless named).mpr ⟨_, _, leafOk, rfl⟩

/-- The leaf compares instants. -/
theorem test_eq (asks : compiler.ComparesInstants rule operator chain times)
    (time : OffsetTimestamp) :
    ((plan rule operator chain times).comparison compiler.options operator).check.test
        (.dateTime time.toUtc) = operator.instantVerdict times time := by
  have admits := Coercer.admits_of_coerce asks.coerce_eq
  have single : ∀ items, Value.dateTime time.toUtc ≠ .list items :=
    fun items impossible => by cases impossible
  exact LeafPlan.test_eq_verdictBy asks.compares admits (Literal.measures_onUtcClock times) single
    rfl (Semantics.ordersAs_instants rfl times time)

end Compiler.ComparesInstants

/-- A rule on offset timestamps whose literals have an offset answers by the instants if the
literals are taken to the UTC clock. On any clock and in any culture, a rule on dates or
timestamps has the same literals, and compiles to the same predicate, when texts with an offset
are replaced by other texts of the same instants. -/
theorem offset_timestamps_compared_as_instants (compiler : Compiler) (rule : Rule) :
    (∀ operator chain times, compiler.ComparesInstants rule operator chain times →
      ∃ leaf, compiler.predicate rule = .ok (.leaf leaf) ∧ leaf.chain = chain.throughLists ∧
        ∀ record time, leaf.chain.outcomes record = [.reached (.dateTime time.toUtc)] →
          leaf.evaluate record = .ok (operator.instantVerdict times time) ∧
          (time.instant.nano < 1000000000 →
            (∀ bound ∈ times, bound.instant.nano < 1000000000) →
            leaf.evaluate record = .ok (operator.verdict
              (times.map fun bound => bound.instant.nanos) time.instant.nanos))) ∧
    ∀ found declared value other, rule.rules = [] →
      resolveOperator? compiler.options.operators rule.operatorName = some found →
      Compiler.declaredType rule = .ok declared → declared.isDated = true →
      rule.value = some value → value ≠ .null → other ≠ .null →
      List.Forall₂ Json.SameInstant (Coercer.itemsOf found.arity other)
        (Coercer.itemsOf found.arity value) →
      let context : LeafContext := ⟨rule.fieldPath, found.name, declared⟩
      compiler.options.coercer.coerce context found.arity (some other) =
          compiler.options.coercer.coerce context found.arity (some value) ∧
        compiler.predicate (rule.withValue other) = compiler.predicate rule := by
  constructor
  · intro operator chain times asks
    refine ⟨_, asks.predicate_eq, rfl, fun record time reached => ?_⟩
    have answer := (Leaf.evaluate_of_reached reached).trans (congrArg Except.ok (asks.test_eq time))
    refine ⟨answer, fun plain boundsPlain => ?_⟩
    rw [answer, operator.instantVerdict_eq_verdict plain boundsPlain]
  · intro found declared value other childless resolves tagged dated valued present otherPresent
      instants context
    have same : compiler.options.coercer.coerce context found.arity (some other) =
        compiler.options.coercer.coerce context found.arity (some value) :=
      Coercer.coerce_sameInstant dated otherPresent present instants
    refine ⟨same, Compiler.predicate_withValue_eq childless ?_⟩
    exact Compiler.plan_withValue_eq tagged resolves (valued ▸ same)

/-- Events that happen at a time, with literals on the UTC clock. -/
def utcEventCompiler : Compiler :=
  { eventCompiler with options := eventCompiler.options.withDatesAsUtc true }

/-- Ten minutes before midnight in UTC, as two clocks show them. -/
def newYearRule : Rule :=
  .leaf "At" "between" "datetime"
    (.array [.string "2021-01-01T00:30:00+01:00", .string "2020-12-31T18:40:00-05:00"])

def newYearTimes : List OffsetTimestamp :=
  [⟨(Calendar.Timestamp.ofDay 18628).shift 1800, 3600⟩,
    ⟨(Calendar.Timestamp.ofDay 18627).shift 67200, -18000⟩]

theorem newYearRule_comparesInstants :
    utcEventCompiler.ComparesInstants newYearRule .between
      ⟨"At", [.member "At"], .dateTime, false⟩ newYearTimes where
  utc := rfl
  childless := rfl
  resolves := Compiler.resolveOperator?_builtin rfl (Operator.ofName?_trim_name .between)
  compares := rfl
  tagged := Compiler.declaredType_of_tag rfl (by decide +kernel) (by decide +kernel)
  found := by
    have trimmed : Text.trim "At" = "At" := by decide +kernel
    have field : newYearRule.fieldPath = "At" := trimmed
    have split : Resolver.segmentsOf "At" = ["At"] := by decide +kernel
    rw [field]
    exact Resolver.resolve_of_trimmed trimmed split (by decide)
      (Resolver.follow_member rfl rfl rfl :
        utcEventCompiler.resolver.follow "At" (.object "Event") ["At"] = _)
  target := rfl
  literals := ⟨_, ["2021-01-01T00:30:00+01:00", "2020-12-31T18:40:00-05:00"], rfl, rfl,
    .cons (by decide +kernel) (.cons (by decide +kernel) .nil)⟩
  enough := rfl

/-- An event in Delhi is between the two, also if the first of them is written in UTC. -/
theorem offset_timestamps_compared_as_instants_newYear :
    let rewritten : Json :=
      .array [.string "2020-12-31T23:30:00Z", .string "2020-12-31T18:40:00-05:00"]
    ∃ held leaf, Storage.offsetDateTime.readScalar? (.string "2021-01-01T05:05:00.25+05:30") =
        some held ∧
      utcEventCompiler.predicate (newYearRule.withValue rewritten) = .ok (.leaf leaf) ∧
      leaf.evaluate (.object [("At", held)] []) = .ok true := by
  intro rewritten
  let time : OffsetTimestamp := ⟨⟨18628, 18300, 250000000, by decide, by decide⟩, 19800⟩
  have read : OffsetTimestamp.read "2021-01-01T05:05:00.25+05:30".toList = some time := by
    decide +kernel
  have utcRead : OffsetTimestamp.read (Text.trimChars "2020-12-31T23:30:00Z".toList) =
      some ⟨(Calendar.Timestamp.ofDay 18627).shift 84600, 0⟩ := by decide +kernel
  have localRead : OffsetTimestamp.read (Text.trimChars "2021-01-01T00:30:00+01:00".toList) =
      some ⟨(Calendar.Timestamp.ofDay 18628).shift 1800, 3600⟩ := by decide +kernel
  have asks := newYearRule_comparesInstants
  obtain ⟨answered, replaced⟩ := offset_timestamps_compared_as_instants utcEventCompiler newYearRule
  obtain ⟨leaf, compiled, chain, answers⟩ := answered _ _ _ asks
  have present (items : List Json) : Json.array items ≠ .null :=
    fun impossible => by cases impossible
  obtain ⟨_, same⟩ := replaced _ _ _ rewritten rfl asks.resolves asks.tagged rfl rfl (present _)
    (present _) (.cons (.texts utcRead localRead (by decide)) (.cons (.same _) .nil))
  have reached : leaf.chain.outcomes (.object [("At", .dateTime time.toUtc)] []) =
      [.reached (.dateTime time.toUtc)] := by
    rw [chain]
    rfl
  refine ⟨.dateTime time.toUtc, leaf, ?_, same.trans compiled, ?_⟩
  · exact congrArg (Option.map fun read => Value.dateTime read.toUtc) read
  · rw [(answers _ time reached).1]
    decide +kernel

end RecordFilter
