import Mathlib.Data.List.Basic
import RecordFilter.Predicate.Filter

/-!
# What filters yield

A filter answers each record by itself: with the record when it passes, with its error when it
errs, and with nothing otherwise. Calling the filter yields these answers in the order of the
records, one a call, and each call takes the records up to the one it answers.
-/

namespace RecordFilter

namespace Filter

variable {α : Type}

/-! ## Answers -/

def answer? (filter : Filter α) (record : α) : Option (Filtered α) :=
  match filter.predicate.evaluate (filter.view record) with
  | .ok true => some (.ok record)
  | .ok false => none
  | .error error => some (.error error)

/-- The answers to all records, in the order of the records. -/
def answers (filter : Filter α) : List (Filtered α) :=
  filter.records.filterMap filter.answer?

/-- The failure that is logged for an item, if it is an error. -/
def failure? : Filtered α → Option LogEntry
  | .ok _ => none
  | .error error =>
      some ⟨.info, "RULE_EVALUATION_FAILED", [("code", error.code), ("path", error.path)]⟩

theorem eq_of_answer?_ok {filter : Filter α} {record other : α}
    (answered : filter.answer? record = some (.ok other)) : record = other := by
  unfold answer? at answered
  split at answered
  · simpa using answered
  · simp at answered
  · simp at answered

theorem entriesFor_eq (item : Filtered α) : entriesFor item = (failure? item).toList := by
  cases item with
  | ok record => rfl
  | error error => rfl

theorem flatMap_entriesFor (items : List (Filtered α)) :
    items.flatMap entriesFor = items.filterMap failure? := by
  have same : entriesFor = fun item : Filtered α => (failure? item).toList :=
    funext entriesFor_eq
  rw [same, List.filterMap_eq_flatMap_toList]

/-! ## One call -/

/-- What a call yields and which records it leaves: it passes over records without an answer, and
stops after the first record with an answer or at the end. -/
inductive Consumes (filter : Filter α) : Option (Filtered α) → List α → Prop where
  | yields (passed : List α) {rest : List α} {record : α} {item : Filtered α}
      (records : filter.records = passed ++ record :: rest)
      (unanswered : ∀ other ∈ passed, filter.answer? other = none)
      (answered : filter.answer? record = some item) : Consumes filter (some item) rest
  | ends (unanswered : ∀ record ∈ filter.records, filter.answer? record = none) :
      Consumes filter none []

/-- A record without an answer makes no difference to a call. -/
theorem Consumes.cons {predicate : Predicate} {view : α → Value} {records left : List α}
    {item : Option (Filtered α)} {record : α}
    (consumes : Consumes ⟨predicate, view, records⟩ item left)
    (unanswered : answer? ⟨predicate, view, records⟩ record = none) :
    Consumes ⟨predicate, view, record :: records⟩ item left := by
  cases consumes with
  | yields passed split others answered =>
      apply Consumes.yields (record :: passed)
      · exact congrArg (record :: ·) split
      · exact List.forall_mem_cons.mpr ⟨unanswered, others⟩
      · exact answered
  | ends others => exact .ends (List.forall_mem_cons.mpr ⟨unanswered, others⟩)

theorem consumes_search (predicate : Predicate) (view : α → Value) (records : List α) :
    Consumes ⟨predicate, view, records⟩ (search predicate view records).1
      (search predicate view records).2 := by
  induction records with
  | nil =>
      apply Consumes.ends
      simp
  | cons record rest inductionHypothesis =>
      unfold search
      cases evaluated : predicate.evaluate (view record) with
      | error error =>
          apply Consumes.yields [] rfl
          · simp
          · simp [answer?, evaluated]
      | ok passes =>
          cases passes with
          | true =>
              apply Consumes.yields [] rfl
              · simp
              · simp [answer?, evaluated]
          | false =>
              apply Consumes.cons inductionHypothesis
              simp [answer?, evaluated]

theorem consumes_next (filter : Filter α) :
    filter.Consumes filter.next.item filter.next.rest.records :=
  consumes_search filter.predicate filter.view filter.records

theorem answer?_rest (filter : Filter α) : filter.next.rest.answer? = filter.answer? :=
  rfl

/-- A call yields the first of the answers, and the others remain. -/
theorem answers_next (filter : Filter α) :
    filter.next.item = filter.answers.head? ∧ filter.next.rest.answers = filter.answers.tail := by
  have consumes := filter.consumes_next
  unfold answers
  rw [answer?_rest]
  generalize filter.next.item = item at consumes ⊢
  generalize filter.next.rest.records = left at consumes ⊢
  cases consumes with
  | yields passed records unanswered answered =>
      have skipped : passed.filterMap filter.answer? = [] :=
        List.filterMap_eq_nil_iff.mpr unanswered
      rw [records, List.filterMap_append, skipped, List.nil_append,
        List.filterMap_cons_some answered]
      simp
  | ends unanswered =>
      rw [List.filterMap_eq_nil_iff.mpr unanswered]
      simp

theorem log_next (filter : Filter α) :
    filter.next.log = filter.next.item.toList.filterMap failure? :=
  flatMap_entriesFor filter.next.item.toList

/-! ## Many calls -/

/-- The filter after a number of calls. -/
def after (filter : Filter α) : Nat → Filter α
  | 0 => filter
  | calls + 1 => (filter.after calls).next.rest

theorem answers_after (filter : Filter α) (calls : Nat) :
    (filter.after calls).answers = filter.answers.drop calls := by
  induction calls with
  | zero => rfl
  | succ calls inductionHypothesis =>
      rw [after, (filter.after calls).answers_next.2, inductionHypothesis, List.tail_drop]

theorem item_after (filter : Filter α) (calls : Nat) :
    (filter.after calls).next.item = filter.answers[calls]? := by
  rw [(filter.after calls).answers_next.1, answers_after, List.head?_drop]

/-- A whole run yields all answers and logs the errors among them. -/
theorem run_eq (filter : Filter α) :
    filter.run = (filter.answers, filter.answers.filterMap failure?) := by
  induction filter using run.induct with
  | case1 filter log rest called =>
      have ended : none = filter.answers.head? := by
        simpa only [called] using filter.answers_next.1
      have silent : log = [] := by
        simpa [called] using filter.log_next
      rw [run, called, List.head?_eq_none_iff.mp ended.symm]
      simp [silent]
  | case2 filter item log rest called items laterLog ran inductionHypothesis =>
      have first : some item = filter.answers.head? := by
        simpa only [called] using filter.answers_next.1
      have others : rest.answers = filter.answers.tail := by
        simpa only [called] using filter.answers_next.2
      have logged : log = [item].filterMap failure? := by
        simpa only [called, Option.toList_some] using filter.log_next
      have split : filter.answers = [item] ++ rest.answers := by
        obtain ⟨later, split⟩ := List.head?_eq_some_iff.mp first.symm
        rw [others, split, List.tail_cons, List.singleton_append]
      rw [run, called, split, List.filterMap_append, ← logged]
      simp only [inductionHypothesis, List.singleton_append]

/-! ## Filtering again -/

/-- The records that a whole run yields. -/
def kept (filter : Filter α) : List α :=
  filter.run.1.filterMap Except.toOption

theorem answer?_of_mem_kept {filter : Filter α} {record : α} (member : record ∈ filter.kept) :
    filter.answer? record = some (.ok record) := by
  unfold kept at member
  rw [run_eq] at member
  obtain ⟨item, itemMember, isRecord⟩ := List.mem_filterMap.mp member
  obtain ⟨original, _, answered⟩ := List.mem_filterMap.mp itemMember
  cases item with
  | error error => simp [Except.toOption] at isRecord
  | ok found =>
      simp only [Except.toOption, Option.some.injEq] at isRecord
      subst isRecord
      rw [eq_of_answer?_ok answered] at answered
      exact answered

/-- Of the records kept, each is answered with itself. -/
theorem answers_kept (filter : Filter α) :
    answers { filter with records := filter.kept } = filter.kept.map .ok := by
  have answered : ∀ record ∈ filter.kept, filter.answer? record = some (.ok record) :=
    fun _ member => answer?_of_mem_kept member
  calc filter.kept.filterMap filter.answer?
      = filter.kept.filterMap fun record => some (.ok record) := List.filterMap_congr answered
    _ = filter.kept.map .ok := congrFun List.filterMap_eq_map filter.kept

theorem filterMap_failure?_ok (records : List α) :
    (records.map Except.ok).filterMap failure? = [] := by
  apply List.filterMap_eq_nil_iff.mpr
  intro item member
  obtain ⟨record, _, rfl⟩ := List.mem_map.mp member
  rfl

end Filter

/-- Calling a filter until it ends yields the answers to all records in their order and logs one
failure for each error. Each call yields the next answer, logs it if it is an error, and consumes
the records up to the one it answers. Filtering the records kept again keeps all of them. -/
theorem filter_answers_every_record {α : Type} (filter : Filter α) :
    filter.run = (filter.answers, filter.answers.filterMap Filter.failure?) ∧
      (∀ calls, let call := (filter.after calls).next
        call.item = filter.answers[calls]? ∧
          call.log = call.item.toList.filterMap Filter.failure? ∧
          (filter.after calls).Consumes call.item (filter.after (calls + 1)).records) ∧
      ({ filter with records := filter.kept } : Filter α).run = (filter.kept.map .ok, []) := by
  refine ⟨filter.run_eq, fun calls => ⟨?_, ?_, ?_⟩, ?_⟩
  · exact filter.item_after calls
  · exact (filter.after calls).log_next
  · exact (filter.after calls).consumes_next
  · rw [Filter.run_eq, Filter.answers_kept, Filter.filterMap_failure?_ok]

end RecordFilter
