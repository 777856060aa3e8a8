import Mathlib.Data.List.Forall2
import RecordFilter.Proofs.Path.Scan

/-!
# Records that differ in nothing tested

Following a chain through two records may meet different values in the same places. When a test
has the same answer for each two of them, the visits of the two records have the same result.
-/

namespace RecordFilter.Outcome

/-- Related values, or the same drop or error. -/
inductive Alike (related : Value → Value → Prop) : Outcome → Outcome → Prop where
  | reached {first second : Value} (values : related first second) :
      Alike related (.reached first) (.reached second)
  | dropped (cause : Drop) : Alike related (.dropped cause) (.dropped cause)
  | failed (error : EvalError) : Alike related (.failed error) (.failed error)

/-- Outcomes that are alike one by one have the same scan when one test says of each value what
the other test says of the value that is related to it. -/
theorem scan_eq_of_alike {quantifier : Quantifier} {test retest : Value → Bool}
    {related : Value → Value → Prop} {firsts seconds : List Outcome}
    (alike : List.Forall₂ (Alike related) firsts seconds)
    (agree : ∀ first second, .reached first ∈ firsts → .reached second ∈ seconds →
      related first second → test first = retest second) :
    scan quantifier test firsts = scan quantifier retest seconds := by
  induction alike with
  | nil => rfl
  | cons head _ inductionHypothesis =>
      have rest := inductionHypothesis fun first second firstMember secondMember =>
        agree first second (List.mem_cons_of_mem _ firstMember)
          (List.mem_cons_of_mem _ secondMember)
      cases head with
      | reached values =>
          rw [scan, scan, rest, agree _ _ List.mem_cons_self List.mem_cons_self values]
      | dropped cause => rw [scan, scan, rest]
      | failed error => rfl

theorem Alike.refl {related : Value → Value → Prop} (reflexive : ∀ value, related value value)
    (outcome : Outcome) : Alike related outcome outcome := by
  cases outcome with
  | reached value => exact .reached (reflexive value)
  | dropped cause => exact .dropped cause
  | failed error => exact .failed error

/-- Tests that agree on what is reached have the same scan. -/
theorem scan_congr {quantifier : Quantifier} {test retest : Value → Bool}
    {outcomes : List Outcome}
    (agree : ∀ value, .reached value ∈ outcomes → test value = retest value) :
    scan quantifier test outcomes = scan quantifier retest outcomes := by
  refine scan_eq_of_alike (List.forall₂_same.mpr fun outcome _ => Alike.refl Eq.refl outcome) ?_
  rintro first _ member _ rfl
  exact agree first member

/-- Where a test has its answer yes, a test that more values pass has it as well: it may only meet
the value that decides earlier, and no error stands before that. -/
theorem scan_mono {quantifier : Quantifier} {test other : Value → Bool}
    {outcomes : List Outcome}
    (more : ∀ value, .reached value ∈ outcomes → test value = true → other value = true)
    (passes : scan quantifier test outcomes = .ok true) :
    scan quantifier other outcomes = .ok true := by
  induction outcomes with
  | nil => exact passes
  | cons outcome rest inductionHypothesis =>
      have restMore := inductionHypothesis fun value member =>
        more value (List.mem_cons_of_mem outcome member)
      cases outcome with
      | failed error => cases passes
      | dropped cause =>
          rw [scan] at passes ⊢
          split at passes
          next => cases passes
          next unsettled =>
              rw [if_neg unsettled]
              exact restMore passes
      | reached value =>
          have head := more value List.mem_cons_self
          rw [scan] at passes ⊢
          split at passes
          next settled =>
              have passed : test value = true := Except.ok.inj passes
              rw [passed] at settled
              rw [head passed, if_pos settled]
          next unsettled =>
              split
              next settled =>
                  -- The answers differ, so the stricter one is no and the other one yes.
                  cases accepted : other value with
                  | true => rfl
                  | false =>
                      cases passed : test value with
                      | true => exact absurd (head passed) (by rw [accepted]; decide)
                      | false =>
                          rw [accepted] at settled
                          rw [passed] at unsettled
                          exact absurd settled unsettled
              next => exact restMore passes

end RecordFilter.Outcome
