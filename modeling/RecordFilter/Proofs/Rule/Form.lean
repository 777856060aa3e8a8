import Mathlib.Data.List.Perm.Basic
import Mathlib.Data.Option.Basic
import RecordFilter.Proofs.Json.Ordered
import RecordFilter.Proofs.Rule.Tree
import RecordFilter.Rule.Form

/-!
# Rules and their JSON forms

The form of a rule may have its members in any order and under either of their names. Every form
is read as the rule it was written from, but for literals that are null: these are read as absent.
-/

namespace RecordFilter.Rule

/-! ## Literals -/

/-- Every literal in the tree has a property. -/
inductive EachLiteral (holds : Json → Prop) : Rule → Prop where
  | node {rule : Rule} (own : ∀ value ∈ rule.value, holds value)
      (children : ∀ child ∈ rule.rules, EachLiteral holds child) : EachLiteral holds rule

/-- A literal, with null for an absent one. -/
def given? : Json → Option Json
  | .null => none
  | value => some value

mutual

/-- The tree without the literals that are null. -/
def withoutNulls : Rule → Rule
  | ⟨condition, field, typeTag, operator, value, rules⟩ =>
      ⟨condition, field, typeTag, operator, value.bind given?, withoutNullsAll rules⟩

def withoutNullsAll : List Rule → List Rule
  | [] => []
  | rule :: rest => withoutNulls rule :: withoutNullsAll rest

end

variable {rule : Rule}

theorem given?_of_ne_null {value : Json} (present : value ≠ .null) : given? value = some value := by
  cases value with
  | null => exact absurd rfl present
  | _ => rfl

theorem withoutNullsAll_eq_map (rules : List Rule) :
    withoutNullsAll rules = rules.map withoutNulls := by
  induction rules with
  | nil => rfl
  | cons rule rest inductionHypothesis =>
      rw [withoutNullsAll, inductionHypothesis, List.map_cons]

theorem withoutNulls_eq (rule : Rule) :
    rule.withoutNulls =
      { rule with value := rule.value.bind given?, rules := rule.rules.map withoutNulls } := by
  cases rule
  rw [withoutNulls, withoutNullsAll_eq_map]

theorem withoutNulls_eq_self (present : rule.EachLiteral (· ≠ .null)) :
    rule.withoutNulls = rule := by
  induction present with
  | @node rule own children inductionHypothesis =>
      have value : rule.value.bind given? = rule.value := by
        cases found : rule.value with
        | none => rfl
        | some value => exact given?_of_ne_null (own value found)
      have rules : rule.rules.map withoutNulls = rule.rules :=
        (List.map_congr_left inductionHypothesis).trans (List.map_id _)
      rw [withoutNulls_eq, value, rules]
      cases rule
      rfl

/-! ## Forms -/

/-- A written member, or the same member under the other spelling of its name. -/
inductive Respelled : String × Json → String × Json → Prop where
  | same (written : String × Json) : Respelled written written
  | pascal (member : Member) (value : Json) :
      Respelled (member.name, value) (member.pascalName, value)

def childrenMember (children : List Json) : List (String × Json) :=
  if children = [] then [] else [(Member.rules.name, .array children)]

/-- A JSON form of a rule: the written members in any order, each under either of its names, with
forms of the children. -/
inductive Form : Rule → Json → Prop where
  | object {rule : Rule} {children : List Json} {spelled members : List (String × Json)}
      (each : List.Forall₂ Form rule.rules children)
      (names : List.Forall₂ Respelled (rule.ownMembers ++ childrenMember children) spelled)
      (order : spelled.Perm members) : Form rule (.object members)

theorem toJson_eq (rule : Rule) :
    rule.toJson = .object (rule.ownMembers ++ childrenMember (rule.rules.map toJson)) := by
  have list : ∀ rules : List Rule, toJsonList rules = rules.map toJson := by
    intro rules
    induction rules with
    | nil => rfl
    | cons rule rest inductionHypothesis =>
        rw [toJsonList, inductionHypothesis, List.map_cons]
  obtain ⟨condition, field, typeTag, operator, value, rules⟩ := rule
  cases rules with
  | nil => simp [toJson, rulesMember, childrenMember, ownMembers]
  | cons first rest => simp [toJson, rulesMember, childrenMember, ownMembers, list]

theorem form_toJson (rule : Rule) : rule.Form rule.toJson := by
  induction rule using tree_induction with
  | node rule inductionHypothesis =>
      rw [toJson_eq]
      apply Form.object
      · exact List.forall₂_map_right_iff.mpr (List.forall₂_same.mpr inductionHypothesis)
      · exact List.forall₂_same.mpr fun written _ => .same written
      · exact List.Perm.refl _

/-! ## Reading members -/

namespace Member

theorem ofName?_name (member : Member) : ofName? member.name = some member := by
  cases member <;> rfl

theorem ofName?_pascalName (member : Member) : ofName? member.pascalName = some member := by
  cases member <;> rfl

theorem mem_all (member : Member) : member ∈ all := by
  cases member <;> decide

end Member

namespace Draft

/-- The draft with one member replaced by that of another draft. -/
def take (draft full : Draft) : Member → Draft
  | .condition => { draft with condition := full.condition }
  | .field => { draft with field := full.field }
  | .type => { draft with typeTag := full.typeTag }
  | .operator => { draft with operator := full.operator }
  | .value => { draft with value := full.value }
  | .rules => { draft with rules := full.rules }

/-- The draft with some of its members only. -/
def part (draft : Draft) (members : List Member) : Draft where
  condition := if .condition ∈ members then draft.condition else none
  field := if .field ∈ members then draft.field else none
  typeTag := if .type ∈ members then draft.typeTag else none
  operator := if .operator ∈ members then draft.operator else none
  value := if .value ∈ members then draft.value else none
  rules := if .rules ∈ members then draft.rules else none

variable {full : Draft} {member : Member} {members : List Member}

theorem part_nil (full : Draft) : full.part [] = empty := by
  simp [part, empty]

theorem part_cons (full : Draft) (member : Member) (members : List Member) :
    full.part (member :: members) = (full.part members).take full member := by
  cases member <;> simp [part, take]

theorem has_part_eq_false (absent : member ∉ members) :
    (full.part members).has member = false := by
  cases member <;> simp [part, has, absent]

/-- A draft is the part of it with all members it has. -/
theorem part_eq_self (all : ∀ member, full.has member = true → member ∈ members) :
    full.part members = full := by
  have kept : ∀ {α : Type} (content : Option α) (member : Member),
      (content.isSome = true → member ∈ members) →
        (if member ∈ members then content else none) = content := by
    intro α content member held
    by_cases listed : member ∈ members
    · rw [if_pos listed]
    · rw [if_neg listed]
      cases content with
      | none => rfl
      | some value => exact absurd (held rfl) listed
  unfold part
  rw [kept _ _ (all .condition), kept _ _ (all .field), kept _ _ (all .type),
    kept _ _ (all .operator), kept _ _ (all .value), kept _ _ (all .rules)]

end Draft

/-- A member of a form that is read as what a draft has for it. -/
structure Gives (full : Draft) (member : Member) (written : String × Json) : Prop where
  named : Member.ofName? written.1 = some member
  read : ∀ draft : Draft,
    addMember? draft member (.ofValue written.2) = some (draft.take full member)

theorem Gives.respelled {full : Draft} {member : Member} {written spelled : String × Json}
    (gives : Gives full member written) (respelled : Respelled written spelled) :
    Gives full member spelled := by
  cases respelled with
  | same => exact gives
  | pascal other value =>
      have same : other = member :=
        Option.some.inj ((Member.ofName?_name other).symm.trans gives.named)
      rw [same]
      exact ⟨Member.ofName?_pascalName member, gives.read⟩

theorem forall_gives_respelled {full : Draft} {named : List Member}
    {written spelled : List (String × Json)} (gives : List.Forall₂ (Gives full) named written)
    (respelled : List.Forall₂ Respelled written spelled) :
    List.Forall₂ (Gives full) named spelled := by
  induction respelled generalizing named with
  | nil => exact gives
  | cons first _ inductionHypothesis =>
      cases gives with
      | cons gives rest => exact .cons (gives.respelled first) (inductionHypothesis rest)

/-- A member that was not read before is read on its own. -/
theorem ofMembers?_cons {draft taken : Draft} {name : String} {member : Member}
    {document : JsonDocument} {rest : List (Option String × JsonDocument)}
    (named : Member.ofName? name = some member) (unseen : draft.has member = false)
    (read : addMember? draft member document = some taken) :
    ofMembers? draft ((some name, document) :: rest) = ofMembers? taken rest := by
  have allowed : (guard (!draft.has member) : Option Unit) = some () := by
    rw [unseen]
    rfl
  rw [ofMembers?, Option.bind_eq_bind, Option.bind_some, named]
  dsimp only
  rw [allowed, read]
  rfl

/-- Members of a draft that are read one after the other give that draft, in any order. -/
theorem ofMembers?_ofMemberList {full : Draft} {named : List Member}
    {entries : List (String × Json)} (each : List.Forall₂ (Gives full) named entries)
    (seen : List Member) (distinct : (named ++ seen).Nodup)
    (all : ∀ member, full.has member = true → member ∈ named ++ seen) :
    ofMembers? (full.part seen) (JsonDocument.ofMemberList entries) = some full.toRule := by
  induction each generalizing seen with
  | nil =>
      have whole : full.part seen = full := Draft.part_eq_self all
      rw [whole]
      rfl
  | @cons member written named entries gives _ inductionHypothesis =>
      obtain ⟨name, value⟩ := written
      -- The member moves from those to be read to those seen; together they stay the same.
      have middle : (named ++ member :: seen).Perm (member :: named ++ seen) :=
        List.perm_middle
      have absent : member ∉ seen := by
        intro old
        exact (List.nodup_cons.mp distinct).1 (List.mem_append_right _ old)
      have rest := inductionHypothesis (member :: seen) (middle.nodup_iff.mpr distinct)
        fun other held => middle.mem_iff.mpr (all other held)
      rw [JsonDocument.ofMemberList,
        ofMembers?_cons gives.named (Draft.has_part_eq_false absent) (gives.read _),
        ← Draft.part_cons]
      exact rest

/-! ## The members of a form -/

/-- What the form of a rule is read as. -/
def formDraft (rule : Rule) : Draft where
  condition := some rule.condition
  field := rule.field.map some
  typeTag := rule.typeTag.map some
  operator := rule.operator.map some
  value := rule.value.map given?
  rules := if rule.rules = [] then none else some (rule.rules.map withoutNulls)

theorem toRule_formDraft (rule : Rule) : rule.formDraft.toRule = rule.withoutNulls := by
  have text : ∀ content : Option String, (content.map some).getD none = content := by
    intro content
    cases content <;> rfl
  have literal : (rule.value.map given?).getD none = rule.value.bind given? := by
    cases rule.value <;> rfl
  have children : rule.formDraft.rules.getD [] = rule.rules.map withoutNulls := by
    by_cases childless : rule.rules = []
    · simp [formDraft, childless]
    · simp [formDraft, childless]
  rw [withoutNulls_eq, Draft.toRule, children]
  simp only [formDraft, text, literal, Option.getD_some]

theorem conditionOf?_name (condition : Condition) :
    conditionOf? (.string (some condition.name)) = some condition := by
  cases condition <;> decide +kernel

theorem valueOf?_ofValue {value : Json} (ordered : value.IsOrdered) :
    valueOf? (.ofValue value) = some (given? value) := by
  have found := JsonDocument.value?_ofValue ordered
  cases value with
  | null => rfl
  | _ => exact congrArg (Option.map some) found

def slot (full : Draft) (member : Member) : List Member :=
  if full.has member then [member] else []

/-- The members that a draft has, in the order in which they are written. -/
def held (full : Draft) : List Member :=
  Member.all.flatMap (slot full)

theorem held_eq_filter (full : Draft) : held full = Member.all.filter full.has := by
  unfold held
  induction Member.all with
  | nil => rfl
  | cons member rest inductionHypothesis =>
      by_cases has : full.has member = true
      · simp [slot, has, inductionHypothesis]
      · simp [slot, has, inductionHypothesis]

theorem nodup_held (full : Draft) : (held full).Nodup := by
  have distinct : Member.all.Nodup := by decide
  rw [held_eq_filter]
  exact distinct.filter _

theorem mem_held {full : Draft} {member : Member} (has : full.has member = true) :
    member ∈ held full := by
  rw [held_eq_filter]
  exact List.mem_filter.mpr ⟨Member.mem_all member, has⟩

theorem gives_textMember {full : Draft} {member : Member} {text : Option String}
    (has : full.has member = text.isSome)
    (read : ∀ content : String, text = some content → ∀ draft : Draft,
      addMember? draft member (.string (some content)) = some (draft.take full member)) :
    List.Forall₂ (Gives full) (slot full member) (textMember member text) := by
  cases text with
  | none => simp [slot, has, textMember]
  | some content =>
      have gives : Gives full member (member.name, .string content) :=
        ⟨Member.ofName?_name member, read content rfl⟩
      simpa [slot, has, textMember] using gives

theorem gives_valueMember {rule : Rule} (ordered : ∀ value ∈ rule.value, value.IsOrdered) :
    List.Forall₂ (Gives rule.formDraft) (slot rule.formDraft .value)
      (valueMember rule.value) := by
  cases found : rule.value with
  | none => simp [slot, formDraft, Draft.has, found, valueMember]
  | some value =>
      have gives : Gives rule.formDraft .value (Member.value.name, value) := by
        refine ⟨Member.ofName?_name .value, fun draft => ?_⟩
        simp [addMember?, valueOf?_ofValue (ordered value found), Draft.take, formDraft, found]
      simpa [slot, formDraft, Draft.has, found, valueMember] using gives

/-- What is read from a form is the rule without the literals that are null. -/
def ReadsBack (rule : Rule) (form : Json) : Prop :=
  ofJson? form = some rule.withoutNulls

theorem rulesOf?_ofItems {rules : List Rule} {children : List Json}
    (each : List.Forall₂ ReadsBack rules children) :
    rulesOf? (JsonDocument.ofItems children) = some (rules.map withoutNulls) := by
  induction each with
  | nil => rfl
  | cons first _ inductionHypothesis =>
      rw [ReadsBack, ofJson?] at first
      simp [JsonDocument.ofItems, rulesOf?, first, inductionHypothesis]

theorem gives_childrenMember {rule : Rule} {children : List Json}
    (each : List.Forall₂ ReadsBack rule.rules children) :
    List.Forall₂ (Gives rule.formDraft) (slot rule.formDraft .rules)
      (childrenMember children) := by
  have read := rulesOf?_ofItems each
  by_cases childless : rule.rules = []
  · rw [childless] at each
    cases each
    simp [slot, formDraft, Draft.has, childless, childrenMember]
  · have written : children ≠ [] := by
      rintro rfl
      exact childless (List.forall₂_nil_right_iff.mp each)
    have gives : Gives rule.formDraft .rules (Member.rules.name, .array children) := by
      refine ⟨Member.ofName?_name .rules, fun draft => ?_⟩
      simp [JsonDocument.ofValue, addMember?, read, Draft.take, formDraft, childless]
    simpa [slot, formDraft, Draft.has, childless, childrenMember, written] using gives

theorem gives_ownMembers {rule : Rule} (ordered : ∀ value ∈ rule.value, value.IsOrdered) :
    List.Forall₂ (Gives rule.formDraft)
      (slot rule.formDraft .condition ++ slot rule.formDraft .field ++
        slot rule.formDraft .type ++ slot rule.formDraft .operator ++
        slot rule.formDraft .value)
      rule.ownMembers := by
  have condition : Gives rule.formDraft .condition
      (Member.condition.name, .string rule.condition.name) := by
    refine ⟨Member.ofName?_name .condition, fun draft => ?_⟩
    simp [JsonDocument.ofValue, addMember?, conditionOf?_name, Draft.take, formDraft]
  have first : List.Forall₂ (Gives rule.formDraft) (slot rule.formDraft .condition)
      [(Member.condition.name, .string rule.condition.name)] := by
    simpa [slot, formDraft, Draft.has] using condition
  unfold ownMembers
  apply List.rel_append _ (gives_valueMember ordered)
  apply List.rel_append
  · apply List.rel_append
    · apply List.rel_append first
      apply gives_textMember
      · simp [formDraft, Draft.has]
      · intro content found draft
        simp [addMember?, textOf?, Draft.take, formDraft, found]
    · apply gives_textMember
      · simp [formDraft, Draft.has]
      · intro content found draft
        simp [addMember?, textOf?, Draft.take, formDraft, found]
  · apply gives_textMember
    · simp [formDraft, Draft.has]
    · intro content found draft
      simp [addMember?, textOf?, Draft.take, formDraft, found]

theorem gives_form {rule : Rule} (ordered : ∀ value ∈ rule.value, value.IsOrdered)
    {children : List Json}
    (each : List.Forall₂ ReadsBack rule.rules children) :
    List.Forall₂ (Gives rule.formDraft) (held rule.formDraft)
      (rule.ownMembers ++ childrenMember children) := by
  have parts := List.rel_append (gives_ownMembers ordered) (gives_childrenMember each)
  simpa [held, Member.all] using parts

/-- Every form of a rule is read back. -/
theorem readsBack_form {rule : Rule} (ordered : rule.EachLiteral Json.IsOrdered) {form : Json}
    (written : rule.Form form) : rule.ReadsBack form := by
  induction ordered generalizing form with
  | @node rule own _ inductionHypothesis =>
      cases written with
      | @object _ children spelled members each names order =>
          have read : List.Forall₂ ReadsBack rule.rules children :=
            ((List.forall₂_and_left _ _).mpr ⟨inductionHypothesis, each⟩).imp
              fun _ _ both => both.1 both.2
          have gives := forall_gives_respelled (gives_form own read) names
          -- The names are put in the order of the form, so its members are read where they stand.
          obtain ⟨named, inPlace, moved⟩ := List.perm_comp_forall₂ order.symm gives.flip
          have distinct : (named ++ []).Nodup := by
            rw [List.append_nil]
            exact moved.nodup_iff.mpr (nodup_held rule.formDraft)
          have all : ∀ member, rule.formDraft.has member = true → member ∈ named ++ [] := by
            intro member has
            rw [List.append_nil]
            exact moved.mem_iff.mpr (mem_held has)
          have found := ofMembers?_ofMemberList inPlace.flip [] distinct all
          rw [Draft.part_nil, toRule_formDraft] at found
          simpa [ReadsBack, ofJson?, JsonDocument.ofValue, ofDocument?] using found

end RecordFilter.Rule
