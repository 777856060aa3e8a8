import Mathlib.Data.String.Basic
import RecordFilter.Json.Document

/-!
# Ordered values

In a JSON value the members of an object stand in the order of their names, each name once. The
values of documents are ordered, and every ordered value is the value of a document: its own.
-/

namespace RecordFilter

namespace Json

variable {α : Type}

/-! ## Members in order -/

def Precedes (first second : String × α) : Prop :=
  first.1 < second.1

theorem mem_insertMember {name : String} {value : α} {kept : List (String × α)}
    {member : String × α} (inserted : member ∈ insertMember name value kept) :
    member = (name, value) ∨ member ∈ kept := by
  induction kept with
  | nil => simpa [insertMember] using inserted
  | cons head rest inductionHypothesis =>
      obtain ⟨other, old⟩ := head
      unfold insertMember at inserted
      by_cases same : name = other
      · rw [if_pos same] at inserted
        rcases List.mem_cons.mp inserted with first | later
        · exact Or.inl first
        · exact Or.inr (List.mem_cons_of_mem _ later)
      · rw [if_neg same] at inserted
        by_cases before : name < other
        · rw [if_pos before] at inserted
          exact List.mem_cons.mp inserted
        · rw [if_neg before] at inserted
          rcases List.mem_cons.mp inserted with first | later
          · exact Or.inr (first ▸ List.mem_cons_self)
          · apply (inductionHypothesis later).imp_right
            exact List.mem_cons_of_mem _

theorem pairwise_insertMember (name : String) (value : α) {kept : List (String × α)}
    (order : kept.Pairwise Precedes) : (insertMember name value kept).Pairwise Precedes := by
  induction kept with
  | nil => simp [insertMember]
  | cons head rest inductionHypothesis =>
      obtain ⟨other, old⟩ := head
      obtain ⟨first, others⟩ := List.pairwise_cons.mp order
      unfold insertMember
      by_cases same : name = other
      · subst same
        rw [if_pos rfl]
        exact List.pairwise_cons.mpr ⟨first, others⟩
      · rw [if_neg same]
        by_cases before : name < other
        · rw [if_pos before]
          apply List.pairwise_cons.mpr
          refine ⟨?_, order⟩
          intro member inOrder
          rcases List.mem_cons.mp inOrder with rfl | later
          · exact before
          · exact lt_trans before (first member later)
        · rw [if_neg before]
          apply List.pairwise_cons.mpr
          refine ⟨?_, inductionHypothesis others⟩
          intro member inserted
          rcases mem_insertMember inserted with rfl | later
          · exact lt_of_le_of_ne (not_lt.mp before) (Ne.symm same)
          · exact first member later

/-- A member after all others is added at the end. -/
theorem insertMember_of_last {name : String} {value : α} {kept : List (String × α)}
    (last : ∀ other ∈ kept, other.1 < name) :
    insertMember name value kept = kept ++ [(name, value)] := by
  induction kept with
  | nil => rfl
  | cons head rest inductionHypothesis =>
      obtain ⟨other, old⟩ := head
      obtain ⟨first, others⟩ := List.forall_mem_cons.mp last
      have after : other < name := first
      rw [insertMember, if_neg after.ne', if_neg (not_lt_of_gt after),
        inductionHypothesis others, List.cons_append]

theorem collapse_eq_foldl (members : List (String × α)) :
    collapse members =
      members.foldl (fun kept member => insertMember member.1 member.2 kept) [] := rfl

/-- What holds of each member holds of the members after collapsing, and these are in order. -/
theorem collapse_spec {holds : String × α → Prop} {members : List (String × α)}
    (each : ∀ member ∈ members, holds member) :
    (collapse members).Pairwise Precedes ∧ ∀ member ∈ collapse members, holds member := by
  have kept : ∀ kept : List (String × α), kept.Pairwise Precedes → (∀ member ∈ kept, holds member) →
      (members.foldl (fun kept member => insertMember member.1 member.2 kept) kept).Pairwise
          Precedes ∧
        ∀ member ∈ members.foldl (fun kept member => insertMember member.1 member.2 kept) kept,
          holds member := by
    induction members with
    | nil => exact fun kept order all => ⟨order, all⟩
    | cons head rest inductionHypothesis =>
        obtain ⟨first, others⟩ := List.forall_mem_cons.mp each
        intro kept order all
        apply inductionHypothesis others
        · exact pairwise_insertMember head.1 head.2 order
        · intro member inserted
          rcases mem_insertMember inserted with rfl | old
          · exact first
          · exact all member old
  rw [collapse_eq_foldl]
  exact kept [] .nil (by simp)

/-- Members in order are not changed. -/
theorem collapse_eq_self {members : List (String × α)} (order : members.Pairwise Precedes) :
    collapse members = members := by
  have onto : ∀ kept : List (String × α), (kept ++ members).Pairwise Precedes →
      members.foldl (fun kept member => insertMember member.1 member.2 kept) kept =
        kept ++ members := by
    clear order
    induction members with
    | nil => simp
    | cons head rest inductionHypothesis =>
        obtain ⟨name, value⟩ := head
        intro kept order
        have last : ∀ other ∈ kept, other.1 < name := fun other member =>
          (List.pairwise_append.mp order).2.2 other member (name, value) List.mem_cons_self
        have grown : kept ++ [(name, value)] ++ rest = kept ++ (name, value) :: rest := by simp
        simp only [List.foldl_cons, insertMember_of_last last]
        rw [← grown]
        apply inductionHypothesis
        rw [grown]
        exact order
  exact onto [] order

theorem perm_insertMember {name : String} (value : α) {kept : List (String × α)}
    (fresh : name ∉ kept.map Prod.fst) :
    (insertMember name value kept).Perm ((name, value) :: kept) := by
  induction kept with
  | nil => exact .refl _
  | cons head rest inductionHypothesis =>
      obtain ⟨other, old⟩ := head
      rw [List.map_cons, List.mem_cons, not_or] at fresh
      rw [insertMember, if_neg fresh.1]
      by_cases before : name < other
      · rw [if_pos before]
      · rw [if_neg before]
        exact ((inductionHypothesis fresh.2).cons (other, old)).trans (.swap _ _ rest)

/-- Members with different names are put in order, and all of them are kept. -/
theorem perm_collapse {members : List (String × α)} (distinct : (members.map Prod.fst).Nodup) :
    (collapse members).Perm members := by
  have onto : ∀ kept : List (String × α), ((kept ++ members).map Prod.fst).Nodup →
      (members.foldl (fun kept member => insertMember member.1 member.2 kept) kept).Perm
        (kept ++ members) := by
    clear distinct
    induction members with
    | nil => simp
    | cons head rest inductionHypothesis =>
        obtain ⟨name, value⟩ := head
        intro kept distinct
        have moved : (kept ++ (name, value) :: rest).Perm ((name, value) :: kept ++ rest) :=
          List.perm_middle
        have names := (moved.map Prod.fst).nodup_iff.mp distinct
        have fresh : name ∉ kept.map Prod.fst := by
          simp only [List.cons_append, List.map_cons, List.map_append, List.nodup_cons,
            List.mem_append, not_or] at names
          exact names.1.1
        have inserted : (insertMember name value kept ++ rest).Perm
            ((name, value) :: kept ++ rest) := (perm_insertMember value fresh).append_right rest
        have further := inductionHypothesis (insertMember name value kept)
          ((inserted.map Prod.fst).nodup_iff.mpr names)
        exact further.trans (inserted.trans moved.symm)
  exact onto [] distinct

/-! ## Ordered values -/

/-- The members of all objects in a value are in order, each name once. -/
inductive IsOrdered : Json → Prop where
  | null : IsOrdered .null
  | bool (value : Bool) : IsOrdered (.bool value)
  | number (value : JsonNumber) : IsOrdered (.number value)
  | string (value : String) : IsOrdered (.string value)
  | array {items : List Json} (each : ∀ item ∈ items, IsOrdered item) :
      IsOrdered (.array items)
  | object {members : List (String × Json)} (order : members.Pairwise Precedes)
      (each : ∀ member ∈ members, IsOrdered member.2) : IsOrdered (.object members)

end Json

namespace JsonDocument

open Json

theorem itemValues?_ofItems {items : List Json}
    (each : ∀ item ∈ items, (ofValue item).value? = some item) :
    itemValues? (ofItems items) = some items := by
  induction items with
  | nil => rfl
  | cons item rest inductionHypothesis =>
      obtain ⟨first, others⟩ := List.forall_mem_cons.mp each
      simp [ofItems, itemValues?, first, inductionHypothesis others]

theorem memberValues?_ofMemberList {members : List (String × Json)}
    (each : ∀ member ∈ members, (ofValue member.2).value? = some member.2) :
    memberValues? (ofMemberList members) = some members := by
  induction members with
  | nil => rfl
  | cons member rest inductionHypothesis =>
      obtain ⟨first, others⟩ := List.forall_mem_cons.mp each
      simp [ofMemberList, memberValues?, first, inductionHypothesis others]

/-- An ordered value is the value of its own document. -/
theorem value?_ofValue {json : Json} (ordered : json.IsOrdered) :
    (ofValue json).value? = some json := by
  induction ordered with
  | null => rfl
  | bool value => rfl
  | number value => rfl
  | string value => rfl
  | array each inductionHypothesis =>
      simp [ofValue, value?, itemValues?_ofItems inductionHypothesis]
  | object order each inductionHypothesis =>
      simp [ofValue, value?, memberValues?_ofMemberList inductionHypothesis, ofMembers,
        collapse_eq_self order]

mutual

theorem isOrdered_of_value? : ∀ {document : JsonDocument} {json : Json},
    document.value? = some json → json.IsOrdered
  | .null, _, found => by
      cases found
      exact .null
  | .bool value, _, found => by
      cases found
      exact .bool value
  | .number _, _, found => by
      obtain ⟨value, _, rfl⟩ := Option.map_eq_some_iff.mp found
      exact .number value
  | .string _, _, found => by
      obtain ⟨value, _, rfl⟩ := Option.map_eq_some_iff.mp found
      exact .string value
  | .array items, _, found => by
      obtain ⟨values, read, rfl⟩ := Option.map_eq_some_iff.mp found
      exact .array (forall_isOrdered_of_itemValues? read)
  | .object members, _, found => by
      obtain ⟨values, read, rfl⟩ := Option.map_eq_some_iff.mp found
      obtain ⟨order, each⟩ := collapse_spec (forall_isOrdered_of_memberValues? read)
      exact .object order each

theorem forall_isOrdered_of_itemValues? : ∀ {items : List JsonDocument} {values : List Json},
    itemValues? items = some values → ∀ value ∈ values, value.IsOrdered
  | [], _, found => by
      cases found
      simp
  | item :: rest, _, found => by
      simp only [itemValues?, Option.bind_eq_bind, Option.bind_eq_some_iff, Option.pure_def,
        Option.some.injEq] at found
      obtain ⟨value, first, values, others, rfl⟩ := found
      exact List.forall_mem_cons.mpr
        ⟨isOrdered_of_value? first, forall_isOrdered_of_itemValues? others⟩

theorem forall_isOrdered_of_memberValues? :
    ∀ {members : List (Option String × JsonDocument)} {values : List (String × Json)},
      memberValues? members = some values → ∀ member ∈ values, member.2.IsOrdered
  | [], _, found => by
      cases found
      simp
  | (name, document) :: rest, _, found => by
      simp only [memberValues?, Option.bind_eq_bind, Option.bind_eq_some_iff, Option.pure_def,
        Option.some.injEq] at found
      obtain ⟨name, _, value, first, values, others, rfl⟩ := found
      exact List.forall_mem_cons.mpr
        ⟨isOrdered_of_value? first, forall_isOrdered_of_memberValues? others⟩

end

/-- The ordered values are the values of documents. -/
theorem exists_value?_eq_some_iff {json : Json} :
    (∃ document : JsonDocument, document.value? = some json) ↔ json.IsOrdered := by
  constructor
  · rintro ⟨document, found⟩
    exact isOrdered_of_value? found
  · intro ordered
    exact ⟨ofValue json, value?_ofValue ordered⟩

end JsonDocument

end RecordFilter
