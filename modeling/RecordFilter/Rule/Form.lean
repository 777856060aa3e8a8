import RecordFilter.Json.Reader
import RecordFilter.Json.Writer
import RecordFilter.Rule.Basic

/-!
# The JSON form of rules

A rule is an object with the members `condition`, `field`, `type`, `operator`, `value` and
`rules`, each also in PascalCase, or an array with their values in this order. Reading
refuses a member that occurs twice; writing leaves out what is absent.
-/

namespace RecordFilter.Rule

inductive Member where
  | condition
  | field
  | type
  | operator
  | value
  | rules
deriving DecidableEq

namespace Member

/-- All members, in the order in which they are written. -/
def all : List Member :=
  [condition, field, type, operator, value, rules]

def name : Member → String
  | condition => "condition"
  | field => "field"
  | type => "type"
  | operator => "operator"
  | value => "value"
  | rules => "rules"

/-- The other spelling of a member's name. -/
def pascalName : Member → String
  | condition => "Condition"
  | field => "Field"
  | type => "Type"
  | operator => "Operator"
  | value => "Value"
  | rules => "Rules"

/-- The member with a name in either spelling. -/
def ofName? (name : String) : Option Member :=
  all.find? fun member => member.name == name || member.pascalName == name

end Member

/-! ## Reading -/

structure Draft where
  condition : Option Condition
  field : Option (Option String)
  typeTag : Option (Option String)
  operator : Option (Option String)
  value : Option (Option Json)
  rules : Option (List Rule)

namespace Draft

def empty : Draft :=
  ⟨none, none, none, none, none, none⟩

def has (draft : Draft) : Member → Bool
  | .condition => draft.condition.isSome
  | .field => draft.field.isSome
  | .type => draft.typeTag.isSome
  | .operator => draft.operator.isSome
  | .value => draft.value.isSome
  | .rules => draft.rules.isSome

/-- The rule with the members read; the others are absent. -/
def toRule (draft : Draft) : Rule :=
  ⟨draft.condition.getD .and, draft.field.getD none, draft.typeTag.getD none,
    draft.operator.getD none, draft.value.getD none, draft.rules.getD []⟩

end Draft

def conditionOf? : JsonDocument → Option Condition
  | .string (some text) => (Condition.read text).toOption
  | _ => none

def textOf? : JsonDocument → Option (Option String)
  | .null => some none
  | .string (some text) => some (some text)
  | _ => none

/-- Any value; null counts as absent. -/
def valueOf? : JsonDocument → Option (Option Json)
  | .null => some none
  | document => document.value?.map some

mutual

/-- Reads a rule from an object or an array. -/
def ofDocument? : JsonDocument → Option Rule
  | .object members => ofMembers? .empty members
  | .array items => ofItems? .empty Member.all items
  | _ => none

/-- Reads members by name. Unknown members are ignored, repeated ones refused. -/
def ofMembers? (draft : Draft) : List (Option String × JsonDocument) → Option Rule
  | [] => some draft.toRule
  | (name, document) :: rest => do
      let name ← name
      match Member.ofName? name with
      | none => ofMembers? draft rest
      | some member =>
          guard (!draft.has member)
          ofMembers? (← addMember? draft member document) rest

/-- Reads members by their place. The last ones may be missing. -/
def ofItems? (draft : Draft) : List Member → List JsonDocument → Option Rule
  | _, [] => some draft.toRule
  | [], _ :: _ => none
  | member :: members, document :: rest => do
      ofItems? (← addMember? draft member document) members rest

def addMember? (draft : Draft) (member : Member) (document : JsonDocument) :
    Option Draft :=
  match member with
  | .condition => (conditionOf? document).map fun condition =>
      { draft with condition := some condition }
  | .field => (textOf? document).map fun field => { draft with field := some field }
  | .type => (textOf? document).map fun typeTag => { draft with typeTag := some typeTag }
  | .operator => (textOf? document).map fun operator =>
      { draft with operator := some operator }
  | .value => (valueOf? document).map fun value => { draft with value := some value }
  | .rules =>
      match document with
      | .array items => (rulesOf? items).map fun rules => { draft with rules := some rules }
      | _ => none

def rulesOf? : List JsonDocument → Option (List Rule)
  | [] => some []
  | document :: rest => do
      let rule ← ofDocument? document
      let rules ← rulesOf? rest
      return rule :: rules

end

def ofJson? (json : Json) : Option Rule :=
  ofDocument? (.ofValue json)

mutual

/-- How deep the parts of a document that a rule keeps are nested. -/
def keptNesting : JsonDocument → Nat
  | .object members => keptMemberNesting members + 1
  | .array items => keptItemNesting Member.all items + 1
  | _ => 0

def keptMemberNesting : List (Option String × JsonDocument) → Nat
  | [] => 0
  | (name, document) :: rest =>
      let nesting :=
        match name.bind Member.ofName? with
        | none => 0
        | some member => memberNesting member document
      max nesting (keptMemberNesting rest)

def keptItemNesting : List Member → List JsonDocument → Nat
  | _, [] => 0
  | [], _ :: _ => 0
  | member :: members, document :: rest =>
      max (memberNesting member document) (keptItemNesting members rest)

def memberNesting (member : Member) (document : JsonDocument) : Nat :=
  match member, document with
  | .rules, .array items => ruleNesting items + 1
  | _, document => document.nesting

def ruleNesting : List JsonDocument → Nat
  | [] => 0
  | document :: rest => max (keptNesting document) (ruleNesting rest)

end

/-- Reads a rule from JSON text. Members that a rule does not have need only be well
formed. -/
def read? (text : String) : Option Rule := do
  let document ← JsonDocument.read text.toList
  guard (keptNesting document ≤ JsonDocument.deepest)
  ofDocument? document

/-! ## Writing -/

def textMember (member : Member) : Option String → List (String × Json)
  | none => []
  | some text => [(member.name, .string text)]

def valueMember : Option Json → List (String × Json)
  | none => []
  | some value => [(Member.value.name, value)]

def ownMembers (rule : Rule) : List (String × Json) :=
  [(Member.condition.name, .string rule.condition.name)] ++
    textMember .field rule.field ++ textMember .type rule.typeTag ++
    textMember .operator rule.operator ++ valueMember rule.value

mutual

/-- The JSON form of a rule, with its members in the order in which they are written. -/
def toJson : Rule → Json
  | ⟨condition, field, typeTag, operator, value, rules⟩ =>
      let own := ownMembers ⟨condition, field, typeTag, operator, value, []⟩
      .object (own ++ rulesMember rules)

def rulesMember : List Rule → List (String × Json)
  | [] => []
  | rule :: rest => [(Member.rules.name, .array (toJson rule :: toJsonList rest))]

def toJsonList : List Rule → List Json
  | [] => []
  | rule :: rest => toJson rule :: toJsonList rest

end

def write (rule : Rule) : String :=
  rule.toJson.write

end RecordFilter.Rule
