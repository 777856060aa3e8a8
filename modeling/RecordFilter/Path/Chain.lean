import RecordFilter.Record.FieldType
import RecordFilter.Text.Quoted

/-!
# Accessor chains

A chain leads from a record to a field. It is resolved once, from the path of a rule and the
shape of the record, and followed for every record.
-/

namespace RecordFilter

/-- One hop of a chain. -/
inductive Step where
  /-- A declared member of a record. -/
  | member (name : String)
  /-- An entry of a map with text keys. -/
  | key (key : String)
  /-- An entry of a record's indexer. -/
  | index (key : String)
  /-- Every item of a list. -/
  | each
  /-- A member or entry of an untyped value. -/
  | dynamic (name : String)
deriving DecidableEq

namespace Step

def kind : Step → String
  | member _ => "member"
  | key _ => "key"
  | index _ => "index"
  | each => "each"
  | dynamic _ => "dynamic"

def text : Step → String
  | member name => name
  | key entry => "[" ++ Text.Quoted.encode entry ++ "]"
  | index entry => "Item[" ++ Text.Quoted.encode entry ++ "]"
  | each => "[*]"
  | dynamic name => "?" ++ name

end Step

/-- How a test has to hold over the items of a list. -/
inductive Quantifier where
  | any
  | all
deriving DecidableEq

namespace Quantifier

def ofNone (quantifier : Quantifier) : Bool :=
  quantifier = all

/-- Whether the answer for one item decides for all of them. -/
def isSettledBy (quantifier : Quantifier) (passed : Bool) : Bool :=
  passed ≠ quantifier.ofNone

end Quantifier

/-- The way from a record to a field. -/
structure Chain where
  path : String
  steps : List Step
  /-- The type of the values at the end. -/
  target : FieldType
  /-- A null on the way is no match, otherwise an error. -/
  nullGuard : Bool
deriving DecidableEq

namespace Chain

def hasEach (chain : Chain) : Bool :=
  chain.steps.contains .each

/-- The chain to the items of the list at its end; other chains stay as they are. -/
def throughElements (chain : Chain) : Chain :=
  match chain.target.nonNull with
  | .list element => { chain with steps := chain.steps ++ [.each], target := element }
  | _ => chain

/-- The chain to the innermost items of the lists at its end. -/
def throughLists (chain : Chain) : Chain :=
  let (depth, element) := chain.target.openLists
  { chain with steps := chain.steps ++ List.replicate depth .each, target := element }

end Chain

end RecordFilter
