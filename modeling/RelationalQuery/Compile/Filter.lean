import RelationalQuery.Compile.Operator
import RelationalQuery.Spec.ReadFilter
import RelationalQuery.Text.Split

/-! Filters as steps.

A node's direct condition joins with `and` at its own level. Its lists and its wildcard open one
group each, joined with `and`. In a group of which some must hold, the first member's condition
joins with `and` and that of every later one with `or`; a member's own lists open groups after
its condition. -/
namespace RelationalQuery

open Json (Value)

/-! ### Wildcards

A path becomes a chain of constraints on related rows that ends in one test per named field. -/

def pathSegments (path : String) : List String × List String :=
  let pieces := Text.split ':' path
  (pieces.dropLast, Text.split ',' (pieces.getLast?.getD ""))

def chain (value : String) (fields : List String) : List String → List Filter
  | [] => fields.map fun field => .condition field "like" (.str value)
  | relation :: rest => [.relation relation "where_has" (.anyOf (chain value fields rest))]

def Wildcard.members (w : Wildcard) : List Filter :=
  w.fields.flatMap fun path =>
    let (relations, fields) := pathSegments path
    chain w.value fields relations

/-! ### Filters -/

/-- What the parts of a filter that are not filters yet stand for: a wildcard, and a plain value
where a constraint on related rows is needed. -/
structure Expansion where
  wildcard : Wildcard → List Step
  constraint : Value → Except SpecFault (List Step)

def whereHasStep (join : Join) (relation : String) (existence : Existence)
    (body : Except SpecFault (List Step)) : Step :=
  match body with
  | .error fault => .fail (.malformed fault)
  | .ok body =>
    let types := match existence, join with
      | .absent, .and => .fixed .declared
      | _, _ => .inferred
    .whereHas join relation types existence body

def conditionStep (join : Join) (field operator subOperator : String) (value : Value)
    (body : Except SpecFault (List Step)) : Step :=
  match Operator.ofToken operator with
  | .between negated => .filter join (.between field (valueList value) negated)
  | .oneOf negated => .filter join (.oneOf field (valueList value) negated)
  | .isNull negated => .filter join (.isNull field negated)
  | .datePart part => .filter join (.datePart field part value)
  | .like => .filter join (.compare field "like" (likePattern value))
  | .has existence => .has join field .inferred existence (Text.lower subOperator) value
  | .whereHas existence => whereHasStep join field existence body
  | .compare token => .filter join (.compare field token value)

def groupUnless (isEmpty : Bool) (body : List Step) : List Step :=
  if isEmpty then [] else [.group .and body]

def plainConstraint (x : Expansion) (operator field : String) :
    Value → Except SpecFault (List Step)
  | .null => .ok []
  | .obj fields => x.constraint (.obj fields)
  | got => .error (.lateConstraintShape operator field got)

namespace Filter
variable (x : Expansion)

mutual

def stepsWith : Filter → List Step
  | ⟨field, operand, operator, subOperator, all, any, wildcard⟩ =>
    conditionWith .and field operand operator subOperator ++
    (groupUnless all.isEmpty (allWith all) ++ groupUnless any.isEmpty (anyWith .and any)) ++
    match wildcard with
    | some w => groupUnless w.fields.isEmpty (x.wildcard w)
    | none => []

def memberWith (join : Join) : Filter → List Step
  | ⟨field, operand, operator, subOperator, all, any, _⟩ =>
    conditionWith join field operand operator subOperator ++
    (groupUnless all.isEmpty (allWith all) ++ groupUnless any.isEmpty (anyWith .and any))

def allWith : List Filter → List Step
  | [] => []
  | f :: rest => memberWith .and f ++ allWith rest

def anyWith (join : Join) : List Filter → List Step
  | [] => []
  | f :: rest => memberWith join f ++ anyWith .or rest

def conditionWith (join : Join) (field : Option String) (operand : Operand Filter)
    (operator subOperator : String) : List Step :=
  match field.filter (· ≠ "") with
  | none => []
  | some name =>
    [conditionStep join name operator subOperator operand.value (match operand with
      | .plain v => plainConstraint x operator name v
      | .constraint c => .ok (stepsWith c))]

end

def Expansion.bare : Expansion := ⟨fun _ => [], fun _ => .ok []⟩

def wildcardSteps (w : Wildcard) : List Step := anyWith Expansion.bare .and w.members

end Filter

namespace Filter

/-- Reads a value as a constraint and compiles it. Values within it that are read in turn lie
deeper in the same value, so its depth bounds the recursion. -/
def constraintSteps : Nat → Value → Except SpecFault (List Step)
  | 0, _ => .error .notJson
  | depth + 1, v =>
    (Filter.ofValue v).map (stepsWith ⟨wildcardSteps, constraintSteps depth⟩)

def expansion : Expansion := ⟨wildcardSteps, fun v => constraintSteps v.depth v⟩

def steps (f : Filter) : List Step := stepsWith expansion f

def conditionSteps (f : Filter) (join : Join) : List Step :=
  conditionWith expansion join f.field f.operand f.operator f.subOperator

end Filter
end RelationalQuery
