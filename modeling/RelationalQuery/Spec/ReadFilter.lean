import RelationalQuery.Spec.Basic
import RelationalQuery.Spec.Members
import RelationalQuery.Text.Case

/-! Filters and wildcards read from documents. -/
namespace RelationalQuery

open Json (Value Document)

inductive WildcardPart where
  | fields (names : List String)
  | value (text : String)

def wildcardShape : Shape := { name := "struct WildcardNode", slots := ["fields", "value"] }

def readScalarText (d : Document) : Except SpecFault String := do
  match ← readValue d with
  | .arr _ => throw .wildcardShape
  | .obj _ => throw .wildcardShape
  | v => return v.plainText

def wildcardMember (slot : String) (d : Document) : Member WildcardPart :=
  { slot, part := if slot = "fields" then .fields <$> readTexts d else .value <$> readScalarText d }

def Wildcard.add (w : Wildcard) : WildcardPart → Wildcard
  | .fields names => { w with fields := names }
  | .value text => { w with value := text }

def readWildcard (reading : Reading) (d : Document) : Except SpecFault Wildcard := do
  let parts ← readParts reading wildcardShape wildcardMember d
  return parts.foldl Wildcard.add {}

def readWildcard? (reading : Reading) : Document → Except SpecFault (Option Wildcard)
  | .null => .ok none
  | d => some <$> readWildcard reading d

inductive FilterPart where
  | field (name : Option String)
  | value (v : Value)
  | operator (token : Option String)
  | subOperator (token : Option String)
  | all (members : List Filter)
  | any (members : List Filter)
  | wildcard (w : Option Wildcard)

def filterShape : Shape :=
  { name := "struct RawWhereNode"
    slots := ["field", "value", "operator", "sub_operator", "and", "or", "wildcard"]
    aliases := [("subOperator", "sub_operator")] }

structure FilterDraft where
  field : Option String := none
  value : Value := .null
  operator : Option String := none
  subOperator : Option String := none
  all : List Filter := []
  any : List Filter := []
  wildcard : Option Wildcard := none

def FilterDraft.add (draft : FilterDraft) : FilterPart → FilterDraft
  | .field name => { draft with field := name }
  | .value v => { draft with value := v }
  | .operator token => { draft with operator := token }
  | .subOperator token => { draft with subOperator := token }
  | .all members => { draft with all := members }
  | .any members => { draft with any := members }
  | .wildcard w => { draft with wildcard := w }

def operatorOrEqual : Option String → String
  | none => "="
  | some token => if token = "" then "=" else token

/-- Operators whose value is a constraint already while it is read. -/
def takesConstraint (operator : String) : Bool :=
  let token := Text.lower operator
  token = "where_has" || token = "where_not_has"

section
variable (constraint : Value → Except SpecFault Filter)

def FilterDraft.operand (draft : FilterDraft) (operator : String) :
    Except SpecFault (Operand Filter) :=
  if takesConstraint operator then
    match draft.value with
    | .null => .ok (.constraint {})
    | .obj fields =>
      match constraint (.obj fields) with
      | .ok c => .ok (.constraint c)
      | .error fault => .error (.constraintFault operator draft.field fault)
    | got => .error (.constraintShape operator draft.field got)
  else .ok (.plain draft.value)

def FilterDraft.finish (draft : FilterDraft) : Except SpecFault Filter := do
  let operator := operatorOrEqual draft.operator
  let operand ← draft.operand constraint operator
  return {
    field := draft.field
    operand
    operator
    subOperator := operatorOrEqual draft.subOperator
    all := draft.all
    any := draft.any
    wildcard := draft.wildcard }

def FilterPart.build (parts : List FilterPart) : Except SpecFault Filter :=
  (parts.foldl FilterDraft.add {}).finish constraint

/-- The member of a filter in one slot. The reading of its document as a list of filters is only
asked for in the slots that need it. -/
def filterMember (reading : Reading) (slot : String) (d : Document)
    (asFilters : Unit → Except SpecFault (List Filter)) : Member FilterPart where
  slot
  part :=
    if slot = "field" then .field <$> readText? d
    else if slot = "value" then .value <$> readValue d
    else if slot = "operator" then .operator <$> readText? d
    else if slot = "sub_operator" then .subOperator <$> readText? d
    else if slot = "and" then .all <$> asFilters ()
    else if slot = "or" then .any <$> asFilters ()
    else .wildcard <$> readWildcard? reading d

mutual

def readFilterWith (reading : Reading) : Document → Except SpecFault Filter
  | .obj members => do
    FilterPart.build constraint (← gather [] (filterKeyed reading members))
  | .carrier .. => FilterPart.build constraint []
  | .arr items => do
    FilterPart.build constraint (← gatherListed reading filterShape items.length
      (filterListed reading filterShape.slots items))
  | d => .error (.ofDocument filterShape.name d)

def readFilters (reading : Reading) : List Document → Except SpecFault (List Filter)
  | [] => .ok []
  | d :: rest => do
    let f ← readFilterWith reading d
    let fs ← readFilters reading rest
    return f :: fs

def filterKeyed (reading : Reading) : List (String × Document) → List (Member FilterPart)
  | [] => []
  | (key, d) :: rest =>
    match filterShape.slot? key with
    | none => filterKeyed reading rest
    | some slot =>
      filterMember reading slot d (fun _ => match d with
        | .null => .ok []
        | .arr items => readFilters reading items
        | _ => .error (.ofDocument "a sequence" d)) :: filterKeyed reading rest

def filterListed (reading : Reading) : List String → List Document → List (Member FilterPart)
  | _, [] => []
  | [], _ => []
  | slot :: slots, d :: rest =>
    filterMember reading slot d (fun _ => match d with
      | .null => .ok []
      | .arr items => readFilters reading items
      | _ => .error (.ofDocument "a sequence" d)) :: filterListed reading slots rest

end

end

/-- Reads a value as a filter. Constraints within it lie deeper in the same value, so its depth
bounds the recursion. -/
def readConstraint : Nat → Value → Except SpecFault Filter
  | 0, _ => .error .notJson
  | depth + 1, v => readFilterWith (readConstraint depth) .tree v.document

def readFilter (reading : Reading) (d : Document) : Except SpecFault Filter :=
  readFilterWith (fun v => readConstraint v.depth v) reading d

def readFilter? (reading : Reading) : Document → Except SpecFault (Option Filter)
  | .null => .ok none
  | d => some <$> readFilter reading d

def Filter.ofValue (v : Value) : Except SpecFault Filter := readFilter .tree v.document

def Wildcard.ofValue (v : Value) : Except SpecFault Wildcard := readWildcard .tree v.document

end RelationalQuery
