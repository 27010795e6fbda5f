import RelationalQuery.Spec.ReadFilter

/-! Order items, scopes and counted relations read from documents. -/
namespace RelationalQuery

open Json (Value Document)

inductive OrderPart where
  | field (name : String)
  | direction (token : Option String)

def orderShape : Shape :=
  { name := "struct OrderItem"
    slots := ["field", "direction"]
    aliases := [("order", "direction")] }

def orderMember (slot : String) (d : Document) : Member OrderPart :=
  { slot, part := if slot = "field" then .field <$> readText d else .direction <$> readText? d }

def OrderPart.field? : OrderPart → Option String
  | .field name => some name
  | _ => none

def OrderPart.direction? : OrderPart → Option String
  | .direction token => token
  | _ => none

def readOrderItem (reading : Reading) (d : Document) : Except SpecFault OrderItem := do
  let parts ← readParts reading orderShape orderMember d
  match parts.findSome? OrderPart.field? with
  | none => throw (.lacking orderShape "field" d)
  | some field => return { field, direction := (parts.findSome? OrderPart.direction?).getD "" }

def readScopeArgs : Document → Except SpecFault ScopeArgs
  | .null => .ok .none
  | .arr items => .list <$> items.mapM readValue
  | .str text => .ok (.csv text)
  | .num n => .ok (.number n)
  | _ => .error .scopeShape

/-- An object of scopes and arguments, or a list of entries. A scope declared twice keeps its
first place and its last arguments. -/
def readScopes : Document → Except SpecFault ScopeDecl
  | .obj members => do
    let scopes ← members.mapM fun (name, d) => do return (name, ← readScopeArgs d)
    return .named (Json.Fields.collapse scopes)
  | .carrier text _ => .ok (.named [(Json.carrierKey, .csv text)])
  | .arr items =>
    match items.mapM readText with
    | .ok entries => .ok (.listed entries)
    | .error _ => .error .scopeShape
  | _ => .error .scopeShape

def readScopes? : Document → Except SpecFault ScopeDecl
  | .null => .ok default
  | d => readScopes d

inductive CountPart where
  | relation (name : String)
  | filter (f : Option Filter)
  | scopes (decl : ScopeDecl)

def countShape : Shape :=
  { name := "struct IncludeCountNode", slots := ["relation", "where", "scopes"] }

def countMember (reading : Reading) (slot : String) (d : Document) : Member CountPart :=
  { slot
    part :=
      if slot = "relation" then .relation <$> readText d
      else if slot = "where" then .filter <$> readFilter? reading d
      else .scopes <$> readScopes? d }

def CountPart.relation? : CountPart → Option String
  | .relation name => some name
  | _ => none

def CountPart.filter? : CountPart → Option Filter
  | .filter f => f
  | _ => none

def CountPart.scopes? : CountPart → Option ScopeDecl
  | .scopes decl => some decl
  | _ => none

def readCount (reading : Reading) (d : Document) : Except SpecFault CountInclude := do
  let parts ← readParts reading countShape (countMember reading) d
  match parts.findSome? CountPart.relation? with
  | none => throw (.lacking countShape "relation" d)
  | some relation =>
    return {
      relation
      filter := parts.findSome? CountPart.filter?
      scopes := (parts.findSome? CountPart.scopes?).getD default }

def ScopeDecl.ofValue (v : Value) : Except SpecFault ScopeDecl := readScopes v.document

def CountInclude.ofValue (v : Value) : Except SpecFault CountInclude := readCount .tree v.document

end RelationalQuery
