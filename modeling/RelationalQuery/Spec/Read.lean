import RelationalQuery.Json.Reader
import RelationalQuery.Spec.ReadItems
import RelationalQuery.Text.Characters

/-! Whole specifications, read from a text or from a value. -/
namespace RelationalQuery

open Json (Value Document)

inductive SpecPart where
  | select (fields : List String)
  | filter (f : Option Filter)
  | order (items : List OrderItem)
  | includes (nodes : List Include)
  | counts (nodes : List CountInclude)
  | scopes (decl : ScopeDecl)

def specShape : Shape :=
  { name := "struct QuerySpec"
    slots := ["select", "where", "order", "include", "include_count", "scopes"]
    aliases := [("includeCount", "include_count")] }

def Spec.add (s : Spec) : SpecPart → Spec
  | .select fields => { s with select := fields }
  | .filter f => { s with filter := f }
  | .order items => { s with order := items }
  | .includes nodes => { s with includes := nodes }
  | .counts nodes => { s with counts := nodes }
  | .scopes decl => { s with scopes := decl }

def specMember (reading : Reading) (slot : String) (d : Document)
    (asIncludes : Unit → Except SpecFault (List Include)) : Member SpecPart where
  slot
  part :=
    if slot = "select" then .select <$> readTexts d
    else if slot = "where" then .filter <$> readFilter? reading d
    else if slot = "order" then .order <$> readList (readOrderItem reading) d
    else if slot = "include" then .includes <$> asIncludes ()
    else if slot = "include_count" then .counts <$> readList (readCount reading) d
    else .scopes <$> readScopes? d

def SpecPart.build (parts : List SpecPart) : Spec := parts.foldl Spec.add {}

def includeShape : Shape := { name := "struct IncludeNode", slots := ["relation"] }

def includeMember (slot : String) (d : Document) : Member String := { slot, part := readText d }

def readRelation (members : List (String × Document)) : Except SpecFault String := do
  let names ← gather [] (includeShape.keyed includeMember members)
  match names with
  | [] => throw (.missingField "relation")
  | name :: _ => return name

mutual

def readSpec (reading : Reading) : Document → Except SpecFault Spec
  | .obj members => do
    return SpecPart.build (← gather [] (specKeyed reading members))
  | .carrier .. => .ok {}
  | .arr items => do
    return SpecPart.build (← gatherListed reading specShape items.length
      (specListed reading specShape.slots items))
  | d => .error (.ofDocument specShape.name d)

/-- A node of an include list: the relation first, then its level from the other members. All of
its members are kept for that, so all must be readable. -/
def readInclude : Document → Except SpecFault Include
  | .obj members => do
    if !Document.membersReadable members then throw .notJson
    let relation ← readRelation members
    let parts ← gather [] (specKeyed .buffered members)
    return { relation, spec := SpecPart.build parts }
  | .carrier .. => .error (.missingField "relation")
  | d => .error (.ofDocument includeShape.name d)

def readIncludes : List Document → Except SpecFault (List Include)
  | [] => .ok []
  | d :: rest => do
    let node ← readInclude d
    let nodes ← readIncludes rest
    return node :: nodes

def specKeyed (reading : Reading) : List (String × Document) → List (Member SpecPart)
  | [] => []
  | (key, d) :: rest =>
    match specShape.slot? key with
    | none => specKeyed reading rest
    | some slot =>
      specMember reading slot d (fun _ => match d with
        | .null => .ok []
        | .arr items => readIncludes items
        | _ => .error (.ofDocument "a sequence" d)) :: specKeyed reading rest

def specListed (reading : Reading) : List String → List Document → List (Member SpecPart)
  | _, [] => []
  | [], _ => []
  | slot :: slots, d :: rest =>
    specMember reading slot d (fun _ => match d with
      | .null => .ok []
      | .arr items => readIncludes items
      | _ => .error (.ofDocument "a sequence" d)) :: specListed reading slots rest

end

/-- Reads a text as it was written. A blank text asks for nothing; a text without a value is
refused as such, whichever fault would be met first. -/
def Spec.ofText (text : String) : Except SpecFault Spec :=
  if Text.isBlankText text then .ok {}
  else match Json.read text with
    | none => .error .notJson
    | some d => match readSpec .text d with
      | .ok s => .ok s
      | .error fault => .error (if d.value?.isNone then .notJson else fault)

def Spec.ofValue : Value → Except SpecFault Spec
  | .null => .ok {}
  | v => readSpec .tree v.document

def Include.ofValue (v : Value) : Except SpecFault Include := readInclude v.document

end RelationalQuery
