import RelationalQuery.Spec.Fault

/-! Structures given by their members. A structure comes as an object, its members under known
keys in any order, or as a list, its members by position. Each known key has a slot; some slots
have a second spelling. -/
namespace RelationalQuery

open Json (Document)

/-- How a document is read: as it was written, as the document of a value, or as part of an
included relation. -/
inductive Reading where
  | text
  | tree
  | buffered
deriving DecidableEq

def Reading.surplus : Reading → (given limit : Nat) → Surplus
  | .text, _, _ => .trailing
  | .tree, given, _ => .fewer given
  | .buffered, given, limit => .exactly given limit

structure Shape where
  name : String
  slots : List String
  aliases : List (String × String) := []

def Shape.slot? (shape : Shape) (key : String) : Option String :=
  if key ∈ shape.slots then some key else Json.Fields.get? shape.aliases key

structure Member (α : Type) where
  slot : String
  part : Except SpecFault α

/-- The parts of a structure, in order, when the slots of `filled` are taken. The first fault met
wins, and a slot filled twice is one. -/
def gather {α : Type} (filled : List String) : List (Member α) → Except SpecFault (List α)
  | [] => .ok []
  | m :: rest =>
    if m.slot ∈ filled then .error (.duplicateField m.slot)
    else do
      let part ← m.part
      let parts ← gather (m.slot :: filled) rest
      return part :: parts

/-- Members by position; more of them than slots are a fault once all slots are read. -/
def gatherListed {α : Type} (reading : Reading) (shape : Shape) (given : Nat)
    (members : List (Member α)) : Except SpecFault (List α) := do
  let parts ← gather [] members
  if shape.slots.length < given then
    throw (.surplus (reading.surplus given shape.slots.length))
  return parts

def Shape.keyed {α : Type} (shape : Shape) (member : String → Document → Member α)
    (members : List (String × Document)) : List (Member α) :=
  members.filterMap fun (key, d) => (shape.slot? key).map fun slot => member slot d

def Shape.listed {α : Type} (shape : Shape) (member : String → Document → Member α)
    (items : List Document) : List (Member α) :=
  (shape.slots.zip items).map fun (slot, d) => member slot d

def readParts {α : Type} (reading : Reading) (shape : Shape)
    (member : String → Document → Member α) : Document → Except SpecFault (List α)
  | .obj members => gather [] (shape.keyed member members)
  | .carrier .. => .ok []
  | .arr items => gatherListed reading shape items.length (shape.listed member items)
  | d => .error (.ofDocument shape.name d)

def SpecFault.lacking (shape : Shape) (slot : String) : Document → SpecFault
  | .arr _ => .missingFirst s!"{shape.name} with {shape.slots.length} elements"
  | _ => .missingField slot

def readList {α : Type} (item : Document → Except SpecFault α) :
    Document → Except SpecFault (List α)
  | .null => .ok []
  | .arr items => items.mapM item
  | d => .error (.ofDocument "a sequence" d)

def readText : Document → Except SpecFault String
  | .str s => .ok s
  | d => .error (.ofDocument "a string" d)

def readText? : Document → Except SpecFault (Option String)
  | .null => .ok none
  | d => some <$> readText d

def readTexts : Document → Except SpecFault (List String)
  | .null => .ok []
  | .arr items => items.mapM readText
  | d => .error (.ofDocument "a sequence" d)

def readValue : Document → Except SpecFault Json.Value
  | d => match d.value? with
    | some v => .ok v
    | none => .error .notJson

end RelationalQuery
