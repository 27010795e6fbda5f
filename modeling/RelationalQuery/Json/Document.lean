import RelationalQuery.Json.Value

/-! A JSON text as it was written: repeated keys are kept, and what follows the grammar but
denotes no value is marked. Such a part does no harm where nobody reads it. -/
namespace RelationalQuery.Json

/-- An object whose first key is this one carries another JSON text under it. -/
def carrierKey : String := "$serde_json::private::RawValue"

def opensWithCarrier {α : Type} : List (String × α) → Bool
  | (key, _) :: _ => key == carrierKey
  | [] => false

inductive Document where
  | null
  | bool (b : Bool)
  | num (n : Number)
  | str (s : String)
  | arr (items : List Document)
  | obj (members : List (String × Document))
  /-- An object that carries a text and nothing else. Where a value is wanted, the document of that
  text stands for it; as a structure it has one member, the text. -/
  | carrier (text : String) (content : Document)
  /-- A number out of range, an unpaired surrogate, or brackets nested too deep. -/
  | unreadable
deriving Inhabited

mutual

/-- The value a document denotes, each repeated key collapsed; nothing if a part is unreadable, or
is an object that should carry a text and does not carry it alone. -/
def Document.value? : Document → Option Value
  | .null => some .null
  | .bool b => some (.bool b)
  | .num n => some (.num n)
  | .str s => some (.str s)
  | .arr items => (items? items).map .arr
  | .obj members =>
    if opensWithCarrier members then none
    else (members? members).map fun pairs => .obj (Fields.collapse pairs)
  | .carrier _ content => content.value?
  | .unreadable => none

def Document.items? : List Document → Option (List Value)
  | [] => some []
  | d :: rest => do
    let v ← d.value?
    let vs ← items? rest
    return v :: vs

def Document.members? : List (String × Document) → Option (List (String × Value))
  | [] => some []
  | (k, d) :: rest => do
    let v ← d.value?
    let pairs ← members? rest
    return (k, v) :: pairs

end

mutual

def Document.isReadable : Document → Bool
  | .arr items => itemsReadable items
  | .obj members => membersReadable members
  | .unreadable => false
  | _ => true

def Document.itemsReadable : List Document → Bool
  | [] => true
  | d :: rest => d.isReadable && itemsReadable rest

def Document.membersReadable : List (String × Document) → Bool
  | [] => true
  | (_, d) :: rest => d.isReadable && membersReadable rest

end

mutual

def Value.document : Value → Document
  | .null => .null
  | .bool b => .bool b
  | .num n => .num n
  | .str s => .str s
  | .arr items => .arr (itemDocuments items)
  | .obj fields => .obj (fieldDocuments fields)

def Value.itemDocuments : List Value → List Document
  | [] => []
  | v :: rest => v.document :: itemDocuments rest

def Value.fieldDocuments : List (String × Value) → List (String × Document)
  | [] => []
  | (k, v) :: rest => (k, v.document) :: fieldDocuments rest

end

end RelationalQuery.Json
