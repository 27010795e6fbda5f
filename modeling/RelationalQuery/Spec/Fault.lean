import RelationalQuery.Json.Document
import RelationalQuery.Json.Printer
import RelationalQuery.Text.Quoted

/-! What can be wrong with a query specification. -/
namespace RelationalQuery

open Json (Value Document)

inductive Found where
  | integer (n : Int)
  | floating (bits : UInt64)
  | boolean (b : Bool)
  | text (s : String)
  | null
  | sequence
  | map
deriving DecidableEq

def Found.message : Found → String
  | .integer n => s!"integer `{n}`"
  | .floating bits => "floating point `" ++ Decimal.text bits ++ "`"
  | .boolean b => "boolean `" ++ (if b then "true" else "false") ++ "`"
  | .text s => "string " ++ Text.quoted s
  | .null => "null"
  | .sequence => "sequence"
  | .map => "map"

inductive Surplus where
  | trailing
  | fewer (given : Nat)
  | exactly (given limit : Nat)
deriving DecidableEq

def Surplus.message : Surplus → String
  | .trailing => "trailing characters"
  | .fewer given => s!"invalid length {given}, expected fewer elements in array"
  | .exactly given limit => s!"invalid length {given}, expected {limit} elements in sequence"

inductive SpecFault where
  /-- The text has no JSON value. -/
  | notJson
  | wrongType (found : Found) (expected : String)
  | duplicateField (name : String)
  | missingField (name : String)
  /-- A list of positional members lacks the first, which is required. -/
  | missingFirst (expected : String)
  | surplus (s : Surplus)
  | scopeShape
  | wildcardShape
  /-- A relation operator needs a constraint, and the value is none. -/
  | constraintShape (operator : String) (field : Option String) (got : Value)
  | constraintFault (operator : String) (field : Option String) (fault : SpecFault)
  /-- The same for an operator recognised only when the condition is compiled. -/
  | lateConstraintShape (operator field : String) (got : Value)
  | boundsMissing (field : String)

def SpecFault.message : SpecFault → String
  | .notJson => "not a JSON document"
  | .wrongType found expected => "invalid type: " ++ found.message ++ ", expected " ++ expected
  | .duplicateField name => s!"duplicate field `{name}`"
  | .missingField name => s!"missing field `{name}`"
  | .missingFirst expected => "invalid length 0, expected " ++ expected
  | .surplus s => s.message
  | .scopeShape => "data did not match any variant of untagged enum ScopeDecl"
  | .wildcardShape => "wildcard value must be a string or number"
  | .constraintShape operator field got =>
    operator ++ " on " ++ Text.quoted? field ++ " expects an object constraint, got " ++ got.text
  | .constraintFault operator field fault =>
    "invalid " ++ operator ++ " constraint on " ++ Text.quoted? field ++ ": " ++ fault.message
  | .lateConstraintShape operator field got =>
    operator ++ " on '" ++ field ++ "' expects an object constraint, got " ++ got.text
  | .boundsMissing field => "between on '" ++ field ++ "' needs two values"

def SpecFault.ofDocument (expected : String) : Document → SpecFault
  | .null => .wrongType .null expected
  | .bool b => .wrongType (.boolean b) expected
  | .num (.int n) => .wrongType (.integer n) expected
  | .num (.float bits) => .wrongType (.floating bits) expected
  | .str s => .wrongType (.text s) expected
  | .arr _ => .wrongType .sequence expected
  | .obj _ => .wrongType .map expected
  | .carrier .. => .wrongType .map expected
  | .unreadable => .notJson

end RelationalQuery
