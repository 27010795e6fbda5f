import RelationalQuery.Error
import RelationalQuery.Json.Printer
import RelationalQuery.Sql.Fragment
import RelationalQuery.Sql.Placeholder

/-! Values as literals, and query text with literals in place of its placeholders. -/
namespace RelationalQuery.Sql

open Json (Value)

def quoteLiteral (s : String) : String :=
  String.ofList ('\'' :: doubled '\'' s.toList ++ ['\''])

def literal : Value → String
  | .null => "NULL"
  | v => quoteLiteral v.plainText

namespace Fragment

def literal (v : Value) : Fragment := ⟨Sql.literal v, []⟩

end Fragment

/-- Puts literals in place of placeholders, in order; there must be as many of one as of the
other. -/
def inlineSegments : List Segment → List Value → Except QueryError String
  | [], [] => .ok ""
  | [], _ :: _ => .error .bindingsLeft
  | .text cs :: rest, values => do return String.ofList cs ++ (← inlineSegments rest values)
  | .placeholder :: _, [] => .error .bindingsMissing
  | .placeholder :: rest, v :: values => do return literal v ++ (← inlineSegments rest values)

def Fragment.inline (f : Fragment) : Except QueryError String :=
  inlineSegments (splitPlaceholders f.sql) f.bindings

end RelationalQuery.Sql
