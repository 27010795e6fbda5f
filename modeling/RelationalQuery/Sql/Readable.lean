import RelationalQuery.Decimal.Reading
import RelationalQuery.Json.Printer
import RelationalQuery.Sql.Placeholder
import RelationalQuery.Text.Characters

/-! Query text for people: values stand in place of their placeholders, unescaped. -/
namespace RelationalQuery.Sql

open Json (Value)

/-- Numbers and numeric strings are bare; everything else stands between single quotes, where
null and false are nothing and true is one. -/
def readableValue : Value → String
  | .num n => n.text
  | .str s => if Decimal.isNumeric (Text.trimChars s.toList) then s else "'" ++ s ++ "'"
  | .null => "''"
  | .bool true => "'1'"
  | .bool false => "''"
  | v => "'" ++ v.text ++ "'"

def readableSegments : List Segment → List Value → String
  | [], _ => ""
  | .text cs :: rest, values => String.ofList cs ++ readableSegments rest values
  | .placeholder :: rest, [] => "?" ++ readableSegments rest []
  | .placeholder :: rest, v :: values => readableValue v ++ readableSegments rest values

def readable (sql : String) (bindings : List Value) : String :=
  readableSegments (splitPlaceholders sql) bindings

end RelationalQuery.Sql
