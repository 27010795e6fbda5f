import RelationalQuery.Building.Step
import RelationalQuery.Json.Printer
import RelationalQuery.Text.Case
import RelationalQuery.Text.Characters
import RelationalQuery.Text.Split

/-! Operator tokens of conditions, and what values mean to them. -/
namespace RelationalQuery

open Json (Value)

inductive Operator where
  | between (negated : Bool)
  | oneOf (negated : Bool)
  | isNull (negated : Bool)
  | datePart (part : DatePart)
  | like
  | has (existence : Existence)
  | whereHas (existence : Existence)
  | compare (token : String)
deriving DecidableEq

def Operator.named : List (String × Operator) :=
  [("between", .between false), ("not_between", .between true),
   ("in", .oneOf false), ("not_in", .oneOf true),
   ("null", .isNull false), ("not_null", .isNull true),
   ("date", .datePart .date), ("day", .datePart .day), ("month", .datePart .month),
   ("year", .datePart .year), ("time", .datePart .time),
   ("like", .like),
   ("has", .has .present), ("not_has", .has .absent),
   ("where_has", .whereHas .present), ("where_not_has", .whereHas .absent),
   ("", .compare "=")]

def Operator.ofToken (token : String) : Operator :=
  let token := Text.lower (Text.trim token)
  (Json.Fields.get? named token).getD (.compare token)

/-- Every token but `desc`, in whatever case its letters are, sorts upwards. -/
def Direction.ofToken (token : String) : Direction :=
  if Text.sameLetters token "desc" then .desc else .asc

def isNoList : Value → Bool
  | .null => true
  | .bool b => !b
  | .str s => s == "" || s == "0"
  | .num n => n.isZero
  | _ => false

/-- A value as a list: items of an array, values of an object, else its text cut at commas. -/
def valueList : Value → List Value
  | .arr items => items
  | .obj fields => fields.map Prod.snd
  | v => if isNoList v then [] else (Text.split ',' v.plainText).map .str

def likePattern (v : Value) : Value := .str ("%" ++ v.plainText ++ "%")

end RelationalQuery
