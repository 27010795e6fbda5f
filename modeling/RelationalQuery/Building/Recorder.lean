import RelationalQuery.Building.Builder
import RelationalQuery.Json.Printer

/-! A builder that only notes the calls it receives. A rule on the calls noted so far decides
which call is refused; a refused call is not noted. -/
namespace RelationalQuery

open Json (Value)

/-- A call, or one half of a call that has others inside. -/
inductive Call where
  | select (columns : List String)
  | orderBy (field : String) (direction : Direction)
  | filter (join : Join) (predicate : Predicate)
  | openGroup (join : Join)
  | closeGroup
  | has (join : Join) (relation : String) (types : RelatedTypes) (existence : Existence)
      (operator : String) (count : Value)
  | openRelated (join : Join) (relation : String) (types : RelatedTypes) (existence : Existence)
  | closeRelated
  | load (relations : List String)
  | countRelated (relations : List String)
  | scope (name : String) (args : List Value)

abbrev Rule := List Call → Call → Option QueryError

structure Recorder where
  entity : Entity
  polymorphic : List String := []
  calls : List Call := []
  loads : List Load := []

namespace Recorder

def note (call : Call) (r : Recorder) : Recorder := { r with calls := r.calls ++ [call] }

def record (rule : Rule) (call : Call) : Building Recorder Unit := fun r =>
  match rule r.calls call with
  | some error => .error error r
  | none => .ok () (r.note call)

def register (loads : List Load) : Building Recorder Unit :=
  modify fun r => { r with loads := r.loads ++ loads }

def builder (rule : Rule) : Builder Recorder where
  entity := entity
  isPolymorphic r relation := relation ∈ r.polymorphic
  select columns := record rule (.select columns)
  orderBy field direction := record rule (.orderBy field direction)
  filter join predicate := record rule (.filter join predicate)
  group join body := do
    record rule (.openGroup join)
    body
    modify (note .closeGroup)
  has join relation types existence operator count :=
    record rule (.has join relation types existence operator count)
  whereHas join relation types existence body := do
    record rule (.openRelated join relation types existence)
    body
    modify (note .closeRelated)
  load loads := do
    record rule (.load (loads.map (·.relation)))
    register loads
  countRelated loads := do
    record rule (.countRelated (loads.map (·.1.relation)))
    register (loads.map (·.1))
  callScope name args := record rule (.scope name args)

def permissive : Rule := fun _ _ => none

def knownScopes (entity : String) (scopes : List String) : Rule
  | _, .scope name _ => if name ∈ scopes then none else some (.unknownScope name entity)
  | _, _ => none

end Recorder

/-! ### One line per call -/

def Join.word : Join → String
  | .and => "and"
  | .or => "or"

def Direction.word : Direction → String
  | .asc => "asc"
  | .desc => "desc"

def DatePart.word : DatePart → String
  | .date => "date"
  | .day => "day"
  | .month => "month"
  | .year => "year"
  | .time => "time"

def RelatedTypes.word : RelatedTypes → String
  | .declared => "declared"
  | .any => "any"

def Existence.word : Existence → String
  | .present => "present"
  | .absent => "absent"

def notWord (negated : Bool) : String := if negated then "not " else ""

def Predicate.line : Predicate → String
  | .compare field operator value => field ++ " " ++ operator ++ " " ++ value.text
  | .between field values negated =>
    field ++ " " ++ notWord negated ++ "between " ++ (Value.arr values).text
  | .oneOf field values negated =>
    field ++ " " ++ notWord negated ++ "in " ++ (Value.arr values).text
  | .isNull field negated => field ++ " is " ++ notWord negated ++ "null"
  | .datePart field part value => part.word ++ "(" ++ field ++ ") = " ++ value.text

def relatedLine (relation : String) (types : RelatedTypes) (existence : Existence) : String :=
  relation ++ ", " ++ types.word ++ ", " ++ existence.word

def Call.line : Call → String
  | .select columns => "select " ++ ", ".intercalate columns
  | .orderBy field direction => "order " ++ field ++ " " ++ direction.word
  | .filter join predicate => join.word ++ " " ++ predicate.line
  | .openGroup join => join.word ++ " ("
  | .closeGroup => ")"
  | .has join relation types existence operator count =>
    join.word ++ " has(" ++ relatedLine relation types existence ++ ", " ++ operator ++ " " ++
      count.text ++ ")"
  | .openRelated join relation types existence =>
    join.word ++ " where_has(" ++ relatedLine relation types existence ++ ") \x7b"
  | .closeRelated => "\x7d"
  | .load relations => "with " ++ ", ".intercalate relations
  | .countRelated relations => "with_count " ++ ", ".intercalate relations
  | .scope name args => "scope " ++ name ++ (Value.arr args).text

end RelationalQuery
