import RelationalQuery.Building.Step
import RelationalQuery.Sql.Fragment

/-! Conditions on the rows of a query, and the subqueries over related rows inside them. -/
namespace RelationalQuery

def Join.sql : Join → String
  | .and => "AND"
  | .or => "OR"

def DatePart.sql : DatePart → String × String
  | .date => ("", "::date")
  | .time => ("", "::time")
  | .day => ("extract(day from ", ")")
  | .month => ("extract(month from ", ")")
  | .year => ("extract(year from ", ")")

namespace Sql

open Json (Value)

inductive Projection where
  | rows
  | count
deriving DecidableEq

structure Source where
  table : String
  asName : Option String := none
deriving DecidableEq

def Source.name (s : Source) : String := s.asName.getD s.table

structure Link where
  inner : String
  innerColumn : String
  outer : String
  outerColumn : String
deriving DecidableEq

mutual

inductive Condition where
  | compare (field operator : String) (value : Value)
  | oneOf (field : String) (values : List Value) (negated : Bool)
  | between (field : String) (low high : Value) (negated : Bool)
  | isNull (field : String) (negated : Bool)
  | datePart (field : String) (part : DatePart) (value : Value)
  | exists (subquery : Subquery) (negated : Bool)
  | count (subquery : Subquery) (operator : String) (value : Value) (negated : Bool)
  | group (clauses : List Clause)

inductive Clause where
  | mk (join : Join) (condition : Condition)

inductive Subquery where
  /-- The rows of a source that a link ties to the row outside, and that fulfil the clauses. -/
  | related (projection : Projection) (source : Source) (link : Link) (clauses : List Clause)
  /-- A finished text. -/
  | verbatim (fragment : Fragment)

end

instance : Inhabited Condition := ⟨.group []⟩

instance : Inhabited Clause := ⟨⟨.and, default⟩⟩

namespace Clause

def and (c : Condition) : Clause := ⟨.and, c⟩
def or (c : Condition) : Clause := ⟨.or, c⟩

def join : Clause → Join
  | ⟨j, _⟩ => j

def condition : Clause → Condition
  | ⟨_, c⟩ => c

end Clause

/-! ### Names -/

def moveColumn (table name field : String) : String :=
  let cs := field.toList
  let start := table.toList ++ ['.']
  if start.isPrefixOf cs then qualified name (String.ofList (cs.drop start.length)) else field

mutual

/-- Points the columns of `table` at `name`. Subqueries have sources of their own and are left
alone. -/
def Condition.requalify (table name : String) : Condition → Condition
  | .compare field operator value => .compare (moveColumn table name field) operator value
  | .oneOf field values negated => .oneOf (moveColumn table name field) values negated
  | .between field low high negated => .between (moveColumn table name field) low high negated
  | .isNull field negated => .isNull (moveColumn table name field) negated
  | .datePart field part value => .datePart (moveColumn table name field) part value
  | .exists subquery negated => .exists subquery negated
  | .count subquery operator value negated => .count subquery operator value negated
  | .group clauses => .group (requalifyAll table name clauses)

def requalifyAll (table name : String) : List Clause → List Clause
  | [] => []
  | ⟨join, c⟩ :: rest => ⟨join, c.requalify table name⟩ :: requalifyAll table name rest

end

/-! ### Text -/

def Source.sql (s : Source) : String :=
  match s.asName with
  | none => quoteIdentifier s.table
  | some name => quoteIdentifier s.table ++ " AS " ++ quoteIdentifier name

def Link.sql (l : Link) : String :=
  quoteIdentifier (qualified l.inner l.innerColumn) ++ " = " ++
    quoteIdentifier (qualified l.outer l.outerColumn)

def Projection.sql : Projection → String
  | .rows => "*"
  | .count => "count(*)"

section
variable (hole : Value → Fragment)

mutual

/-- The text of a condition; `hole` is what stands where a value belongs. -/
def Condition.render : Condition → Fragment
  | .compare field operator value =>
    (quoteIdentifier field ++ " " ++ operator ++ " " : Fragment) ++ hole value
  | .oneOf field values negated =>
    if values.isEmpty then (if negated then "1 = 1" else "0 = 1")
    else
      (quoteIdentifier field ++ (if negated then " NOT IN (" else " IN (") : Fragment) ++
        Fragment.join ", " (values.map hole) ++ (")" : Fragment)
  | .between field low high negated =>
    (quoteIdentifier field ++ (if negated then " NOT BETWEEN " else " BETWEEN ") : Fragment) ++
      hole low ++ (" AND " : Fragment) ++ hole high
  | .isNull field negated =>
    quoteIdentifier field ++ (if negated then " IS NOT NULL" else " IS NULL")
  | .datePart field part value =>
    let (before, after) := part.sql
    (before ++ quoteIdentifier field ++ after ++ " = " : Fragment) ++ hole value
  | .exists subquery negated =>
    ((if negated then "NOT EXISTS (" else "EXISTS (") : Fragment) ++ subquery.render ++
      (")" : Fragment)
  | .count subquery operator value negated =>
    ((if negated then "NOT ((" else "(") : Fragment) ++ subquery.render ++
      (") " ++ operator ++ " " : Fragment) ++ hole value ++
      ((if negated then ")" else "") : Fragment)
  | .group clauses => ("(" : Fragment) ++ renderClauses clauses ++ (")" : Fragment)

/-- Clauses in order; the join of the first is dropped. -/
def renderClauses : List Clause → Fragment
  | [] => Fragment.empty
  | ⟨_, c⟩ :: rest => c.render ++ renderJoined rest

def renderJoined : List Clause → Fragment
  | [] => Fragment.empty
  | ⟨join, c⟩ :: rest =>
    (" " ++ join.sql ++ " " : Fragment) ++ c.render ++ renderJoined rest

def Subquery.render : Subquery → Fragment
  | .related projection source link clauses =>
    ("SELECT " ++ projection.sql ++ " FROM " ++ source.sql ++ " WHERE " ++ link.sql : Fragment) ++
      (if clauses.isEmpty then Fragment.empty
        else (" AND (" : Fragment) ++ renderClauses clauses ++ (")" : Fragment))
  | .verbatim fragment => fragment

end

end

end Sql
end RelationalQuery
