import RelationalQuery.Schema
import RelationalQuery.Sql.Condition
import RelationalQuery.Sql.Window

/-! A query under construction over one model of a schema, and its text. -/
namespace RelationalQuery

def Direction.sql : Direction → String
  | .asc => "ASC"
  | .desc => "DESC"

namespace Sql

open Json (Value)

structure CountColumn where
  relation : String
  subquery : Subquery

def CountColumn.render (hole : Value → Fragment) (c : CountColumn) : Fragment :=
  ("(" : Fragment) ++ c.subquery.render hole ++
    (") AS " ++ quoteIdentifier (c.relation ++ "_count") : Fragment)

structure Query where
  schema : Schema
  model : Model
  columns : List String := []
  counts : List CountColumn := []
  clauses : List Clause := []
  order : List (String × Direction) := []
  loads : List Load := []
  window : Option Window := none
  /-- The name the table goes by inside a subquery over the same table. -/
  asName : Option String := none
  /-- How many subqueries stand around this query. -/
  depth : Nat := 0

namespace Query

def ofModel (schema : Schema) (name : String) : Except QueryError Query := do
  return { schema, model := ← schema.model name }

def related (q : Query) (name : String) : Except QueryError Query := ofModel q.schema name

def source (q : Query) : Source := { table := q.model.table, asName := q.asName }

def push (join : Join) (c : Condition) (q : Query) : Query :=
  { q with clauses := q.clauses ++ [⟨join, c⟩] }

def paginate (page perPage : UInt64) (q : Query) : Query :=
  { q with window := some (.ofPage page perPage) }

/-- Keeps the rows whose column holds one of the keys; the clauses there were so far become one
group behind that condition. -/
def restrictTo (column : String) (keys : List Value) (q : Query) : Query :=
  let guard : Clause := .and (.oneOf (qualified q.model.table column) keys false)
  { q with clauses :=
      if q.clauses.isEmpty then [guard] else [guard, .and (.group q.clauses)] }

/-- Adds a column to a projection that names columns and lacks it. -/
def ensureSelected (column : String) (q : Query) : Query :=
  let column := qualified q.model.table column
  if q.columns.isEmpty || q.columns.contains (qualified q.model.table "*") ||
      q.columns.contains column then q
  else { q with columns := q.columns ++ [column] }

/-! ### Text -/

def columnFragments (hole : Value → Fragment) (q : Query) : List Fragment :=
  (if q.columns.isEmpty then [(quoteIdentifier q.model.table ++ ".*" : Fragment)]
    else q.columns.map fun column => (quoteIdentifier column : Fragment)) ++
  q.counts.map (·.render hole)

def whereFragment (hole : Value → Fragment) (q : Query) : Fragment :=
  if q.clauses.isEmpty then Fragment.empty
  else (" WHERE " : Fragment) ++ renderClauses hole q.clauses

def core (hole : Value → Fragment) (q : Query) : Fragment :=
  ("SELECT " : Fragment) ++ Fragment.join ", " (q.columnFragments hole) ++
    (" FROM " ++ quoteIdentifier q.model.table : Fragment) ++ q.whereFragment hole

def orderSql (q : Query) : String :=
  if q.order.isEmpty then ""
  else " ORDER BY " ++ ", ".intercalate
    (q.order.map fun (field, direction) => quoteIdentifier field ++ " " ++ direction.sql)

def windowSql (q : Query) : String :=
  match q.window with
  | none => ""
  | some w => w.sql

def render (hole : Value → Fragment) (q : Query) : Fragment :=
  q.core hole ++ (q.orderSql ++ q.windowSql : Fragment)

def renderCount (hole : Value → Fragment) (q : Query) : Fragment :=
  ("SELECT count(*) FROM (" : Fragment) ++ q.core hole ++
    (") AS \"aggregate_table\"" : Fragment)

def build (q : Query) : Fragment := q.render Fragment.placeholder

def buildCount (q : Query) : Fragment := q.renderCount Fragment.placeholder

end Query
end Sql
end RelationalQuery
