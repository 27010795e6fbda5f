import RelationalQuery.Result.Basic
import RelationalQuery.Sql.Health
import RelationalQuery.Sql.Literal
import RelationalQuery.Sql.Loading

/-! Execution of queries on a server. -/
namespace RelationalQuery.Sql

open Json (Value)

variable {m : Type → Type} [Monad m]

def rowsSql (inlined : String) : String :=
  "SELECT to_jsonb(q) AS data FROM (" ++ inlined ++ ") AS q"

/-- Fetches the rows of a query, and while there are any the relations loaded with it. Relations
of relations are followed to the given depth. -/
def fetchRows (server : Server m) : Nat → Query → ExceptT QueryError m (List Value)
  | 0, q => throw (.endlessLoad q.model.name)
  | depth + 1, q => do
    let sql ← ExceptT.mk (pure q.build.inline)
    let rows ← server.rows (rowsSql sql)
    if rows.isEmpty then return rows
    else loadAll (fetchRows server depth) q q.loads rows

/-- A bound of the program: a chain of relations that load each other is refused at this length. -/
def loadDepth : Nat := 1000

def fetch (server : Server m) (q : Query) : ExceptT QueryError m (List Value) :=
  fetchRows server loadDepth q

/-- The number of rows; a server that counts below zero counted none. -/
def countRows (server : Server m) (q : Query) : ExceptT QueryError m UInt64 := do
  let sql ← ExceptT.mk (pure q.buildCount.inline)
  let n ← server.count sql
  return n.toNat.toUInt64

def executor (server : Server m) (q : Query) : Executor m where
  paginate perPage page := do
    let total ← countRows server q
    let items ← fetch server (q.paginate page perPage)
    return { items, total }
  get := fetch server q
  count := countRows server q
  sql := q.build.sql
  pageSql perPage page := (q.paginate page perPage).build.sql
  bindings := q.build.bindings

end RelationalQuery.Sql
