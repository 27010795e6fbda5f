import RelationalQuery.Error

/-! Connections: the settings of one and of what is made of its results, the server behind it, and
whether that can be reached. -/
namespace RelationalQuery

structure Config where
  databaseUrl : String := "postgresql://localhost/json_query_development"
  maxConnections : UInt32 := 10
  /-- The greatest page size; zero grants any. -/
  maxPageSize : UInt64 := 0
  logQueries : Bool := false
deriving DecidableEq, Inhabited

def Config.validate (c : Config) : Except QueryError Unit :=
  if c.databaseUrl = "" then .error (.configuration .emptyUrl)
  else if c.maxConnections = 0 then .error (.configuration .noConnections)
  else .ok ()

namespace Sql

structure Server (m : Type → Type) where
  rows : String → ExceptT QueryError m (List Json.Value)
  count : String → ExceptT QueryError m Int

/-- A connection is only tried with valid settings; the server is healthy if it answers one. -/
def isHealthy {m : Type → Type} [Monad m] (config : Config) (answer : ExceptT QueryError m Int) :
    ExceptT QueryError m Bool := do
  ExceptT.mk (pure config.validate)
  return (← answer) == 1

end Sql
end RelationalQuery
