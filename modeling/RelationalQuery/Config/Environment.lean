import RelationalQuery.Config.Integer
import RelationalQuery.Json.Value
import RelationalQuery.Sql.Health

/-! Settings from environment variables alone. -/
namespace RelationalQuery

abbrev Environment := List (String × String)

def Environment.apply (env : Environment) (name : String) (c : Config)
    (change : String → Except ConfigFault Config) : Except QueryError Config :=
  match Json.Fields.get? env name with
  | none => .ok c
  | some text =>
    match change text with
    | .ok c => .ok c
    | .error fault => .error (.configuration fault)

def readFlag (setting text : String) : Except ConfigFault Bool :=
  if text = "true" then .ok true
  else if text = "false" then .ok false
  else .error (.badBoolean setting)

def readBounded (setting : String) (bound : Nat) (text : String) : Except ConfigFault Nat :=
  match readNatural bound text with
  | .ok n => .ok n
  | .error fault => .error (.badInteger setting fault)

/-- The defaults, changed by each variable in turn; the first that cannot be read is reported. -/
def Config.ofEnvironment (env : Environment) : Except QueryError Config := do
  let c : Config := {}
  let c ← env.apply "DATABASE_URL" c fun text => .ok { c with databaseUrl := text }
  let c ← env.apply "JSON_QUERY_MAX_CONNECTIONS" c fun text => do
    let n ← readBounded "max_connections" UInt32.size text
    return { c with maxConnections := n.toUInt32 }
  let c ← env.apply "JSON_QUERY_MAX_PAGE_SIZE" c fun text => do
    let n ← readBounded "max_page_size" UInt64.size text
    return { c with maxPageSize := n.toUInt64 }
  let c ← env.apply "JSON_QUERY_LOG_QUERIES" c fun text => do
    return { c with logQueries := ← readFlag "log_queries" text }
  c.validate
  return c

end RelationalQuery
