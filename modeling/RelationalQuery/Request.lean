import RelationalQuery.Compile.Spec
import RelationalQuery.Config.Environment
import RelationalQuery.Result.Paging
import RelationalQuery.Spec.Read
import RelationalQuery.Sql.Executor

/-! A query together with the specification it is built from. -/
namespace RelationalQuery

open Json (Value)

structure RequestOf (σ : Type) where
  query : σ
  /-- The specification as it was given; null if it was given as one already. -/
  raw : Value
  spec : Spec

namespace RequestOf
variable {σ : Type}

/-- Reads a specification as a value; a blank text is an empty object. -/
def ofText (query : σ) (text : String) : Except QueryError (RequestOf σ) := do
  let raw ←
    if Text.isBlankText text then pure (.obj [])
    else match Json.readValue text with
      | some v => pure v
      | none => throw (.malformed .notJson)
  match Spec.ofValue raw with
  | .ok spec => return { query, raw, spec }
  | .error fault => throw (.malformed fault)

def ofSpec (query : σ) (spec : Spec) : RequestOf σ := { query, raw := .null, spec }

def perform (r : RequestOf σ) (action : Building σ Unit) : RequestOf σ × Option QueryError :=
  match action r.query with
  | .ok _ query => ({ r with query }, none)
  | .error error query => ({ r with query }, some error)

section
variable (b : Builder σ)

def buildSectionWith (r : RequestOf σ) (sect : Section) : Building σ Unit :=
  b.run (r.spec.sectionSteps sect)

def buildQueryWith (r : RequestOf σ) : Building σ Unit :=
  Section.all.forM fun sect => r.buildSectionWith b sect

end
end RequestOf

abbrev Request := RequestOf Sql.Query

namespace Request

def ofText (query : Sql.Query) (text : String) : Except QueryError Request :=
  RequestOf.ofText query text

def ofSpec (query : Sql.Query) (spec : Spec) : Request := RequestOf.ofSpec query spec

def buildSection (r : Request) (sect : Section) : Building Sql.Query Unit :=
  r.buildSectionWith (Sql.Query.builder Sql.Query.scopeDepth) sect

def buildQuery (r : Request) : Building Sql.Query Unit :=
  r.buildQueryWith (Sql.Query.builder Sql.Query.scopeDepth)

def addScopes (names : List String) : Building Sql.Query Unit :=
  Sql.Query.run (names.map fun name => .callScope name [])

/-- Pages are capped as the settings say; a cap of zero is none. -/
def policy (c : Config) : PagePolicy :=
  { cap := if 0 < c.maxPageSize then some c.maxPageSize else none }

variable {m : Type → Type} [Monad m]

def result (r : Request) (server : Sql.Server m) (p : PagePolicy) (limit : Option UInt64)
    (page : Value) : ExceptT QueryError m QueryResult :=
  p.result (Sql.executor server r.query) limit page

end Request
end RelationalQuery
