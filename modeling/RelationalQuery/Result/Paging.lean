import RelationalQuery.Decimal.Reading
import RelationalQuery.Result.Basic
import RelationalQuery.Sql.Readable
import RelationalQuery.Sql.Window
import RelationalQuery.Text.Characters

/-! Results page by page or whole, with one form of envelope for both. -/
namespace RelationalQuery

open Json (Value)

/-- The page that a loosely typed value asks for: a number or a numeric text, cut to a whole
number; the first page for anything else and for what is less than one. -/
def normalizePage (page : Value) : UInt64 :=
  let number := match page with
    | .num n => some n.toFloat
    | .str s => Decimal.readFloat (Text.trimChars s.toList)
    | _ => none
  match number with
  | some f => if f.isFinite && 1.0 ≤ f then f.toUInt64 else 1
  | none => 1

structure PagePolicy where
  cap : Option UInt64 := none

namespace PagePolicy

def grant (p : PagePolicy) (limit : UInt64) : UInt64 :=
  match p.cap with
  | some cap => min limit cap
  | none => limit

variable {m : Type → Type} [Monad m]

def onePage (p : PagePolicy) (e : Executor m) (limit page : UInt64) :
    ExceptT QueryError m QueryResult := do
  let perPage := p.grant limit
  let found ← e.paginate perPage page
  let window := Sql.Window.ofPage page perPage
  let rows := found.items.length.toUInt64
  return {
    items := found.items
    envelope := {
      page := window.currentPage
      lastPage := some (window.totalPages found.total)
      first := window.first? rows
      last := window.last? rows
      limit := perPage
      total := found.total
      hasMorePages := window.hasNext found.total
      isFirstPage := !window.hasPrevious
      query := Sql.readable (e.pageSql perPage page) e.bindings } }

def allRows (e : Executor m) : ExceptT QueryError m QueryResult := do
  let items ← e.get
  let count ← e.count
  return {
    items
    envelope := {
      page := 1
      lastPage := none
      first := some 1
      last := some count
      limit := count
      total := count
      hasMorePages := false
      isFirstPage := true
      query := Sql.readable e.sql e.bindings } }

/-- One page where a limit is given, else all rows; a limit of zero is none. -/
def result (p : PagePolicy) (e : Executor m) (limit : Option UInt64) (page : Value) :
    ExceptT QueryError m QueryResult :=
  match limit.filter (0 < ·) with
  | some limit => p.onePage e limit (normalizePage page)
  | none => allRows e

end PagePolicy
end RelationalQuery
