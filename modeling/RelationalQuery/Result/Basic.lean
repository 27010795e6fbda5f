import RelationalQuery.Error

/-! Results: rows with a description of the page they are on, and what runs a query to get
them. -/
namespace RelationalQuery

open Json (Value)

structure Envelope where
  page : UInt64
  lastPage : Option UInt64
  first : Option UInt64
  last : Option UInt64
  limit : UInt64
  total : UInt64
  hasMorePages : Bool
  isFirstPage : Bool
  query : String

structure QueryResult where
  items : List Value
  envelope : Envelope

structure Page where
  items : List Value
  total : UInt64

structure Executor (m : Type → Type) where
  paginate : (perPage page : UInt64) → ExceptT QueryError m Page
  get : ExceptT QueryError m (List Value)
  count : ExceptT QueryError m UInt64
  sql : String
  pageSql : (perPage page : UInt64) → String
  bindings : List Value

end RelationalQuery
