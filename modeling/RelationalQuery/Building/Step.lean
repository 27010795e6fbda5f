import RelationalQuery.Error
import RelationalQuery.Spec.Basic

/-! The requests that build a query, as data. A group, a constraint on related rows and a load
carry the steps that run inside them. -/
namespace RelationalQuery

open Json (Value)

inductive Join where
  | and
  | or
deriving DecidableEq, Inhabited

inductive Direction where
  | asc
  | desc
deriving DecidableEq, Inhabited

inductive DatePart where
  | date
  | day
  | month
  | year
  | time
deriving DecidableEq, Inhabited

inductive Predicate where
  | compare (field operator : String) (value : Value)
  | between (field : String) (values : List Value) (negated : Bool)
  | oneOf (field : String) (values : List Value) (negated : Bool)
  | isNull (field : String) (negated : Bool)
  | datePart (field : String) (part : DatePart) (value : Value)

inductive RelatedTypes where
  | declared
  | any
deriving DecidableEq, Inhabited

/-- The types of a request: fixed, or any exactly when the builder calls the relation
polymorphic. -/
inductive TypeChoice where
  | fixed (types : RelatedTypes)
  | inferred
deriving DecidableEq, Inhabited

inductive Existence where
  | present
  | absent
deriving DecidableEq, Inhabited

structure Entity where
  name : String
  table : String
  primaryKey : String := "id"
  mandatory : List String := []
deriving DecidableEq, Inhabited

structure LoadOf (α : Type) where
  relation : String
  counts : Bool
  body : List α

inductive Step where
  | select (columns : List String)
  /-- A selection of the entity's own fields; see `selectFields`. -/
  | project (selection : List String)
  | orderBy (field : String) (direction : Direction)
  | filter (join : Join) (predicate : Predicate)
  | group (join : Join) (body : List Step)
  | has (join : Join) (relation : String) (types : TypeChoice) (existence : Existence)
      (operator : String) (count : Value)
  | whereHas (join : Join) (relation : String) (types : TypeChoice) (existence : Existence)
      (body : List Step)
  | load (loads : List (LoadOf Step))
  | countRelated (loads : List (LoadOf Step))
  | callScope (name : String) (args : List Value)
  | fail (error : QueryError)

abbrev Load := LoadOf Step

end RelationalQuery
