import RelationalQuery.Json.Value

/-! Query specifications: one level of a query as data. A level selects columns, filters and
orders its rows, and names the relations to load or to count and the scopes to apply. -/
namespace RelationalQuery

open Json (Value)

/-- A search for one text in many columns. A path `r:s:a,b` names the columns `a` and `b` of the
rows reached through the relations `r` and `s`. -/
structure Wildcard where
  fields : List String := []
  value : String := ""
deriving DecidableEq, Inhabited

inductive Operand (α : Type) where
  | plain (v : Value)
  | constraint (c : α)

/-- A tree of conditions. A node may have a direct condition on a field, a list of which all must
hold, a list of which some must hold, and a wildcard search. -/
structure Filter where
  field : Option String := none
  operand : Operand Filter := .plain .null
  operator : String := "="
  subOperator : String := "="
  all : List Filter := []
  any : List Filter := []
  wildcard : Option Wildcard := none

namespace Filter

instance : Inhabited Filter := ⟨{}⟩

def condition (field operator : String) (v : Value) : Filter :=
  { field := some field, operator, operand := .plain v }

def relation (field operator : String) (c : Filter) : Filter :=
  { field := some field, operator, operand := .constraint c }

def anyOf (members : List Filter) : Filter := { any := members }

def conditionField (f : Filter) : Option String := f.field.filter (· ≠ "")

end Filter

def Operand.value {α : Type} : Operand α → Value
  | .plain v => v
  | .constraint _ => .null

structure OrderItem where
  field : String
  direction : String := ""
deriving DecidableEq, Inhabited

inductive ScopeArgs where
  | none
  | list (items : List Value)
  | csv (text : String)
  | number (n : Json.Number)

inductive ScopeDecl where
  | named (scopes : List (String × ScopeArgs))
  | listed (entries : List String)

instance : Inhabited ScopeDecl := ⟨.listed []⟩

def ScopeDecl.isEmpty : ScopeDecl → Bool
  | .named scopes => scopes.isEmpty
  | .listed entries => entries.isEmpty

structure IncludeOf (α : Type) where
  relation : String
  spec : α

structure CountInclude where
  relation : String
  filter : Option Filter := none
  scopes : ScopeDecl := default

structure Spec where
  select : List String := []
  filter : Option Filter := none
  order : List OrderItem := []
  includes : List (IncludeOf Spec) := []
  counts : List CountInclude := []
  scopes : ScopeDecl := default

abbrev Include := IncludeOf Spec

instance : Inhabited Spec := ⟨{}⟩

def Spec.isEmpty (s : Spec) : Bool :=
  s.select.isEmpty && s.filter.isNone && s.order.isEmpty && s.includes.isEmpty &&
  s.counts.isEmpty && s.scopes.isEmpty

end RelationalQuery
