import RelationalQuery.Building.Step

/-! Builders of queries and how they carry out steps. A builder answers each request with its new
state or with an error; the state it was left in is kept in either case. -/
namespace RelationalQuery

open Json (Value)

abbrev Building (σ : Type) := EStateM QueryError σ

/-- What a builder understands. Groups and constraints on related rows are given the action to
run inside them, counts the action that shapes each counted query. -/
structure Builder (σ : Type) where
  entity : σ → Entity
  isPolymorphic : σ → String → Bool
  select : List String → Building σ Unit
  orderBy : String → Direction → Building σ Unit
  filter : Join → Predicate → Building σ Unit
  group : Join → Building σ Unit → Building σ Unit
  has : Join → String → RelatedTypes → Existence → String → Value → Building σ Unit
  whereHas : Join → String → RelatedTypes → Existence → Building σ Unit → Building σ Unit
  load : List Load → Building σ Unit
  countRelated : List (Load × Building σ Unit) → Building σ Unit
  callScope : String → List Value → Building σ Unit

/-- The columns of an entity that a selection asks for: all of them if it names none, else the
primary key in front unless it is named, the named fields and the mandatory ones, each once. -/
def selectFields (entity : Entity) (selection : List String) : List String :=
  let fields :=
    if selection.isEmpty then ["*"]
    else
      (if entity.primaryKey ∈ selection then [] else [entity.primaryKey]) ++
        selection ++ entity.mandatory
  (fields.map fun field => entity.table ++ "." ++ field).eraseDups

namespace Builder
variable {σ : Type} (b : Builder σ)

def types (s : σ) (relation : String) : TypeChoice → RelatedTypes
  | .fixed types => types
  | .inferred => if b.isPolymorphic s relation then .any else .declared

mutual

def step : Step → Building σ Unit
  | .select columns => b.select columns
  | .project selection => do b.select (selectFields (b.entity (← get)) selection)
  | .orderBy field direction => b.orderBy field direction
  | .filter join predicate => b.filter join predicate
  | .group join body => b.group join (run body)
  | .has join relation types existence operator count => do
    b.has join relation (b.types (← get) relation types) existence operator count
  | .whereHas join relation types existence body => do
    b.whereHas join relation (b.types (← get) relation types) existence (run body)
  | .load loads => b.load loads
  | .countRelated loads => b.countRelated (counted loads)
  | .callScope name args => b.callScope name args
  | .fail error => throw error

def run : List Step → Building σ Unit
  | [] => pure ()
  | s :: rest => do
    step s
    run rest

def counted : List Load → List (Load × Building σ Unit)
  | [] => []
  | ⟨relation, counts, body⟩ :: rest => (⟨relation, counts, body⟩, run body) :: counted rest

end

theorem run_append (xs ys : List Step) :
    b.run (xs ++ ys) = (do b.run xs; b.run ys) := by
  induction xs with
  | nil => simp [run]
  | cons x xs ih => simp [run, ih]

end Builder
end RelationalQuery
