import RelationalQuery.Building.Step

/-! Schemas: models with their tables, keys, relations and scopes. What is declared later under
the same name takes the place of what was declared before. -/
namespace RelationalQuery

open Json (Value)

inductive RelationKind where
  | hasMany (related foreignKey localKey : String)
  | hasOne (related foreignKey localKey : String)
  | belongsTo (related foreignKey ownerKey : String)
  /-- The type column holds a tag, each of which stands for a model. -/
  | morphTo (typeColumn idColumn : String) (types : List (String × String))
deriving DecidableEq

structure Relation where
  name : String
  kind : RelationKind
deriving DecidableEq

def Relation.isPolymorphic (r : Relation) : Bool :=
  match r.kind with
  | .morphTo .. => true
  | _ => false

structure Scope where
  name : String
  steps : List Value → List Step

/-- The latest declaration comes first in both lists. -/
structure Model where
  entity : Entity
  relations : List Relation := []
  scopes : List Scope := []

namespace Model

def name (m : Model) : String := m.entity.name
def table (m : Model) : String := m.entity.table

def withRelation (m : Model) (r : Relation) : Model := { m with relations := r :: m.relations }

def withScope (m : Model) (s : Scope) : Model := { m with scopes := s :: m.scopes }

def relation (m : Model) (name : String) : Except QueryError Relation :=
  match m.relations.find? (·.name == name) with
  | some r => .ok r
  | none => .error (.unknownRelation name m.name)

def scope (m : Model) (name : String) : Except QueryError Scope :=
  match m.scopes.find? (·.name == name) with
  | some s => .ok s
  | none => .error (.unknownScope name m.name)

def isPolymorphic (m : Model) (relation : String) : Bool :=
  (m.relations.find? (·.name == relation)).any Relation.isPolymorphic

end Model

structure Schema where
  models : List Model := []

namespace Schema

def register (s : Schema) (m : Model) : Schema := { s with models := m :: s.models }

def model (s : Schema) (name : String) : Except QueryError Model :=
  match s.models.find? (·.name == name) with
  | some m => .ok m
  | none => .error (.unknownModel name)

end Schema
end RelationalQuery
