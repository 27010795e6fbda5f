import RelationalQuery.Building.Builder
import RelationalQuery.Sql.Query
import RelationalQuery.Text.Case
import RelationalQuery.Text.Characters

/-! Queries as builders: what each request does to a query under construction. -/
namespace RelationalQuery.Sql

open Json (Value)

def comparisonOperators : List String :=
  ["=", "<", ">", "<=", ">=", "<>", "!=", "like", "not like", "ilike", "not ilike", "~", "~*",
   "!~", "!~*", "~~", "~~*", "!~~", "!~~*", "similar to", "not similar to",
   "is distinct from", "is not distinct from", "<<", ">>", "<<=", ">>=", "&&", "@>", "<@", "@@"]

/-- A known operator with its value; any other token is itself the value of an equality. -/
def comparison (operator : String) (value : Value) : String × Value :=
  let token := Text.lower (Text.trim operator)
  if token ∈ comparisonOperators then (token, value) else ("=", .str operator)

def compareCondition (field operator : String) (value : Value) : Condition :=
  let (token, value) := comparison operator value
  if value.isNull && token == "=" then .isNull field false
  else if value.isNull && (token == "<>" || token == "!=") then .isNull field true
  else .compare field token value

def Condition.ofPredicate : Predicate → Except QueryError Condition
  | .compare field operator value => .ok (compareCondition field operator value)
  | .between field (low :: high :: _) negated => .ok (.between field low high negated)
  | .between field _ _ => .error (.malformed (.boundsMissing field))
  | .oneOf field values negated => .ok (.oneOf field values negated)
  | .isNull field negated => .ok (.isNull field negated)
  | .datePart field part value => .ok (.datePart field part value)

namespace Query

def nested (q : Query) : Query :=
  { schema := q.schema, model := q.model, asName := q.asName, depth := q.depth }

def subquery (q : Query) (model : String) : Except QueryError Query := do
  let r ← q.related model
  return { r with
    depth := q.depth + 1
    asName := if r.model.table = q.model.table then some s!"self_{q.depth}" else none }

def link (q : Query) (relation : Relation) : Except QueryError (Query × Link) :=
  match relation.kind with
  | .hasMany model foreignKey localKey | .hasOne model foreignKey localKey => do
    let r ← q.subquery model
    return (r, ⟨r.source.name, foreignKey, q.source.name, localKey⟩)
  | .belongsTo model foreignKey ownerKey => do
    let r ← q.subquery model
    return (r, ⟨r.source.name, ownerKey, q.source.name, foreignKey⟩)
  | .morphTo .. => .error (.untypedRelation relation.name q.model.name)

/-- The clauses of a subquery, pointed at the name its table goes by. -/
def ownClauses (r : Query) : List Clause :=
  match r.asName with
  | none => r.clauses
  | some name => requalifyAll r.model.table name r.clauses

def constrained (projection : Projection) (r : Query) (link : Link) (body : Building Query Unit) :
    Except QueryError Subquery :=
  match body r with
  | .ok _ r => .ok (.related projection r.source link r.ownClauses)
  | .error error _ => .error error

def quantified (r : Query) (link : Link) (quantifier : Option (String × Value)) (negated : Bool)
    (body : Building Query Unit) : Except QueryError Condition :=
  match quantifier with
  | none => do return .exists (← constrained .rows r link body) negated
  | some (operator, count) => do
    return .count (← constrained .count r link body) operator count negated

def alternative (q : Query) (typeColumn idColumn : String)
    (quantifier : Option (String × Value)) (negated : Bool) (body : Building Query Unit)
    (tag model : String) : Except QueryError Clause := do
  let r ← q.subquery model
  let link : Link := ⟨r.source.name, r.model.entity.primaryKey, q.source.name, idColumn⟩
  let condition ← quantified r link quantifier negated body
  return .or (.group [
    .and (.compare (qualified q.source.name typeColumn) "=" (.str tag)),
    .and condition])

def existence (q : Query) (name : String) (types : RelatedTypes) (existence : Existence)
    (quantifier : Option (String × Value)) (body : Building Query Unit) :
    Except QueryError Condition := do
  let relation ← q.model.relation name
  let negated := existence = .absent
  match relation.kind, types with
  | .morphTo typeColumn _ [], .any =>
    return .oneOf (qualified q.source.name typeColumn) [] negated
  | .morphTo typeColumn idColumn morphs, .any =>
    let alternatives ← morphs.mapM fun (tag, model) =>
      q.alternative typeColumn idColumn quantifier negated body tag model
    return .group alternatives
  | _, _ =>
    let (r, link) ← q.link relation
    quantified r link quantifier negated body

def countColumn (q : Query) (name : String) (body : Building Query Unit) :
    Except QueryError CountColumn := do
  let relation ← q.model.relation name
  let (r, link) ← q.link relation
  return ⟨name, ← constrained .count r link body⟩

def checkRelations (q : Query) (loads : List Load) : Except QueryError Unit :=
  loads.forM fun l => discard (q.model.relation l.relation)

/-- Runs `body` on a query of its own and adds what it built as one condition, if anything. -/
def group (join : Join) (body : Building Query Unit) : Building Query Unit := fun q =>
  match body q.nested with
  | .ok _ inner =>
    .ok () (if inner.clauses.isEmpty then q else q.push join (.group inner.clauses))
  | .error error _ => .error error q

def countRelated : List (Load × Building Query Unit) → Building Query Unit
  | [] => pure ()
  | (l, body) :: rest => do
    let column ← ofExcept ((← get).countColumn l.relation body)
    modify fun q => { q with counts := q.counts ++ [column] }
    countRelated rest

def builderWith (callScope : String → List Value → Building Query Unit) : Builder Query where
  entity q := q.model.entity
  isPolymorphic q relation := q.model.isPolymorphic relation
  select columns := modify fun q => { q with columns }
  orderBy field direction := modify fun q => { q with order := q.order ++ [(field, direction)] }
  filter join predicate := do
    let condition ← ofExcept (Condition.ofPredicate predicate)
    modify (push join condition)
  group := group
  has join relation types existence operator count := do
    let quantifier := if count.isNull then none else some (comparison operator count)
    let condition ← ofExcept
      ((← get).existence relation types existence quantifier (pure ()))
    modify (push join condition)
  whereHas join relation types existence body := do
    let condition ← ofExcept ((← get).existence relation types existence none body)
    modify (push join condition)
  load loads := do
    ofExcept ((← get).checkRelations loads)
    modify fun q => { q with loads := q.loads ++ loads }
  countRelated := countRelated
  callScope := callScope

def builder : Nat → Builder Query
  | 0 => builderWith fun name _ => do throw (.endlessScope name (← get).model.name)
  | depth + 1 => builderWith fun name args => do
    let scope ← ofExcept ((← get).model.scope name)
    (builder depth).run (scope.steps args)

/-- A bound of the program: a chain of scopes that call each other is refused at this length. -/
def scopeDepth : Nat := 1000

def run (steps : List Step) : Building Query Unit := (builder scopeDepth).run steps

end Query
end RelationalQuery.Sql
