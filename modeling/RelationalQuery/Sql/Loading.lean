import RelationalQuery.Json.Printer
import RelationalQuery.Sql.Builder

/-! Loading of relations after their parents' rows are fetched: one query per relation for the
keys found in the rows, and what it returns attached to the rows under the relation's name. -/
namespace RelationalQuery.Sql

open Json (Value)

/-- The text by which a row's column is matched; nothing for null and for a missing column. -/
def keyOf (row : Value) (column : String) : Option String :=
  match row.field? column with
  | none => none
  | some .null => none
  | some v => some v.plainText

def distinctKeysFrom (seen : List String) (column : String) : List Value → List Value
  | [] => []
  | row :: rest =>
    match keyOf row column with
    | none => distinctKeysFrom seen column rest
    | some key =>
      if key ∈ seen then distinctKeysFrom seen column rest
      else
        (row.field? column).getD .null :: distinctKeysFrom (key :: seen) column rest

def distinctKeys (rows : List Value) (column : String) : List Value :=
  distinctKeysFrom [] column rows

def addToGroup (column : String) (groups : List (String × List Value)) (row : Value) :
    List (String × List Value) :=
  match keyOf row column with
  | none => groups
  | some key => Json.Fields.put groups key ((Json.Fields.get? groups key).getD [] ++ [row])

def groupBy (column : String) (rows : List Value) : List (String × List Value) :=
  rows.foldl (addToGroup column) []

def groupOf (groups : List (String × List Value)) (key : Option String) : List Value :=
  (key.bind (Json.Fields.get? groups)).getD []

def firstOrNull : List Value → Value
  | [] => .null
  | v :: _ => v

abbrev Targets := List (String × List (String × Value))

/-- Adds a target; it takes the place of one with the same tag and key. -/
def Targets.add (tag column : String) (targets : Targets) (row : Value) : Targets :=
  match keyOf row column with
  | none => targets
  | some key =>
    Json.Fields.put targets tag (Json.Fields.put ((Json.Fields.get? targets tag).getD []) key row)

def Targets.find (targets : Targets) (tag id : Option String) : Value :=
  match tag, id with
  | some tag, some id =>
    ((Json.Fields.get? targets tag).bind fun byKey => Json.Fields.get? byKey id).getD .null
  | _, _ => .null

def Query.relatedQuery (q : Query) (load : Load) (model column : String) (keys : List Value) :
    Except QueryError Query := do
  let related ← q.related model
  match Query.run load.body related with
  | .error error _ => throw error
  | .ok _ related => return (related.restrictTo column keys).ensureSelected column

section
variable {m : Type → Type} [Monad m] (fetch : Query → ExceptT QueryError m (List Value))

def fetchRelated (q : Query) (load : Load) (model column : String) (keys : List Value) :
    ExceptT QueryError m (List Value) :=
  if keys.isEmpty then pure []
  else do
    let related ← ExceptT.mk (pure (q.relatedQuery load model column keys))
    fetch related

def fetchTargets (q : Query) (load : Load) (typeColumn idColumn : String) (rows : List Value)
    (targets : Targets) (type : String × String) : ExceptT QueryError m Targets :=
  let (tag, model) := type
  let keys := distinctKeys (rows.filter fun row => keyOf row typeColumn == some tag) idColumn
  if keys.isEmpty then pure targets
  else do
    let target ← ExceptT.mk (pure (q.schema.model model))
    let column := target.entity.primaryKey
    let found ← fetchRelated fetch q load model column keys
    return found.foldl (Targets.add tag column) targets

def loadRelation (q : Query) (load : Load) (rows : List Value) :
    ExceptT QueryError m (List Value) := do
  let relation ← ExceptT.mk (pure (q.model.relation load.relation))
  match relation.kind with
  | .hasMany model foreignKey localKey =>
    let children ← fetchRelated fetch q load model foreignKey (distinctKeys rows localKey)
    let groups := groupBy foreignKey children
    return rows.map fun row =>
      row.putField load.relation (.arr (groupOf groups (keyOf row localKey)))
  | .hasOne model foreignKey localKey =>
    let children ← fetchRelated fetch q load model foreignKey (distinctKeys rows localKey)
    let groups := groupBy foreignKey children
    return rows.map fun row =>
      row.putField load.relation (firstOrNull (groupOf groups (keyOf row localKey)))
  | .belongsTo model foreignKey ownerKey =>
    let owners ← fetchRelated fetch q load model ownerKey (distinctKeys rows foreignKey)
    let groups := groupBy ownerKey owners
    return rows.map fun row =>
      row.putField load.relation (firstOrNull (groupOf groups (keyOf row foreignKey)))
  | .morphTo typeColumn idColumn types =>
    let targets ← types.foldlM (fetchTargets fetch q load typeColumn idColumn rows) []
    return rows.map fun row =>
      row.putField load.relation (targets.find (keyOf row typeColumn) (keyOf row idColumn))

def loadAll (q : Query) : List Load → List Value → ExceptT QueryError m (List Value)
  | [], rows => pure rows
  | load :: rest, rows => do loadAll q rest (← loadRelation fetch q load rows)

end

end RelationalQuery.Sql
