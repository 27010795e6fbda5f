import RelationalQuery.Compile.Spec
import RelationalQuery.Proofs.Loading.Columns

/-! Levels of a specification, each with its selection and without one. What is loaded is the same
for both where the projection covers the columns of the keys, which the selection decides. -/
namespace RelationalQuery

open Json Sql

/-- Where a level stands: at the top, or under a relation of a query, for the rows whose column
holds one of the keys. -/
inductive Level where
  | top (schema : Schema) (model : String)
  | under (q : Query) (relation model column : String) (keys : List Value)

namespace Level

def query (spec : Spec) : Level → Except QueryError Query
  | .top schema model => do
    let fresh ← Query.ofModel schema model
    match Query.run spec.steps fresh with
    | .error error _ => throw error
    | .ok _ q => return q
  | .under q relation model column keys =>
    q.relatedQuery (Include.asLoad ⟨relation, spec⟩) model column keys

def ensured : Level → List String
  | .top .. => []
  | .under _ _ _ column _ => [column]

def fresh : Level → Except QueryError Query
  | .top schema model => Query.ofModel schema model
  | .under q _ model _ _ => q.related model

def finish : Level → Query → Query
  | .top .., q => q
  | .under _ _ _ column keys, q => (q.restrictTo column keys).ensureSelected column

theorem query_eq_ok {spec : Spec} {level : Level} {q : Query} :
    level.query spec = .ok q ↔ ∃ start shaped, level.fresh = .ok start ∧
      Query.run spec.steps start = .ok () shaped ∧ q = level.finish shaped := by
  have heq : level.query spec = level.fresh >>= fun start =>
      match Query.run spec.steps start with
      | .error error _ => .error error
      | .ok _ shaped => .ok (level.finish shaped) := by
    cases level <;> rfl
  rw [heq, Except.bind_eq_ok]
  refine exists_congr fun start => ?_
  cases Query.run spec.steps start with
  | error error _ => simp
  | ok _ shaped => simp [eq_comm]

/-- Without its selection a level takes the same steps after the first. -/
theorem steps_eq_project_cons (spec : Spec) :
    ∃ rest, spec.steps = .project spec.select :: rest ∧
      { spec with select := [] }.steps = .project [] :: rest := by
  obtain ⟨select, filter, order, includes, counts, scopes⟩ := spec
  simp only [Spec.steps, selectSteps, List.append_assoc, List.singleton_append]
  exact ⟨_, rfl, rfl⟩

/-- What steps without a selection lead to: a scope's projection counts for both, or else the
selection's columns are all that is different. -/
theorem run_without_selection {spec : Spec} {start shaped : Query}
    (h : Query.run spec.steps start = .ok () shaped) :
    ∃ shaped', Query.run { spec with select := [] }.steps start = .ok () shaped' ∧
      (shaped' = shaped ∨ shaped.columns = selectFields start.model.entity spec.select ∧
        shaped' = shaped.withColumns (selectFields start.model.entity [])) := by
  obtain ⟨rest, hsteps, hsteps'⟩ := steps_eq_project_cons spec
  rw [hsteps, Query.run_project_cons] at h
  rw [hsteps', Query.run_project_cons]
  rcases Query.ignoresColumns_run rest _ _ (selectFields start.model.entity []) h with
    hset | ⟨hcolumns, hkept⟩
  · exact ⟨shaped, hset, .inl rfl⟩
  · exact ⟨_, hkept, .inr ⟨hcolumns, rfl⟩⟩

section
variable {level : Level} {shaped : Query}

theorem finish_withColumns (columns : List String) :
    ∃ columns', level.finish (shaped.withColumns columns) =
      (level.finish shaped).withColumns columns' := by
  cases level with
  | top schema model => exact ⟨columns, rfl⟩
  | under q relation model column keys =>
    refine ⟨((shaped.withColumns columns |>.restrictTo column keys).ensureSelected column).columns,
      ?_⟩
    simp only [finish]
    rw [Query.ensureSelected_eq, Query.ensureSelected_eq (shaped.restrictTo column keys)]
    rfl

theorem covers_finish {c : String} : (level.finish shaped).Covers c ↔
    shaped.Covers c ∨ ∃ name ∈ level.ensured, name = "*" ∨ name = c := by
  cases level with
  | top schema model => simp [finish, ensured]
  | under q relation model column keys =>
    simp only [finish, ensured, List.mem_singleton, exists_eq_left, Query.covers_ensureSelected]
    rfl

theorem finish_model : (level.finish shaped).model = shaped.model ∧
    (level.finish shaped).loads = shaped.loads := by
  cases level with
  | top schema model => exact ⟨rfl, rfl⟩
  | under q relation model column keys =>
    simp only [finish]
    rw [Query.ensureSelected_eq]
    exact ⟨rfl, rfl⟩

end

def named (level : Level) (spec : Spec) (entity : Entity) : List String :=
  entity.primaryKey :: (spec.select ++ entity.mandatory) ++ level.ensured

/-- The query `q` of a level beside that of the level without its selection, `q'`. -/
structure Unselected (level : Level) (spec : Spec) (q q' : Query) : Prop where
  compiles : level.query { spec with select := [] } = .ok q'
  /-- If no scope sets the projection, it is all that is different. It covers what is named, and the
  other one covers every column. -/
  columns : q' = q ∨ (∃ columns, q' = q.withColumns columns) ∧ (∀ c, q'.Covers c) ∧
    ∀ c, q.Covers c ↔ spec.select = [] ∨
      ∃ name ∈ level.named spec q.model.entity, name = "*" ∨ name = c
  /-- Where the keys are covered, a server that answers by the projected columns is sent the same
  queries for both, and the rows get the same under every relation. -/
  covered : (∀ load ∈ q.loads, KeysIn q load q.Covers) →
    ∀ {σ : Type} (fetch : Query → Asking σ (List Value)) (full rows out : List Value) (s t : σ),
      List.Forall₂ (Agree q.Covers) full rows →
      Asking.outcome (loadAll fetch q' q'.loads full) s = (.ok out, t) →
      ∃ out', Asking.outcome (loadAll fetch q q.loads rows) s = (.ok out', t) ∧
        List.Forall₂ (Agree fun c => q.Covers c ∨ c ∈ q.loads.map (·.relation)) out out'
  /-- A column of keys that the rows lack leaves the relation empty, and nothing is sent. -/
  missing : ∀ load ∈ q.loads, ∀ relation, q.model.relation load.relation = .ok relation →
    ∀ c ∈ relation.kind.keyColumns,
    ∀ {σ : Type} (fetch : Query → Asking σ (List Value)) (rows : List Value) (s : σ),
      (∀ row ∈ rows, row.field? c = none) →
      Asking.outcome (loadRelation fetch q load rows) s =
        (.ok (rows.map fun row => row.putField load.relation relation.kind.nothing), s)

theorem covers_named {level : Level} {spec : Spec} {shaped : Query} {c : String}
    (h : shaped.columns = selectFields shaped.model.entity spec.select) :
    (level.finish shaped).Covers c ↔ spec.select = [] ∨
      ∃ name ∈ level.named spec shaped.model.entity, name = "*" ∨ name = c := by
  rw [covers_finish, Query.covers_of_selectFields h, or_assoc]
  refine or_congr_right ?_
  simp only [named, List.mem_append, or_and_right, exists_or]

theorem loadAll_agree_withColumns {q : Query} (columns : List String)
    (hkeys : ∀ load ∈ q.loads, KeysIn q load q.Covers) {σ : Type}
    {fetch : Query → Asking σ (List Value)} {full rows out : List Value} {s t : σ}
    (h : List.Forall₂ (Agree q.Covers) full rows)
    (hload : Asking.outcome
      (loadAll fetch (q.withColumns columns) (q.withColumns columns).loads full) s = (.ok out, t)) :
    ∃ out', Asking.outcome (loadAll fetch q q.loads rows) s = (.ok out', t) ∧
      List.Forall₂ (Agree fun c => q.Covers c ∨ c ∈ q.loads.map (·.relation)) out out' := by
  have hplace : Query.SamePlace q (q.withColumns columns) := ⟨rfl, rfl, rfl, rfl⟩
  rw [loadAll_of_samePlace hplace] at hload
  exact loadAll_agree hkeys h hload

/-- Includes come out as without a selection exactly as far as the projection covers their keys. -/
theorem unselected_of_query {level : Level} {spec : Spec} {q : Query}
    (h : level.query spec = .ok q) : ∃ q', Unselected level spec q q' := by
  obtain ⟨start, shaped, hfresh, hrun, rfl⟩ := query_eq_ok.1 h
  obtain ⟨shaped', hrun', hshaped⟩ := run_without_selection hrun
  have hcompiles := query_eq_ok.2 ⟨start, shaped', hfresh, hrun', rfl⟩
  have hcolumns : ∃ columns, level.finish shaped' = (level.finish shaped).withColumns columns := by
    obtain rfl | ⟨-, rfl⟩ := hshaped
    · exact ⟨_, rfl⟩
    · exact finish_withColumns _
  refine ⟨level.finish shaped', hcompiles, ?_, ?_, ?_⟩
  · obtain rfl | ⟨hselected, rfl⟩ := hshaped
    · exact .inl rfl
    · have hmodel : start.model = shaped.model := (Query.run_samePlace hrun).model.symm
      rw [hmodel] at hselected
      refine .inr ⟨hcolumns, fun c => ?_, fun c => ?_⟩
      · have hselected' : (shaped.withColumns (selectFields start.model.entity [])).columns =
            selectFields shaped.model.entity [] := by
          rw [hmodel]
          rfl
        exact (@covers_named level { spec with select := [] } _ c hselected').2 (.inl rfl)
      · rw [finish_model.1]
        exact covers_named hselected
  · intro hkeys σ fetch full rows out s t hagree hload
    obtain ⟨columns, hcolumns⟩ := hcolumns
    rw [hcolumns] at hload
    exact loadAll_agree_withColumns columns hkeys hagree hload
  · intro load _ relation hrelation c hc σ fetch rows s hmissing
    exact loadRelation_of_missing hrelation hc hmissing

/-! ### A selection that leaves a key out -/

def titles : Spec := { select := ["title"], includes := [⟨"author", {}⟩] }

def titlesQuery : Query :=
  { schema := authors, model := postsQuery.model, columns := ["posts.id", "posts.title"]
    loads := [Include.asLoad ⟨"author", {}⟩] }

theorem unselected_titles : (top authors "Post").query titles = .ok titlesQuery ∧
    ∃ q', Unselected (top authors "Post") titles titlesQuery q' := by
  have hquery : (top authors "Post").query titles = .ok titlesQuery := rfl
  exact ⟨hquery, unselected_of_query hquery⟩

/-- The author of a post is lost with the column that tells who it is. -/
theorem author_of_titles_lost :
    (top authors "Post").query titles = .ok titlesQuery ∧
    titlesQuery.model.relation "author" = .ok ⟨"author", .belongsTo "User" "user_id" "id"⟩ ∧
    ¬ titlesQuery.Covers "user_id" ∧
    Asking.outcome (loadAll (answering [.obj [("id", .num (.int 7))]]) titlesQuery
        titlesQuery.loads [.obj [("id", .num (.int 1)), ("title", .str "t")]]) [] =
      (.ok [.obj [("id", .num (.int 1)), ("title", .str "t"), ("author", .null)]], []) ∧
    ∃ q', (top authors "Post").query { titles with select := [] } = .ok q' ∧
      (Asking.outcome (loadAll (answering [.obj [("id", .num (.int 7))]]) q' q'.loads
        [.obj [("id", .num (.int 1)), ("title", .str "t"), ("user_id", .num (.int 7))]]) []).1 =
      .ok [.obj [("id", .num (.int 1)), ("title", .str "t"), ("user_id", .num (.int 7)),
        ("author", .obj [("id", .num (.int 7))])]] := by
  refine ⟨rfl, rfl, ?_, rfl, titlesQuery.withColumns ["posts.*"], rfl, rfl⟩
  simp only [Query.Covers]
  decide

end Level
end RelationalQuery
