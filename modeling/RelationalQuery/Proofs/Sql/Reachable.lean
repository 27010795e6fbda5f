import RelationalQuery.Proofs.Sql.Requests

/-! Queries that any sequence of requests, restrictions, added columns and pages leads to. -/
namespace RelationalQuery.Sql.Query

open Json (Value)

inductive Reachable (schema : Schema) : Query → Prop where
  | ofModel {name : String} {q : Query} : ofModel schema name = .ok q → Reachable schema q
  | requests {depth : Nat} {q r : Query} :
    Reachable schema q → (builder depth).Reaches q r → Reachable schema r
  | restrictTo (column : String) (keys : List Value) {q : Query} :
    Reachable schema q → Reachable schema (q.restrictTo column keys)
  | ensureSelected (column : String) {q : Query} :
    Reachable schema q → Reachable schema (q.ensureSelected column)
  | paginate (page perPage : UInt64) {q : Query} :
    Reachable schema q → Reachable schema (q.paginate page perPage)

/-- Whatever steps are carried out, up to the first that is refused. -/
theorem Reachable.run {schema : Schema} {q : Query} (h : Reachable schema q)
    (steps : List Step) : Reachable schema ((Query.run steps).final q) :=
  .requests h (Builder.respects_reaches.run steps q)

/-! ### Well-formed queries -/

theorem growth_keepsWellFormed : Growth KeepsWellFormed where
  refl _ := id
  trans h₁ h₂ := h₂ ∘ h₁
  select _ _ h := ⟨h.clauses, h.counts⟩
  orderBy _ _ h := ⟨h.clauses, h.counts⟩
  load _ _ h := ⟨h.clauses, h.counts⟩
  filter _ hc h := h.push (Condition.wellFormed_ofPredicate hc)
  group _ hinner hne h := by
    exact h.push ⟨hne, (hinner ⟨trivial, by simp [nested]⟩).clauses⟩
  existence _ hbody hquantifier hc h := h.push (existence_wellFormed hbody hquantifier hc)
  count hbody hcolumn h := by
    refine ⟨h.clauses, fun column' hm => ?_⟩
    rcases List.mem_append.1 hm with hm | hm
    · exact h.counts column' hm
    · rw [List.mem_singleton.1 hm]
      exact countColumn_wellFormed hbody hcolumn

theorem WellFormed.restrictTo {q : Query} (h : q.WellFormed) (column : String)
    (keys : List Value) : (q.restrictTo column keys).WellFormed := by
  refine ⟨?_, h.counts⟩
  unfold Query.restrictTo
  by_cases he : q.clauses.isEmpty
  · simp [he, Clause.and, WellFormedAll, Condition.WellFormed]
  · simp only [he, Bool.false_eq_true, if_false, Clause.and, WellFormedAll, Condition.WellFormed,
      true_and, and_true]
    exact ⟨by simpa using he, h.clauses⟩

theorem WellFormed.ensureSelected {q : Query} (h : q.WellFormed) (column : String) :
    (q.ensureSelected column).WellFormed := by
  unfold Query.ensureSelected
  dsimp only
  split
  · exact h
  · exact ⟨h.clauses, h.counts⟩

theorem Reachable.wellFormed {schema : Schema} {q : Query} (h : Reachable schema q) :
    q.WellFormed := by
  induction h with
  | ofModel h => exact .ofModel h
  | requests _ h ih => exact (growth_keepsWellFormed.respects _).of_reaches h ih
  | restrictTo column keys _ ih => exact ih.restrictTo column keys
  | ensureSelected column _ ih => exact ih.ensureSelected column
  | paginate page perPage _ ih => exact ⟨ih.clauses, ih.counts⟩

/-! ### A query over a tree -/

def tree : Schema :=
  { models := [{
      entity := { name := "Node", table := "no\"de?" }
      relations := [⟨"below", .hasMany "Node" "it's up?" "id"⟩]
      scopes := [⟨"named", fun args => [.filter .or (.oneOf "name?" args false)]⟩] }] }

def treeSteps : List Step :=
  [.whereHas .and "below" .inferred .absent
    [.filter .and (.compare "no\"de?.a\"b" "LIKE" (.str "it's?")),
      .group .or [.has .or "below" .inferred .present ">=" (.num (.int 3))]],
    .countRelated [⟨"below", true, [.filter .and (.between "x" [.null, .bool true] false)]⟩],
    .callScope "named" [.str "?", .arr [.null]]]

def allNodes : Query := { schema := tree, model := tree.models[0] }

def treeQuery : Query :=
  (((run treeSteps).final allNodes).restrictTo "id" [.num (.int 7)]).paginate 2 10

theorem reachable_treeQuery : Reachable tree treeQuery := by
  have hmodel : ofModel tree "Node" = .ok allNodes := rfl
  have hfresh := Reachable.ofModel hmodel
  exact .paginate 2 10 (.restrictTo "id" _ (hfresh.run treeSteps))

end RelationalQuery.Sql.Query
