import RelationalQuery.Proofs.Sql.Requests

/-! Requests leave a query where it stands: over the same model of the same schema, under the same
name and as deep in other queries. -/
namespace RelationalQuery.Sql.Query

structure SamePlace (q r : Query) : Prop where
  schema : r.schema = q.schema
  model : r.model = q.model
  asName : r.asName = q.asName
  depth : r.depth = q.depth

theorem SamePlace.trans {q r s : Query} (h : SamePlace q r) (h' : SamePlace r s) :
    SamePlace q s where
  schema := h'.schema.trans h.schema
  model := h'.model.trans h.model
  asName := h'.asName.trans h.asName
  depth := h'.depth.trans h.depth

theorem SamePlace.source {q r : Query} (h : SamePlace q r) : r.source = q.source := by
  simp only [Query.source, h.model, h.asName]

theorem growth_samePlace : Growth SamePlace where
  refl _ := ⟨rfl, rfl, rfl, rfl⟩
  trans := .trans
  select _ _ := ⟨rfl, rfl, rfl, rfl⟩
  orderBy _ _ := ⟨rfl, rfl, rfl, rfl⟩
  load _ _ := ⟨rfl, rfl, rfl, rfl⟩
  filter _ _ := ⟨rfl, rfl, rfl, rfl⟩
  group _ _ _ := ⟨rfl, rfl, rfl, rfl⟩
  existence _ _ _ _ := ⟨rfl, rfl, rfl, rfl⟩
  count _ _ := ⟨rfl, rfl, rfl, rfl⟩

theorem run_samePlace {steps : List Step} {q r : Query} (h : run steps q = .ok () r) :
    SamePlace q r := by
  have hfinal := (growth_samePlace.respects scopeDepth).run steps q
  rwa [show ((builder scopeDepth).run steps).final q = r from Building.final_of_ok h] at hfinal

end RelationalQuery.Sql.Query
