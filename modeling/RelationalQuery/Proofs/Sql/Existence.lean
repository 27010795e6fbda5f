import RelationalQuery.Proofs.Building.Reach
import RelationalQuery.Proofs.Errors
import RelationalQuery.Sql.Builder

/-! What the condition on a relation's rows can be, and which query it is built from. -/
namespace RelationalQuery

namespace Sql.Query

open Json (Value)

/-- A subquery starts without clauses on the row's schema, one level further in. -/
theorem subquery_eq_ok {q r : Query} {model : String} (h : q.subquery model = .ok r) :
    ∃ m, q.schema.model model = .ok m ∧
      r = { schema := q.schema, model := m, depth := q.depth + 1,
            asName := if m.table = q.model.table then some s!"self_{q.depth}" else none } := by
  obtain ⟨s, hs, h⟩ := Except.bind_eq_ok.1 h
  obtain ⟨m, hm, hs⟩ := Except.bind_eq_ok.1 hs
  cases hs
  cases h
  exact ⟨m, hm, rfl⟩

theorem link_eq_ok {q r : Query} {relation : Relation} {l : Link}
    (h : q.link relation = .ok (r, l)) :
    ∃ model innerColumn outerColumn, q.subquery model = .ok r ∧
      l = ⟨r.source.name, innerColumn, q.source.name, outerColumn⟩ := by
  unfold link at h
  split at h
  · obtain ⟨s, hs, h⟩ := Except.bind_eq_ok.1 h
    cases h
    exact ⟨_, _, _, hs, rfl⟩
  · obtain ⟨s, hs, h⟩ := Except.bind_eq_ok.1 h
    cases h
    exact ⟨_, _, _, hs, rfl⟩
  · obtain ⟨s, hs, h⟩ := Except.bind_eq_ok.1 h
    cases h
    exact ⟨_, _, _, hs, rfl⟩
  · cases h

theorem constrained_eq_ok {projection : Projection} {r : Query} {l : Link}
    {body : Building Query Unit} {s : Subquery} (h : constrained projection r l body = .ok s) :
    ∃ t, body r = .ok () t ∧ s = .related projection t.source l t.ownClauses := by
  unfold constrained at h
  split at h
  · rename_i t ht
    cases h
    exact ⟨t, ht, rfl⟩
  · cases h

/-- A condition on the linked rows of `r`: that there are any, or how many there are. -/
theorem quantified_eq_ok {r : Query} {l : Link} {quantifier : Option (String × Value)}
    {negated : Bool} {body : Building Query Unit} {c : Condition}
    (h : quantified r l quantifier negated body = .ok c) :
    ∃ t, body r = .ok () t ∧
      ((quantifier = none ∧ c = .exists (.related .rows t.source l t.ownClauses) negated) ∨
      ∃ operator count, quantifier = some (operator, count) ∧
        c = .count (.related .count t.source l t.ownClauses) operator count negated) := by
  unfold quantified at h
  split at h
  · obtain ⟨s, hs, h⟩ := Except.bind_eq_ok.1 h
    obtain ⟨t, ht, rfl⟩ := constrained_eq_ok hs
    cases h
    exact ⟨t, ht, .inl ⟨rfl, rfl⟩⟩
  · rename_i operator count
    obtain ⟨s, hs, h⟩ := Except.bind_eq_ok.1 h
    obtain ⟨t, ht, rfl⟩ := constrained_eq_ok hs
    cases h
    exact ⟨t, ht, .inr ⟨operator, count, rfl, rfl⟩⟩

theorem alternative_eq_ok {q : Query} {typeColumn idColumn : String}
    {quantifier : Option (String × Value)} {negated : Bool} {body : Building Query Unit}
    {tag model : String} {cl : Clause}
    (h : q.alternative typeColumn idColumn quantifier negated body tag model = .ok cl) :
    ∃ r c, q.subquery model = .ok r ∧
      quantified r ⟨r.source.name, r.model.entity.primaryKey, q.source.name, idColumn⟩
        quantifier negated body = .ok c ∧
      cl = .or (.group [.and (.compare (qualified q.source.name typeColumn) "=" (.str tag)),
        .and c]) := by
  obtain ⟨r, hr, h⟩ := Except.bind_eq_ok.1 h
  obtain ⟨c, hc, h⟩ := Except.bind_eq_ok.1 h
  cases h
  exact ⟨r, c, hr, hc, rfl⟩

/-- A relation to no type at all, one alternative for each type, or one linked subquery. -/
theorem existence_eq_ok {q : Query} {name : String} {types : RelatedTypes} {ex : Existence}
    {quantifier : Option (String × Value)} {body : Building Query Unit} {c : Condition}
    (h : q.existence name types ex quantifier body = .ok c) :
    ∃ relation, q.model.relation name = .ok relation ∧
      ((∃ typeColumn idColumn, relation.kind = .morphTo typeColumn idColumn [] ∧ types = .any ∧
        c = .oneOf (qualified q.source.name typeColumn) [] (ex = .absent)) ∨
      (∃ typeColumn idColumn morphs alternatives,
        relation.kind = .morphTo typeColumn idColumn morphs ∧ morphs ≠ [] ∧ types = .any ∧
        List.Forall₂ (fun m cl => q.alternative typeColumn idColumn quantifier (ex = .absent)
          body m.1 m.2 = .ok cl) morphs alternatives ∧
        c = .group alternatives) ∨
      (∃ r l, q.link relation = .ok (r, l) ∧
        quantified r l quantifier (ex = .absent) body = .ok c)) := by
  obtain ⟨relation, hrelation, h⟩ := Except.bind_eq_ok.1 h
  refine ⟨relation, hrelation, ?_⟩
  dsimp only at h
  split at h
  · rename_i typeColumn idColumn hkind _
    cases h
    exact .inl ⟨typeColumn, idColumn, hkind, rfl, rfl⟩
  · rename_i typeColumn idColumn morphs hne hkind _
    obtain ⟨alternatives, halternatives, h⟩ := Except.bind_eq_ok.1 h
    cases h
    refine .inr (.inl ⟨typeColumn, idColumn, morphs, alternatives, hkind, ?_, rfl,
      Except.forall₂_of_mapM halternatives, rfl⟩)
    rintro rfl
    exact hne rfl
  · obtain ⟨⟨r, l⟩, hl, h⟩ := Except.bind_eq_ok.1 h
    exact .inr (.inr ⟨r, l, hl, h⟩)

theorem countColumn_eq_ok {q : Query} {name : String} {body : Building Query Unit}
    {column : CountColumn} (h : q.countColumn name body = .ok column) :
    ∃ relation r l t, q.model.relation name = .ok relation ∧ q.link relation = .ok (r, l) ∧
      body r = .ok () t ∧ column = ⟨name, .related .count t.source l t.ownClauses⟩ := by
  obtain ⟨relation, hrelation, h⟩ := Except.bind_eq_ok.1 h
  obtain ⟨⟨r, l⟩, hl, h⟩ := Except.bind_eq_ok.1 h
  obtain ⟨s, hs, h⟩ := Except.bind_eq_ok.1 h
  obtain ⟨t, ht, rfl⟩ := constrained_eq_ok hs
  cases h
  exact ⟨relation, r, l, t, hrelation, hl, ht, rfl⟩

end Sql.Query
end RelationalQuery
