import RelationalQuery.Proofs.Filter.Meaning
import RelationalQuery.Proofs.Sql.Reachable

/-! A filter's direct condition as a request: which condition it adds to a query, however it is
joined. -/
namespace RelationalQuery
namespace Sql.Query

open Json (Value)

theorem step_filter (join : Join) (predicate : Predicate) (q : Query) :
    (builder scopeDepth).step (.filter join predicate) q =
      pushFound join (Condition.ofPredicate predicate) q := by
  obtain ⟨callScope, hb⟩ := builder_eq scopeDepth
  rw [hb]
  exact filter_eq join predicate q

def typesOf (q : Query) (relation : String) : TypeChoice → RelatedTypes
  | .fixed types => types
  | .inferred => if q.model.isPolymorphic relation then .any else .declared

theorem typesOf_nested (q : Query) (relation : String) (types : TypeChoice) :
    q.nested.typesOf relation types = q.typesOf relation types := by
  cases types <;> rfl

theorem step_has (join : Join) (relation : String) (types : TypeChoice) (ex : Existence)
    (operator : String) (count : Value) (q : Query) :
    (builder scopeDepth).step (.has join relation types ex operator count) q =
      pushFound join (q.existence relation (q.typesOf relation types) ex
        (if count.isNull then none else some (comparison operator count)) (pure ())) q := by
  obtain ⟨callScope, hb⟩ := builder_eq scopeDepth
  rw [hb]
  cases types with
  | fixed types => exact @has_eq callScope join relation types ex operator count q
  | inferred => exact @has_eq callScope join relation _ ex operator count q

theorem step_whereHas (join : Join) (relation : String) (types : TypeChoice) (ex : Existence)
    (body : List Step) (q : Query) :
    (builder scopeDepth).step (.whereHas join relation types ex body) q =
      pushFound join (q.existence relation (q.typesOf relation types) ex none (run body)) q := by
  unfold run
  obtain ⟨callScope, hb⟩ := builder_eq scopeDepth
  rw [hb]
  cases types with
  | fixed types => exact @whereHas_eq callScope join relation types ex _ q
  | inferred => exact @whereHas_eq callScope join relation _ ex _ q

theorem step_group (join : Join) (body : List Step) (q : Query) :
    (builder scopeDepth).step (.group join body) q =
      match run body q.nested with
      | .ok _ inner =>
        .ok () (if inner.clauses.isEmpty then q else q.push join (.group inner.clauses))
      | .error error _ => .error error q := by
  unfold run
  obtain ⟨callScope, hb⟩ := builder_eq scopeDepth
  rw [hb]
  rfl

/-! ### Conditions on related rows -/

theorem isAtomic_quantified {r : Query} {l : Link} {quantifier : Option (String × Value)}
    {negated : Bool} {body : Building Query Unit} {c : Condition}
    (h : quantified r l quantifier negated body = .ok c) : c.isAtomic = true := by
  obtain ⟨t, -, ⟨-, rfl⟩ | ⟨operator, count, -, rfl⟩⟩ := quantified_eq_ok h
  · rfl
  · rfl

theorem isAlternative_of_ok {q : Query} {typeColumn idColumn : String}
    {quantifier : Option (String × Value)} {negated : Bool} {body : Building Query Unit}
    {tag model : String} {cl : Clause}
    (h : q.alternative typeColumn idColumn quantifier negated body tag model = .ok cl) :
    cl.isAlternative = true := by
  obtain ⟨r, c, -, hc, rfl⟩ := alternative_eq_ok h
  obtain ⟨t, -, ⟨-, rfl⟩ | ⟨operator, count, -, rfl⟩⟩ := quantified_eq_ok hc
  · rfl
  · rfl

theorem isAtomic_existence {q : Query} {name : String} {types : RelatedTypes} {ex : Existence}
    {quantifier : Option (String × Value)} {body : Building Query Unit} {c : Condition}
    (h : q.existence name types ex quantifier body = .ok c) : c.isAtomic = true := by
  obtain ⟨relation, -, ⟨_, _, -, -, rfl⟩ | ⟨_, _, morphs, alternatives, -, hne, -, hall, rfl⟩ |
    ⟨r, l, -, hc⟩⟩ := existence_eq_ok h
  · rfl
  · have halternatives : alternatives ≠ [] := by
      rintro rfl
      cases hall
      exact hne rfl
    have hitems : alternatives.all Clause.isAlternative = true := by
      clear hne halternatives h
      induction hall with
      | nil => rfl
      | cons hcl _ ih => rw [List.all_cons, isAlternative_of_ok hcl, ih, Bool.and_self]
    simp [Condition.isAtomic, halternatives, hitems]
  · exact isAtomic_quantified hc

theorem existence_nested (q : Query) (name : String) (types : RelatedTypes) (ex : Existence)
    (quantifier : Option (String × Value)) (body : Building Query Unit) :
    q.nested.existence name types ex quantifier body =
      q.existence name types ex quantifier body := rfl

/-- A declared type is what there is only where the relation has one. -/
theorem typesOf_of_declared {q : Query} {name : String} {ex : Existence}
    {quantifier : Option (String × Value)} {body : Building Query Unit} {c : Condition}
    (h : q.existence name .declared ex quantifier body = .ok c) :
    q.typesOf name .inferred = .declared := by
  obtain ⟨relation, hrelation, ⟨_, _, -, ht, -⟩ | ⟨_, _, _, _, -, -, ht, -, -⟩ | ⟨r, l, hl, -⟩⟩ :=
    existence_eq_ok h
  · cases ht
  · cases ht
  · have hpoly : relation.isPolymorphic = false := by
      unfold Relation.isPolymorphic
      split
      · rename_i hkind
        simp only [link, hkind] at hl
        cases hl
      · rfl
    have hfind : q.model.isPolymorphic name = false := by
      unfold Model.relation at hrelation
      unfold Model.isPolymorphic
      split at hrelation
      · rename_i found hfound
        cases hrelation
        simp [hfound, hpoly]
      · cases hrelation
    simp [typesOf, hfind]

end Sql.Query

namespace Filter

open Sql
open Json (Value)

theorem isAtomic_ofPredicate {p : Predicate} {c : Condition}
    (h : Condition.ofPredicate p = .ok c) : c.isAtomic = true := by
  cases c with
  | group clauses =>
    exfalso
    match p with
    | .compare field operator value =>
      simp only [Condition.ofPredicate, Except.ok.injEq] at h
      unfold compareCondition at h
      generalize comparison operator value = x at h
      obtain ⟨token, value⟩ := x
      dsimp only at h
      split at h
      · cases h
      · split at h
        · cases h
        · cases h
    | .between _ (_ :: _ :: _) _ | .oneOf .. | .isNull .. | .datePart .. =>
      simp [Condition.ofPredicate] at h
    | .between _ [] _ | .between _ [_] _ => simp [Condition.ofPredicate] at h
  | _ => rfl

/-- Only the form of a constraint on related rows depends on how the condition is joined. -/
theorem conditionStep_cases (field operator subOperator : String) (value : Value)
    (body : Except SpecFault (List Step)) :
    (∃ p, ∀ join, conditionStep join field operator subOperator value body = .filter join p) ∨
    (∃ ex, ∀ join, conditionStep join field operator subOperator value body =
      .has join field .inferred ex (Text.lower subOperator) value) ∨
    (∃ ex, ∀ join, conditionStep join field operator subOperator value body =
      whereHasStep join field ex body) := by
  unfold conditionStep
  cases Operator.ofToken operator with
  | has ex => exact .inr (.inl ⟨ex, fun _ => rfl⟩)
  | whereHas ex => exact .inr (.inr ⟨ex, fun _ => rfl⟩)
  | _ => exact .inl ⟨_, fun _ => rfl⟩

/-- Where a constraint is added at all, the form joined with `or` finds the same condition. -/
theorem existence_of_whereHas {join : Join} {field : String} {ex : Existence} {body : List Step}
    {q t : Query}
    (h : (Query.builder Query.scopeDepth).step (whereHasStep join field ex (.ok body)) q =
      .ok () t) :
    ∃ c, t = q.push join c ∧
      q.existence field (q.typesOf field .inferred) ex none (Query.run body) = .ok c := by
  unfold whereHasStep at h
  rw [Query.step_whereHas, Query.pushFound_eq_ok] at h
  obtain ⟨c, hc, rfl⟩ := h
  refine ⟨c, rfl, ?_⟩
  cases ex with
  | present => exact hc
  | absent =>
    cases join with
    | or => exact hc
    | and =>
      -- This form asks for the declared type only, which a polymorphic relation does not have.
      have hdeclared : q.existence field .declared .absent none (Query.run body) = .ok c := hc
      rwa [Query.typesOf_of_declared hdeclared]

/-- A condition that is added in one form is added in the form joined with `or` as well. -/
theorem step_conditionStep {join : Join} {field operator subOperator : String} {value : Value}
    {body : Except SpecFault (List Step)} {q t : Query}
    (h : (Query.builder Query.scopeDepth).step
      (conditionStep join field operator subOperator value body) q = .ok () t) :
    ∃ c, t = q.push join c ∧ c.isAtomic = true ∧
      (Query.builder Query.scopeDepth).step
        (conditionStep .or field operator subOperator value body) q.nested =
          .ok () (q.nested.push .or c) := by
  obtain ⟨p, hp⟩ | ⟨ex, hex⟩ | ⟨ex, hex⟩ :=
    conditionStep_cases field operator subOperator value body
  · rw [hp, Query.step_filter, Query.pushFound_eq_ok] at h
    obtain ⟨c, hc, rfl⟩ := h
    refine ⟨c, rfl, isAtomic_ofPredicate hc, ?_⟩
    rw [hp, Query.step_filter, hc]
    rfl
  · rw [hex, Query.step_has, Query.pushFound_eq_ok] at h
    obtain ⟨c, hc, rfl⟩ := h
    refine ⟨c, rfl, Query.isAtomic_existence hc, ?_⟩
    rw [hex, Query.step_has, Query.existence_nested, Query.typesOf_nested, hc]
    rfl
  · cases body with
    | error fault =>
      rw [hex] at h
      cases h
    | ok body =>
      rw [hex] at h
      obtain ⟨c, rfl, hc⟩ := existence_of_whereHas h
      refine ⟨c, rfl, Query.isAtomic_existence hc, ?_⟩
      have hor : whereHasStep .or field ex (.ok body) = .whereHas .or field .inferred ex body := by
        cases ex <;> rfl
      rw [hex, hor, Query.step_whereHas, Query.existence_nested, Query.typesOf_nested, hc]
      rfl

end Filter
end RelationalQuery
