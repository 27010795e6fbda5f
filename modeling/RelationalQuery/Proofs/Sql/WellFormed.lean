import RelationalQuery.Proofs.Sql.Existence

/-! The queries that requests can build: comparisons use known operators only, groups are not
empty, and every subquery is one over linked rows. -/
namespace RelationalQuery.Sql

open Json (Value)

mutual

def Condition.WellFormed : Condition → Prop
  | .compare _ operator _ => operator ∈ comparisonOperators
  | .exists subquery _ => subquery.WellFormed .rows
  | .count subquery operator _ _ => subquery.WellFormed .count ∧ operator ∈ comparisonOperators
  | .group clauses => clauses ≠ [] ∧ WellFormedAll clauses
  | _ => True

def WellFormedAll : List Clause → Prop
  | [] => True
  | ⟨_, c⟩ :: rest => c.WellFormed ∧ WellFormedAll rest

def Subquery.WellFormed (asked : Projection) : Subquery → Prop
  | .related projection _ _ clauses => projection = asked ∧ WellFormedAll clauses
  | .verbatim _ => False

end

@[simp] theorem wellFormedAll_append (xs ys : List Clause) :
    WellFormedAll (xs ++ ys) ↔ WellFormedAll xs ∧ WellFormedAll ys := by
  induction xs with
  | nil => simp [WellFormedAll]
  | cons x xs ih =>
    obtain ⟨j, c⟩ := x
    simp [WellFormedAll, ih, and_assoc]

mutual

theorem Condition.WellFormed.requalify {c : Condition} (h : c.WellFormed) (table name : String) :
    (c.requalify table name).WellFormed := by
  match c with
  | .compare .. | .exists .. | .count .. =>
    simpa [Condition.requalify, Condition.WellFormed] using h
  | .oneOf .. | .between .. | .isNull .. | .datePart .. =>
    simp [Condition.requalify, Condition.WellFormed]
  | .group clauses =>
    obtain ⟨hne, hall⟩ : clauses ≠ [] ∧ WellFormedAll clauses := by
      simpa [Condition.WellFormed] using h
    simp only [Condition.requalify, Condition.WellFormed]
    refine ⟨?_, wellFormedAll_requalifyAll hall table name⟩
    cases clauses with
    | nil => exact absurd rfl hne
    | cons cl rest =>
      obtain ⟨j, c⟩ := cl
      simp [requalifyAll]

theorem wellFormedAll_requalifyAll {clauses : List Clause} (h : WellFormedAll clauses)
    (table name : String) : WellFormedAll (requalifyAll table name clauses) := by
  match clauses with
  | [] => exact h
  | ⟨j, c⟩ :: rest =>
    obtain ⟨hc, hrest⟩ : c.WellFormed ∧ WellFormedAll rest := by
      simpa [WellFormedAll] using h
    simp only [requalifyAll, WellFormedAll]
    exact ⟨hc.requalify table name, wellFormedAll_requalifyAll hrest table name⟩

end

theorem comparison_mem (operator : String) (value : Value) :
    (comparison operator value).1 ∈ comparisonOperators := by
  have heq : "=" ∈ comparisonOperators := by decide
  unfold comparison
  generalize Text.lower (Text.trim operator) = token
  by_cases h : token ∈ comparisonOperators <;> simp only [h, if_true, if_false, heq]

theorem Condition.wellFormed_of_compare {field operator : String} {value : Value} {c : Condition}
    (h : compareCondition field operator value = c) : c.WellFormed := by
  have hmem := comparison_mem operator value
  unfold compareCondition at h
  generalize comparison operator value = x at h hmem
  obtain ⟨token, value⟩ := x
  dsimp only at h hmem
  split at h
  · simp only [← h, Condition.WellFormed]
  · split at h
    · simp only [← h, Condition.WellFormed]
    · simpa only [← h, Condition.WellFormed] using hmem

theorem Condition.wellFormed_ofPredicate {p : Predicate} {c : Condition}
    (h : Condition.ofPredicate p = .ok c) : c.WellFormed := by
  match p with
  | .compare field operator value =>
    simp only [Condition.ofPredicate, Except.ok.injEq] at h
    exact wellFormed_of_compare h
  | .between _ (_ :: _ :: _) _ | .oneOf .. | .isNull .. | .datePart .. =>
    simp only [Condition.ofPredicate, Except.ok.injEq] at h
    simp only [← h, Condition.WellFormed]
  | .between _ [] _ | .between _ [_] _ => simp [Condition.ofPredicate] at h

namespace Query

structure WellFormed (q : Query) : Prop where
  clauses : WellFormedAll q.clauses
  counts : ∀ column ∈ q.counts, column.subquery.WellFormed .count

abbrev KeepsWellFormed (q r : Query) : Prop := q.WellFormed → r.WellFormed

theorem WellFormed.ofModel {schema : Schema} {name : String} {q : Query}
    (h : ofModel schema name = .ok q) : q.WellFormed := by
  obtain ⟨m, _, h⟩ := Except.bind_eq_ok.1 h
  cases h
  exact ⟨trivial, by simp⟩

theorem WellFormed.subquery {q r : Query} {model : String} (h : q.subquery model = .ok r) :
    r.WellFormed := by
  obtain ⟨m, _, rfl⟩ := subquery_eq_ok h
  exact ⟨trivial, by simp⟩

theorem WellFormed.push {q : Query} {join : Join} {c : Condition} (h : q.WellFormed)
    (hc : c.WellFormed) : (q.push join c).WellFormed where
  clauses := by simpa [Query.push, WellFormedAll] using ⟨h.clauses, hc⟩
  counts := h.counts

theorem WellFormed.ownClauses {r : Query} (h : r.WellFormed) : WellFormedAll r.ownClauses := by
  unfold Query.ownClauses
  split
  · exact h.clauses
  · exact wellFormedAll_requalifyAll h.clauses _ _

section
variable {body : Building Query Unit} (hbody : ∀ r, KeepsWellFormed r (body.final r))
include hbody

theorem WellFormed.ownClauses_of_body {q r t : Query} {model : String}
    (h : q.subquery model = .ok r) (ht : body r = .ok () t) : WellFormedAll t.ownClauses := by
  have hf := hbody r (WellFormed.subquery h)
  rw [Building.final_of_ok ht] at hf
  exact hf.ownClauses

theorem quantified_wellFormed {q r : Query} {model : String} {l : Link}
    {quantifier : Option (String × Value)} {negated : Bool} {c : Condition}
    (hr : q.subquery model = .ok r)
    (hquantifier : ∀ x ∈ quantifier, x.1 ∈ comparisonOperators)
    (h : quantified r l quantifier negated body = .ok c) : c.WellFormed := by
  obtain ⟨t, ht, ⟨-, rfl⟩ | ⟨operator, count, hq, rfl⟩⟩ := quantified_eq_ok h
  · exact ⟨rfl, WellFormed.ownClauses_of_body hbody hr ht⟩
  · exact ⟨⟨rfl, WellFormed.ownClauses_of_body hbody hr ht⟩, hquantifier _ hq⟩

theorem existence_wellFormed {q : Query} {name : String} {types : RelatedTypes} {ex : Existence}
    {quantifier : Option (String × Value)} {c : Condition}
    (hquantifier : ∀ x ∈ quantifier, x.1 ∈ comparisonOperators)
    (h : q.existence name types ex quantifier body = .ok c) : c.WellFormed := by
  obtain ⟨relation, -, h⟩ := existence_eq_ok h
  obtain ⟨_, _, -, -, rfl⟩ | ⟨_, _, morphs, alternatives, -, hne, -, hall, rfl⟩ |
    ⟨r, l, hl, h⟩ := h
  · simp [Condition.WellFormed]
  · refine ⟨?_, ?_⟩
    · rintro rfl
      cases hall
      exact hne rfl
    · clear hne h
      induction hall with
      | nil => trivial
      | cons hcl _ ih =>
        obtain ⟨r, c, hr, hc, rfl⟩ := alternative_eq_ok hcl
        have hcw := quantified_wellFormed hbody hr hquantifier hc
        have heq : "=" ∈ comparisonOperators := by decide
        exact ⟨⟨by simp, heq, hcw, trivial⟩, ih⟩
  · obtain ⟨model, _, _, hr, -⟩ := link_eq_ok hl
    exact quantified_wellFormed hbody hr hquantifier h

theorem countColumn_wellFormed {q : Query} {name : String} {column : CountColumn}
    (h : q.countColumn name body = .ok column) : column.subquery.WellFormed .count := by
  obtain ⟨relation, r, l, t, -, hl, ht, rfl⟩ := countColumn_eq_ok h
  obtain ⟨model, _, _, hr, -⟩ := link_eq_ok hl
  exact ⟨rfl, WellFormed.ownClauses_of_body hbody hr ht⟩

end

end Query
end RelationalQuery.Sql
