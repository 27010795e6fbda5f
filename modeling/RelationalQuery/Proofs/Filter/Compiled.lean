import RelationalQuery.Proofs.Filter.Direct

/-! What a compiled tree of conditions adds to a query says what the tree says. -/
namespace RelationalQuery

open Sql

def Sql.Query.add (cs : List Clause) (q : Query) : Query := { q with clauses := q.clauses ++ cs }

namespace Filter

/-- On queries like `q`, whatever the steps do not refuse they only add clauses to, and these have
the given joins and values. The filters that the steps are made from all give conditions there. -/
def Adds (q : Query) (truth : Condition → Bool) (steps : List Step)
    (entries : List (Join × Bool)) (filters : List Filter) : Prop :=
  ∀ r t, r.nested = q.nested → Query.run steps r = .ok () t →
    ∃ cs, t = r.add cs ∧ values truth cs = entries ∧ OrAtomic cs ∧ AllFound q filters

section
variable {q : Query} {truth : Condition → Bool} {fs gs : List Filter}

theorem AllFound.append (hf : AllFound q fs) (hg : AllFound q gs) : AllFound q (fs ++ gs) :=
  fun f hmem => (List.mem_append.1 hmem).elim (hf f) (hg f)

theorem Adds.nil : Adds q truth [] [] [] := by
  intro r t _ h
  cases h
  exact ⟨[], by simp [Query.add], rfl, by simp [OrAtomic], by simp [AllFound]⟩

theorem Adds.append {xs ys : List Step} {es es' : List (Join × Bool)}
    (hx : Adds q truth xs es fs) (hy : Adds q truth ys es' gs) :
    Adds q truth (xs ++ ys) (es ++ es') (fs ++ gs) := by
  intro r t hr h
  obtain ⟨s, hs, ht⟩ := Query.run_append_eq_ok.1 h
  obtain ⟨cs, rfl, hcs, hor, hfound⟩ := hx r s hr hs
  obtain ⟨ds, rfl, hds, hor', hfound'⟩ := hy (r.add cs) t hr ht
  refine ⟨cs ++ ds, by simp [Query.add], by rw [values_append, hcs, hds], ?_,
    hfound.append hfound'⟩
  intro cl hcl
  rcases List.mem_append.1 hcl with hcl | hcl
  · exact hor cl hcl
  · exact hor' cl hcl

/-- A group is one clause, or none if nothing is in it. -/
theorem Adds.group {body : List Step} {es : List (Join × Bool)} (h : Adds q truth body es fs) :
    Adds q truth [.group .and body] (groupEntries es) fs := by
  intro r t hr ht
  rw [Query.run_singleton, Query.step_group] at ht
  cases hb : Query.run body r.nested with
  | error error inner =>
    rw [hb] at ht
    cases ht
  | ok _ inner =>
    -- The body runs on a query without clauses: what it leaves there is what it adds.
    obtain ⟨cs, rfl, hcs, hor, hfound⟩ := h r.nested inner hr hb
    rw [hb] at ht
    cases ht
    have hclauses : (r.nested.add cs).clauses = cs := rfl
    rw [hclauses, ← hcs]
    cases cs with
    | nil => exact ⟨[], by simp [Query.add], rfl, by simp [OrAtomic], hfound⟩
    | cons cl cs =>
      refine ⟨[⟨.and, .group (cl :: cs)⟩], rfl, ?_, by simp [OrAtomic, Clause.join], hfound⟩
      have hvalue : (Condition.group (cl :: cs)).value truth =
          listValue (values truth (cl :: cs)) := by
        rw [Condition.value, hor.isAtomic_group]
        rfl
      obtain ⟨join, c⟩ := cl
      simp [values, groupEntries, hvalue]

theorem Adds.groupUnless {b : Bool} {body : List Step} {es : List (Join × Bool)}
    (h : Adds q truth body es fs) (hb : b = true → es = [] ∧ fs = []) :
    Adds q truth (groupUnless b body) (groupEntries es) fs := by
  unfold RelationalQuery.groupUnless
  cases b with
  | false => exact h.group
  | true =>
    rw [(hb rfl).1, (hb rfl).2]
    exact .nil

variable (q) (truth)

theorem adds_conditionSteps (f : Filter) (join : Join) :
    Adds q truth (f.conditionSteps join) (f.directEntries q truth join) [f] := by
  unfold directEntries
  cases hf : f.conditionField with
  | none =>
    rw [conditionSteps_of_no_field hf]
    intro r t hr h
    have hnil : Adds q truth [] [] [] := .nil
    obtain ⟨cs, ht, hcs, hor, -⟩ := hnil r t hr h
    refine ⟨cs, ht, hcs, hor, ?_⟩
    intro g hg hfield
    rw [List.mem_singleton.1 hg, hf] at hfield
    cases hfield
  | some name =>
    intro r t hr h
    have hsteps (join : Join) : f.conditionSteps join =
        [conditionStep join name f.operator f.subOperator f.operand.value
          (operandBody expansion f.operator name f.operand)] := by
      unfold conditionField at hf
      rw [conditionSteps, conditionWith_eq, hf]
    rw [hsteps, Query.run_singleton] at h
    obtain ⟨c, rfl, hc, hor⟩ := step_conditionStep h
    have hcondition : f.directCondition q = some c := by
      unfold directCondition
      rw [hsteps, Query.run_singleton, ← hr, hor]
      rfl
    refine ⟨[⟨join, c⟩], rfl, ?_, ?_, ?_⟩
    · simp [values, directValue, hcondition, Condition.value_of_isAtomic hc]
    · intro cl hcl _
      rw [List.mem_singleton.1 hcl]
      exact hc
    · intro g hg _
      rw [List.mem_singleton.1 hg]
      exact ⟨c, hcondition⟩

mutual

theorem adds_memberWith (join : Join) (f : Filter) :
    Adds q truth (f.memberWith expansion join) (f.memberEntries q truth join) f.subfilters := by
  match f with
  | ⟨field, operand, operator, subOperator, all, any, wildcard⟩ =>
    have hdirect := adds_conditionSteps q truth
      ⟨field, operand, operator, subOperator, all, any, wildcard⟩ join
    have hall := adds_allWith all
    have hany := adds_anyWith .and any
    rw [memberWith, memberEntries, subfilters]
    refine hdirect.append ((hall.groupUnless fun he => ?_).append (hany.groupUnless fun he => ?_))
    · rw [List.isEmpty_iff.1 he, allEntries, subfiltersAll]
      exact ⟨rfl, rfl⟩
    · rw [List.isEmpty_iff.1 he, anyEntries, subfiltersAll]
      exact ⟨rfl, rfl⟩

theorem adds_allWith (fs : List Filter) :
    Adds q truth (allWith expansion fs) (allEntries q truth fs) (subfiltersAll fs) := by
  match fs with
  | [] =>
    rw [allWith]
    exact .nil
  | f :: rest =>
    rw [allWith, allEntries, subfiltersAll]
    exact (adds_memberWith .and f).append (adds_allWith rest)

theorem adds_anyWith (join : Join) (fs : List Filter) :
    Adds q truth (anyWith expansion join fs) (anyEntries q truth join fs) (subfiltersAll fs) := by
  match fs with
  | [] =>
    rw [anyWith]
    exact .nil
  | f :: rest =>
    rw [anyWith, anyEntries, subfiltersAll]
    exact (adds_memberWith join f).append (adds_anyWith .or rest)

end

/-! ### Wildcards -/

theorem conditionStep_like (join : Join) (field subOperator : String) (v : Json.Value)
    (body : Except SpecFault (List Step)) :
    conditionStep join field "like" subOperator v body =
      .filter join (.compare field "like" (likePattern v)) := by
  have htoken : Operator.ofToken "like" = .like := by rfl
  simp only [conditionStep, htoken]

theorem memberWith_condition_like (x y : Expansion) (join : Join) (field : String)
    (v : Json.Value) :
    memberWith x join (.condition field "like" v) =
      memberWith y join (.condition field "like" v) := by
  simp only [condition, memberWith, conditionWith_eq, conditionStep_like]
  rfl

theorem anyWith_congr {x y : Expansion} {fs : List Filter}
    (h : ∀ f ∈ fs, ∀ join, f.memberWith x join = f.memberWith y join) (join : Join) :
    anyWith x join fs = anyWith y join fs := by
  induction fs generalizing join with
  | nil => rw [anyWith, anyWith]
  | cons f rest ih =>
    rw [anyWith, anyWith, h f (by simp), ih fun g hg => h g (by simp [hg])]

/-- Nothing in the expansion of a wildcard is left to expand. -/
theorem memberWith_chain (x y : Expansion) (value : String) (fields relations : List String) :
    ∀ f ∈ chain value fields relations, ∀ join, f.memberWith x join = f.memberWith y join := by
  induction relations with
  | nil =>
    intro f hf join
    obtain ⟨field, _, rfl⟩ := List.mem_map.1 hf
    exact memberWith_condition_like x y join field (.str value)
  | cons relation rest ih =>
    intro f hf join
    rw [List.mem_singleton.1 hf]
    have hany := anyWith_congr ih .and
    simp only [Filter.relation, Filter.anyOf, memberWith, conditionWith_eq, operandBody, stepsWith,
      hany]
    rfl

theorem wildcardSteps_eq (w : Wildcard) :
    wildcardSteps w = anyWith expansion .and w.members := by
  refine anyWith_congr (fun f hf => ?_) .and
  obtain ⟨path, _, hf⟩ := List.mem_flatMap.1 hf
  exact memberWith_chain _ _ _ _ _ f hf

def wildcardEntries (f : Filter) : List (Join × Bool) :=
  match f.wildcard with
  | some w => groupEntries (anyEntries q truth .and w.members)
  | none => []

theorem adds_steps (f : Filter) :
    Adds q truth f.steps (f.memberEntries q truth .and ++ f.wildcardEntries q truth)
      f.compiledFilters := by
  have hmember := adds_memberWith q truth .and f
  match f with
  | ⟨field, operand, operator, subOperator, all, any, none⟩ =>
    simpa only [steps, stepsWith, memberWith, wildcardEntries, compiledFilters, Option.elim_none]
      using hmember.append .nil
  | ⟨field, operand, operator, subOperator, all, any, some w⟩ =>
    have hwildcard : Adds q truth (RelationalQuery.groupUnless w.fields.isEmpty (wildcardSteps w))
        (groupEntries (anyEntries q truth .and w.members)) (subfiltersAll w.members) := by
      rw [wildcardSteps_eq]
      refine (adds_anyWith q truth .and w.members).groupUnless fun he => ?_
      have hmembers : w.members = [] := by
        simp [Wildcard.members, List.isEmpty_iff.1 he]
      rw [hmembers, anyEntries, subfiltersAll]
      exact ⟨rfl, rfl⟩
    simpa only [steps, stepsWith, memberWith, wildcardEntries, expansion, compiledFilters,
      Option.elim_some] using hmember.append hwildcard

theorem all_wildcardEntries (f : Filter) :
    (f.memberEntries q truth .and ++ f.wildcardEntries q truth).all Prod.snd = f.value q truth := by
  rw [List.all_append, all_memberEntries, value, wildcardEntries]
  cases f.wildcard with
  | none => rfl
  | some w => rw [all_groupEntries, listValue_anyEntries]

/-- After a tree is compiled onto a query of conjoined clauses, these hold exactly if they held
before and the tree holds. Every filter with a field has a condition there. -/
theorem clausesValue_run_steps (truth : Condition → Bool) {q t : Query} {f : Filter}
    (hq : ∀ cl ∈ q.clauses, cl.join = .and) (h : Query.run f.steps q = .ok () t) :
    clausesValue truth t.clauses = (clausesValue truth q.clauses && f.value q truth) ∧
      AllFound q f.compiledFilters := by
  obtain ⟨cs, rfl, hcs, -, hfound⟩ := adds_steps q truth f q t rfl h
  refine ⟨?_, hfound⟩
  have hbefore : ∀ e ∈ values truth q.clauses, e.1 = .and := by
    intro e he
    obtain ⟨cl, hcl, hjoin⟩ := mem_values truth he
    rw [← hjoin, hq cl hcl]
  -- At the top even the direct condition joins with `and`, so nothing is an alternative to it.
  have hadded : ∀ e ∈ values truth cs, e.1 = .and := by
    intro e he
    rw [hcs, List.mem_append] at he
    rcases he with he | he
    · exact fst_of_mem_memberEntries q truth he
    · unfold wildcardEntries at he
      split at he
      · exact fst_of_mem_groupEntries he
      · cases he
  have hall : ∀ e ∈ values truth (q.add cs).clauses, e.1 = .and := by
    intro e he
    rw [Query.add, values_append, List.mem_append] at he
    exact he.elim (hbefore e) (hadded e)
  unfold clausesValue
  rw [listValue_of_and hall, listValue_of_and hbefore, Query.add, values_append, List.all_append,
    hcs, all_wildcardEntries]

end

def mixed : Filter :=
  { any := [.condition "a" "=" (.num (.int 1)), { all := [.condition "b" "null" .null] },
      .relation "below" "where_has" (.condition "c" "like" (.str "x"))]
    wildcard := some ⟨["d", "below:e"], "v"⟩ }

def nodes : Query := Query.allNodes.push .and (.isNull "gone" false)

theorem clausesValue_run_mixed :
    (∀ cl ∈ nodes.clauses, cl.join = .and) ∧
    Query.run mixed.steps nodes = .ok () ((Query.run mixed.steps).final nodes) ∧
    (∀ truth : Condition → Bool,
      clausesValue truth ((Query.run mixed.steps).final nodes).clauses =
        (clausesValue truth nodes.clauses && mixed.value nodes truth)) ∧
    AllFound nodes mixed.compiledFilters := by
  have hq : ∀ cl ∈ nodes.clauses, cl.join = .and := by
    intro cl hcl
    rw [List.mem_singleton.1 hcl]
    rfl
  have hrun := Building.ok_of_succeeds (x := Query.run mixed.steps) (s := nodes) (by decide +kernel)
  exact ⟨hq, hrun, fun truth => (clausesValue_run_steps truth hq hrun).1,
    (clausesValue_run_steps (fun _ => true) hq hrun).2⟩

end Filter
end RelationalQuery
