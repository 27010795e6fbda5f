import RelationalQuery.Proofs.Sql.WellFormed

/-! What requests do to a query, one by one. A request that is refused changes nothing; one that is
carried out sets the columns or adds an order, loads, a condition or counts. -/
namespace RelationalQuery.Sql.Query

open Json (Value)

def pushFound (join : Join) (found : Except QueryError Condition) (q : Query) :
    EStateM.Result QueryError Query Unit :=
  match found with
  | .ok c => .ok () (q.push join c)
  | .error error => .error error q

theorem pushFound_eq_ok {join : Join} {found : Except QueryError Condition} {q t : Query} :
    pushFound join found q = .ok () t ↔ ∃ c, found = .ok c ∧ t = q.push join c := by
  cases found with
  | ok c =>
    simp only [pushFound, EStateM.Result.ok.injEq, true_and, Except.ok.injEq, exists_eq_left']
    exact eq_comm
  | error error => simp [pushFound]

theorem eq_of_pushFound_eq_error {join : Join} {found : Except QueryError Condition} {q t : Query}
    {error : QueryError} (h : pushFound join found q = .error error t) : t = q := by
  cases found with
  | ok c => cases h
  | error e =>
    cases h
    rfl

section
variable {callScope : String → List Value → Building Query Unit}

theorem filter_eq (join : Join) (predicate : Predicate) (q : Query) :
    (builderWith callScope).filter join predicate q =
      pushFound join (Condition.ofPredicate predicate) q := by
  change (ofExcept (Condition.ofPredicate predicate) >>= _ : Building Query Unit) q = _
  cases Condition.ofPredicate predicate with
  | ok c => rfl
  | error error => rfl

theorem group_eq (join : Join) (body : Building Query Unit) (q : Query) :
    (builderWith callScope).group join body q =
      match body q.nested with
      | .ok _ inner =>
        .ok () (if inner.clauses.isEmpty then q else q.push join (.group inner.clauses))
      | .error error _ => .error error q := rfl

theorem has_eq (join : Join) (relation : String) (types : RelatedTypes) (ex : Existence)
    (operator : String) (count : Value) (q : Query) :
    (builderWith callScope).has join relation types ex operator count q =
      pushFound join (q.existence relation types ex
        (if count.isNull then none else some (comparison operator count)) (pure ())) q := by
  change (ofExcept (q.existence relation types ex _ (pure ())) >>= _ : Building Query Unit) q = _
  generalize q.existence relation types ex _ (pure ()) = x
  cases x with
  | ok c => rfl
  | error error => rfl

theorem whereHas_eq (join : Join) (relation : String) (types : RelatedTypes) (ex : Existence)
    (body : Building Query Unit) (q : Query) :
    (builderWith callScope).whereHas join relation types ex body q =
      pushFound join (q.existence relation types ex none body) q := by
  change (ofExcept (q.existence relation types ex none body) >>= _ : Building Query Unit) q = _
  cases q.existence relation types ex none body with
  | ok c => rfl
  | error error => rfl

theorem load_eq (loads : List Load) (q : Query) :
    (builderWith callScope).load loads q =
      match q.checkRelations loads with
      | .ok _ => .ok () { q with loads := q.loads ++ loads }
      | .error error => .error error q := by
  change (ofExcept (q.checkRelations loads) >>= _ : Building Query Unit) q = _
  cases q.checkRelations loads with
  | ok _ => rfl
  | error error => rfl

theorem countRelated_cons (l : Load) (body : Building Query Unit)
    (rest : List (Load × Building Query Unit)) (q : Query) :
    countRelated ((l, body) :: rest) q =
      match q.countColumn l.relation body with
      | .ok column => countRelated rest { q with counts := q.counts ++ [column] }
      | .error error => .error error q := by
  change (ofExcept (q.countColumn l.relation body) >>= _ : Building Query Unit) q = _
  cases q.countColumn l.relation body with
  | ok column => rfl
  | error error => rfl

end

theorem run_append_eq_ok {xs ys : List Step} {q t : Query} :
    run (xs ++ ys) q = .ok () t ↔ ∃ r, run xs q = .ok () r ∧ run ys r = .ok () t := by
  unfold run
  rw [Builder.run_append, Building.bind_eq_ok]
  constructor
  · rintro ⟨_, r, hr, ht⟩
    exact ⟨r, hr, ht⟩
  · rintro ⟨r, hr, ht⟩
    exact ⟨(), r, hr, ht⟩

theorem run_singleton (x : Step) : run [x] = (builder scopeDepth).step x := by
  simp [run, Builder.run]

/-- Only the calls of scopes depend on how deep they may go. -/
theorem builder_eq (depth : Nat) : ∃ callScope, builder depth = builderWith callScope := by
  cases depth with
  | zero => exact ⟨_, rfl⟩
  | succ depth => exact ⟨_, rfl⟩

/-- A selection sets the columns, and what follows goes on from there. -/
theorem run_project_cons (selection : List String) (rest : List Step) (q : Query) :
    run (.project selection :: rest) q =
      run rest { q with columns := selectFields q.model.entity selection } := by
  unfold run
  obtain ⟨callScope, hb⟩ := builder_eq scopeDepth
  rw [hb]
  rfl

/-- A relation from a query to the queries that follow from it by what single requests do. The
actions inside a request lead to related queries as well. -/
structure Growth (R : Query → Query → Prop) : Prop where
  refl : ∀ q, R q q
  trans : ∀ {q r s}, R q r → R r s → R q s
  select : ∀ columns q, R q { q with columns }
  orderBy : ∀ item q, R q { q with order := q.order ++ [item] }
  load : ∀ loads q, R q { q with loads := q.loads ++ loads }
  filter : ∀ {q predicate c} join, Condition.ofPredicate predicate = .ok c → R q (q.push join c)
  group : ∀ {q inner : Query} join, R q.nested inner → inner.clauses ≠ [] →
    R q (q.push join (.group inner.clauses))
  existence : ∀ {q name types ex quantifier c} {body : Building Query Unit} join,
    (∀ r, R r (body.final r)) → (∀ x ∈ quantifier, x.1 ∈ comparisonOperators) →
    q.existence name types ex quantifier body = .ok c → R q (q.push join c)
  count : ∀ {q name column} {body : Building Query Unit}, (∀ r, R r (body.final r)) →
    q.countColumn name body = .ok column → R q { q with counts := q.counts ++ [column] }

namespace Growth
variable {R : Query → Query → Prop}

/-- A request that adds the condition it finds, or is refused. -/
theorem of_push (h : Growth R) {x : Except QueryError Condition} {action : Building Query Unit}
    {join : Join} {q : Query}
    (heq : action q = pushFound join x q)
    (hx : ∀ c, x = .ok c → R q (q.push join c)) : R q (action.final q) := by
  cases hc : x with
  | ok c =>
    simp only [hc, pushFound] at heq
    rw [Building.final_of_ok heq]
    exact hx c hc
  | error error =>
    simp only [hc, pushFound] at heq
    rw [Building.final_of_error heq]
    exact h.refl q

theorem countRelated (h : Growth R) {loads : List (Load × Building Query Unit)}
    (hloads : ∀ l ∈ loads, ∀ r, R r (l.2.final r)) (q : Query) :
    R q ((countRelated loads).final q) := by
  induction loads generalizing q with
  | nil => exact h.refl q
  | cons l rest ih =>
    obtain ⟨l, body⟩ := l
    unfold Building.final at ih ⊢
    rw [countRelated_cons]
    cases hc : q.countColumn l.relation body with
    | ok column =>
      have hcolumn := h.count (hloads (l, body) (by simp)) hc
      exact h.trans hcolumn (ih (fun l hl => hloads l (by simp [hl])) _)
    | error error => exact h.refl q

theorem respects_builderWith (h : Growth R)
    {callScope : String → List Value → Building Query Unit}
    (hscope : ∀ name args q, R q ((callScope name args).final q)) :
    (builderWith callScope).Respects R where
  refl := h.refl
  trans := h.trans
  select := h.select
  orderBy _ _ q := h.orderBy _ q
  filter join predicate q := h.of_push (filter_eq join predicate q) fun _ => h.filter join
  group join body hbody q := by
    have hinner := hbody q.nested
    unfold Building.final at hinner ⊢
    rw [group_eq]
    cases hb : body q.nested with
    | ok _ inner =>
      simp only [hb] at hinner ⊢
      by_cases hclauses : inner.clauses.isEmpty
      · simpa only [hclauses, if_true] using h.refl q
      · simp only [hclauses, Bool.false_eq_true, if_false]
        exact h.group join hinner (by simpa using hclauses)
    | error error _ => exact h.refl q
  has join relation types ex operator count q := by
    have hnothing : ∀ r, R r ((pure () : Building Query Unit).final r) := h.refl
    refine h.of_push (has_eq join relation types ex operator count q) fun c hc => ?_
    refine h.existence join hnothing ?_ hc
    intro x hx
    by_cases hn : count.isNull
    · simp [hn] at hx
    · rw [if_neg hn, Option.mem_def, Option.some.injEq] at hx
      rw [← hx]
      exact comparison_mem operator count
  whereHas join relation types ex body hbody q :=
    h.of_push (whereHas_eq join relation types ex body q) fun _ hc =>
      h.existence join hbody (by simp) hc
  load loads q := by
    unfold Building.final
    rw [load_eq]
    cases q.checkRelations loads with
    | ok _ => exact h.load loads q
    | error error => exact h.refl q
  countRelated hloads q := h.countRelated hloads q
  callScope := hscope

theorem respects (h : Growth R) (depth : Nat) : (builder depth).Respects R := by
  induction depth with
  | zero => exact h.respects_builderWith fun _ _ q => h.refl q
  | succ depth ih =>
    refine h.respects_builderWith fun name args q => ?_
    change R q
      ((ofExcept (q.model.scope name) >>= fun scope => (builder depth).run (scope.steps args) :
        Building Query Unit).final q)
    cases q.model.scope name with
    | ok scope => exact ih.run (scope.steps args) q
    | error error => exact h.refl q

end Growth

end RelationalQuery.Sql.Query
