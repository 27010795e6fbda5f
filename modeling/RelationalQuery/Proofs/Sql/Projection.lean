import RelationalQuery.Proofs.Sql.Requests

/-! Columns of a query. Requests look at everything but the columns, so what they do to a query with
other columns is the same; and which columns of its table a projection covers. -/
namespace RelationalQuery.Sql.Query

open Json (Value)

def withColumns (columns : List String) (q : Query) : Query := { q with columns }

def IgnoresColumns (x : Building Query Unit) : Prop :=
  ∀ (q r : Query) (columns : List String), x q = .ok () r →
    x (q.withColumns columns) = .ok () r ∨
      r.columns = q.columns ∧ x (q.withColumns columns) = .ok () (r.withColumns columns)

theorem ignoresColumns_pure : IgnoresColumns (pure ()) := by
  intro q r columns h
  cases h
  exact .inr ⟨rfl, rfl⟩

theorem IgnoresColumns.bind {x : Building Query Unit} {f : Unit → Building Query Unit}
    (hx : IgnoresColumns x) (hf : IgnoresColumns (f ())) : IgnoresColumns (x >>= f) := by
  intro q r columns h
  obtain ⟨_, s, hs, hr⟩ := Building.bind_eq_ok.1 h
  obtain hset | ⟨hcolumns, hkept⟩ := hx q s columns hs
  · exact .inl (Building.bind_eq_ok.2 ⟨(), s, hset, hr⟩)
  · obtain hset | ⟨hcolumns', hkept'⟩ := hf s r columns hr
    · exact .inl (Building.bind_eq_ok.2 ⟨(), _, hkept, hset⟩)
    · exact .inr ⟨hcolumns'.trans hcolumns, Building.bind_eq_ok.2 ⟨(), _, hkept, hkept'⟩⟩

/-- An action that adds the condition it finds, or is refused. -/
theorem ignoresColumns_of_push {x : Building Query Unit} {join : Join}
    {found : Query → Except QueryError Condition}
    (heq : ∀ q, x q = pushFound join (found q) q)
    (hfound : ∀ q columns, found (withColumns columns q) = found q) : IgnoresColumns x := by
  intro q r columns h
  rw [heq] at h
  obtain ⟨c, hc, rfl⟩ := pushFound_eq_ok.1 h
  refine .inr ⟨rfl, ?_⟩
  rw [heq, hfound, hc]
  rfl

theorem ignoresColumns_countRelated (loads : List (Load × Building Query Unit)) :
    IgnoresColumns (countRelated loads) := by
  induction loads with
  | nil => exact ignoresColumns_pure
  | cons l rest ih =>
    obtain ⟨l, body⟩ := l
    intro q r columns h
    have hsame : (withColumns columns q).countColumn l.relation body =
        q.countColumn l.relation body := rfl
    rw [countRelated_cons] at h
    rw [countRelated_cons, hsame]
    cases hc : q.countColumn l.relation body with
    | error error => simp [hc] at h
    | ok column =>
      simp only [hc] at h ⊢
      exact ih { q with counts := q.counts ++ [column] } r columns h

section
variable {callScope : String → List Value → Building Query Unit}

theorem ignoresColumns_group (join : Join) (body : Building Query Unit) :
    IgnoresColumns ((builderWith callScope).group join body) := by
  intro q r columns h
  have hnested : (withColumns columns q).nested = q.nested := rfl
  rw [group_eq] at h
  rw [group_eq, hnested]
  cases hbody : body q.nested with
  | error error inner => simp [hbody] at h
  | ok _ inner =>
    simp only [hbody, EStateM.Result.ok.injEq, true_and] at h ⊢
    subst h
    by_cases hclauses : inner.clauses.isEmpty
    · simp [hclauses]
    · simp only [hclauses, Bool.false_eq_true, if_false]
      exact .inr ⟨rfl, rfl⟩

theorem ignoresColumns_load (loads : List Load) :
    IgnoresColumns ((builderWith callScope).load loads) := by
  intro q r columns h
  have hsame : (withColumns columns q).checkRelations loads = q.checkRelations loads := rfl
  rw [load_eq] at h
  rw [load_eq, hsame]
  cases hcheck : q.checkRelations loads with
  | error error => simp [hcheck] at h
  | ok _ =>
    simp only [hcheck, EStateM.Result.ok.injEq, true_and] at h ⊢
    subst h
    exact .inr ⟨rfl, rfl⟩

variable (hscope : ∀ name args, IgnoresColumns (callScope name args))
include hscope

theorem ignoresColumns_step (x : Step) : IgnoresColumns ((builderWith callScope).step x) := by
  cases x with
  | select columns => exact fun q r columns' h => .inl h
  | project selection => exact fun q r columns' h => .inl h
  | orderBy field direction =>
    intro q r columns h
    cases h
    exact .inr ⟨rfl, rfl⟩
  | filter join predicate => exact ignoresColumns_of_push (filter_eq join predicate) fun _ _ => rfl
  | group join body => exact ignoresColumns_group join _
  | has join relation types ex operator count =>
    exact ignoresColumns_of_push (fun q => @has_eq callScope join relation
      ((builderWith callScope).types q relation types) ex operator count q) fun _ _ => rfl
  | whereHas join relation types ex body =>
    exact ignoresColumns_of_push (fun q => @whereHas_eq callScope join relation
      ((builderWith callScope).types q relation types) ex _ q) fun _ _ => rfl
  | load loads => exact ignoresColumns_load loads
  | countRelated loads => exact ignoresColumns_countRelated _
  | callScope name args => exact hscope name args
  | fail error =>
    intro q r columns h
    cases h

theorem ignoresColumns_run_of_scope (steps : List Step) :
    IgnoresColumns ((builderWith callScope).run steps) := by
  induction steps with
  | nil => exact ignoresColumns_pure
  | cons x rest ih => exact (ignoresColumns_step hscope x).bind ih

end

theorem callScope_eq (depth : Nat) (name : String) (args : List Value) (q : Query) :
    (builder (depth + 1)).callScope name args q =
      match q.model.scope name with
      | .ok scope => (builder depth).run (scope.steps args) q
      | .error error => .error error q := by
  change (ofExcept (q.model.scope name) >>= fun scope => (builder depth).run (scope.steps args) :
    Building Query Unit) q = _
  cases q.model.scope name with
  | ok scope => rfl
  | error error => rfl

theorem ignoresColumns_runAt (depth : Nat) (steps : List Step) :
    IgnoresColumns ((builder depth).run steps) := by
  induction depth generalizing steps with
  | zero =>
    refine ignoresColumns_run_of_scope (fun name args q r columns h => ?_) steps
    cases h
  | succ depth ih =>
    refine ignoresColumns_run_of_scope (fun name args q r columns h => ?_) steps
    have hcall := callScope_eq depth name args
    change (builder (depth + 1)).callScope name args q = _ at h
    change (builder (depth + 1)).callScope name args (withColumns columns q) = _ ∨
      _ ∧ (builder (depth + 1)).callScope name args (withColumns columns q) = _
    have hmodel : (withColumns columns q).model.scope name = q.model.scope name := rfl
    rw [hcall] at h
    rw [hcall, hmodel]
    cases hscope : q.model.scope name with
    | error error => simp [hscope] at h
    | ok scope =>
      simp only [hscope] at h ⊢
      exact ih (scope.steps args) q r columns h

theorem ignoresColumns_run (steps : List Step) : IgnoresColumns (run steps) :=
  ignoresColumns_runAt scopeDepth steps

/-! ### Covered columns -/

/-- The projection yields a column of the table: by its name, or with all of them. -/
def Covers (q : Query) (column : String) : Prop :=
  q.columns = [] ∨ qualified q.model.table "*" ∈ q.columns ∨
    qualified q.model.table column ∈ q.columns

theorem qualified_inj {table a b : String} : qualified table a = qualified table b ↔ a = b :=
  String.append_right_inj (table ++ ".")

/-- A projection by names covers these, and a star among them everything. -/
theorem covers_of_mem_columns {q : Query} {names : List String} {column : String}
    (hne : q.columns ≠ []) (h : ∀ c, c ∈ q.columns ↔ c ∈ names.map (qualified q.model.table)) :
    q.Covers column ↔ ∃ name ∈ names, name = "*" ∨ name = column := by
  simp only [Covers, hne, false_or, h, List.mem_map, qualified_inj, exists_eq_right]
  constructor
  · rintro (hstar | hcolumn)
    · exact ⟨_, hstar, .inl rfl⟩
    · exact ⟨_, hcolumn, .inr rfl⟩
  · rintro ⟨name, hname, rfl | rfl⟩
    · exact .inl hname
    · exact .inr hname

theorem mem_selectFields {entity : Entity} {selection : List String} (h : selection ≠ [])
    (c : String) : c ∈ selectFields entity selection ↔
      c ∈ (entity.primaryKey :: (selection ++ entity.mandatory)).map (qualified entity.table) := by
  have hfields : selectFields entity selection =
      (((if entity.primaryKey ∈ selection then [] else [entity.primaryKey]) ++
        selection ++ entity.mandatory).map (qualified entity.table)).eraseDups := by
    rw [selectFields, List.isEmpty_eq_false_iff.2 h]
    rfl
  rw [hfields, List.mem_eraseDups]
  by_cases hkey : entity.primaryKey ∈ selection
  · have hold : qualified entity.table entity.primaryKey ∈
        (selection ++ entity.mandatory).map (qualified entity.table) :=
      List.mem_map_of_mem (List.mem_append_left _ hkey)
    rw [if_pos hkey, List.nil_append, List.map_cons, List.mem_cons]
    constructor
    · exact .inr
    · rintro (rfl | hc)
      · exact hold
      · exact hc
  · rw [if_neg hkey, List.append_assoc, List.singleton_append]

/-- A selection covers what it names, the primary key and the mandatory columns; without one
everything is covered. -/
theorem covers_of_selectFields {q : Query} {selection : List String} {column : String}
    (h : q.columns = selectFields q.model.entity selection) :
    q.Covers column ↔ selection = [] ∨
      ∃ name ∈ q.model.entity.primaryKey :: (selection ++ q.model.entity.mandatory),
        name = "*" ∨ name = column := by
  by_cases hempty : selection = []
  · have hcolumns : q.columns = [qualified q.model.table "*"] := by
      rw [h, hempty]
      rfl
    simp [hempty, Covers, hcolumns]
  · have hmem := @mem_selectFields q.model.entity selection hempty
    have hne : q.columns ≠ [] := by
      have hkey := (hmem _).2 (List.mem_map_of_mem List.mem_cons_self)
      rw [h]
      exact List.ne_nil_of_mem hkey
    rw [covers_of_mem_columns hne fun c => by rw [h]; exact hmem c]
    simp only [hempty, false_or]

/-- Ensuring a column covers it besides what is covered. -/
theorem covers_ensureSelected {q : Query} {name column : String} :
    (q.ensureSelected name).Covers column ↔ q.Covers column ∨ name = "*" ∨ name = column := by
  unfold Query.ensureSelected
  dsimp only
  split
  · rename_i h
    simp only [Bool.or_eq_true, List.isEmpty_iff, List.contains_iff_mem, or_assoc] at h
    constructor
    · exact .inl
    · rintro (hcovers | rfl | rfl)
      · exact hcovers
      · obtain h | h | h := h
        · exact .inl h
        · exact .inr (.inl h)
        · exact .inr (.inl h)
      · exact h
  · rename_i h
    simp only [Bool.or_eq_true, List.isEmpty_iff, List.contains_iff_mem, not_or] at h
    simp only [Covers, List.append_eq_nil_iff, h.1.1, false_and, false_or, List.mem_append,
      List.mem_singleton, qualified_inj, @eq_comm _ "*" name, @eq_comm _ column name]
    tauto

end RelationalQuery.Sql.Query
