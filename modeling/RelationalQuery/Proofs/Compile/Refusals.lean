import RelationalQuery.Compile.Spec
import RelationalQuery.Proofs.Building.Refusals
import RelationalQuery.Proofs.Filter.Meaning
import RelationalQuery.Proofs.Spec.Mapped

/-! What is refused only when a specification is compiled. A mapped specification is carried out by
every builder whose own requests are never refused, but for conditions whose operator asks for a
constraint on related rows only once the blanks around it are gone: their values are looked at
when they are compiled, and may be none. -/
namespace RelationalQuery

open Json (Document Value)

/-- A condition, here or within, asks for a constraint on related rows that its value is not: the
operator was not recognised when the filter was read, and the value is neither null nor an object
that is read as a filter in turn. -/
inductive Filter.Refused : Filter → Prop
  | value {f : Filter} {name : String} {existence : Existence} {v : Value} :
    f.conditionField = some name → Operator.ofToken f.operator = .whereHas existence →
    takesConstraint f.operator = false → f.operand = .plain v → v ≠ .null →
    (∀ fields c, v = .obj fields → Filter.ofValue v = .ok c → c.Refused) → Refused f
  | constraint {f : Filter} {name : String} {existence : Existence} {c : Filter} :
    f.conditionField = some name → Operator.ofToken f.operator = .whereHas existence →
    f.operand = .constraint c → c.Refused → Refused f
  | all {f g : Filter} : g ∈ f.all → g.Refused → Refused f
  | any {f g : Filter} : g ∈ f.any → g.Refused → Refused f

/-! ### Steps of which one is refused -/

def AnyRefused (steps : List Step) : Prop := ∃ s ∈ steps, s.Refused

def Refuses (body : Except SpecFault (List Step)) : Prop :=
  ∀ steps, body = .ok steps → AnyRefused steps

@[simp]
theorem anyRefused_nil : ¬ AnyRefused [] := fun ⟨_, h, _⟩ => absurd h List.not_mem_nil

theorem anyRefused_cons {s : Step} {rest : List Step} :
    AnyRefused (s :: rest) ↔ s.Refused ∨ AnyRefused rest := by
  simp [AnyRefused]

theorem anyRefused_append {xs ys : List Step} :
    AnyRefused (xs ++ ys) ↔ AnyRefused xs ∨ AnyRefused ys := by
  simp only [AnyRefused, List.mem_append, or_and_right, exists_or]

theorem anyRefused_groupUnless {isEmpty : Bool} {body : List Step} :
    AnyRefused (groupUnless isEmpty body) ↔ isEmpty = false ∧ AnyRefused body := by
  cases isEmpty with
  | true => simp [groupUnless]
  | false =>
    constructor
    · rintro ⟨s, hs, hr⟩
      obtain rfl : s = .group .and body := by simpa [groupUnless] using hs
      cases hr with
      | group hmem h => exact ⟨rfl, _, hmem, h⟩
    · rintro ⟨-, s, hs, hr⟩
      exact ⟨.group .and body, by simp [groupUnless], .group hs hr⟩

theorem refuses_ok {steps : List Step} : Refuses (.ok steps) ↔ AnyRefused steps := by
  constructor
  · exact fun h => h steps rfl
  · intro h _ heq
    cases heq
    exact h

theorem refuses_error (fault : SpecFault) : Refuses (.error fault) := fun _ h => by cases h

theorem refused_whereHasStep {join : Join} {relation : String} {existence : Existence}
    {body : Except SpecFault (List Step)} :
    (whereHasStep join relation existence body).Refused ↔ Refuses body := by
  cases body with
  | error fault => exact iff_of_true (.fail _) (refuses_error fault)
  | ok steps =>
    rw [refuses_ok]
    constructor
    · intro h
      cases h with
      | whereHas hs hr => exact ⟨_, hs, hr⟩
    · rintro ⟨s, hs, hr⟩
      exact .whereHas hs hr

/-- A condition is refused only as a constraint on related rows. -/
theorem refused_conditionStep {join : Join} {field operator subOperator : String} {value : Value}
    {body : Except SpecFault (List Step)} :
    (conditionStep join field operator subOperator value body).Refused ↔
      (∃ existence, Operator.ofToken operator = .whereHas existence) ∧ Refuses body := by
  unfold conditionStep
  cases Operator.ofToken operator with
  | whereHas existence =>
    exact refused_whereHasStep.trans ⟨fun h => ⟨⟨_, rfl⟩, h⟩, fun h => h.2⟩
  | _ =>
    constructor
    · intro h
      cases h
    · rintro ⟨⟨_, h⟩, _⟩
      cases h

namespace Filter

def Suits (x : Expansion) (f : Filter) : Prop :=
  ∀ g, f.Contains g → ∀ v, g.operand = .plain v → takesConstraint g.operator = false ∧
    ∀ fields, v = .obj fields →
      (Refuses (x.constraint v) ↔ ∀ c, Filter.ofValue v = .ok c → c.Refused)

variable {x : Expansion} {f : Filter}

theorem Suits.of_all (h : Suits x f) {g : Filter} (hg : g ∈ f.all) : Suits x g :=
  fun k hk => h k (.all hg hk)

theorem Suits.of_any (h : Suits x f) {g : Filter} (hg : g ∈ f.any) : Suits x g :=
  fun k hk => h k (.any hg hk)

theorem Suits.of_constraint (h : Suits x f) {c : Filter} (hc : f.operand = .constraint c) :
    Suits x c :=
  fun k hk => h k (.constraint hc hk)

def ConditionRefused (f : Filter) : Prop :=
  (∃ name, f.conditionField = some name) ∧
    (∃ existence, Operator.ofToken f.operator = .whereHas existence) ∧
    match f.operand with
    | .plain v => takesConstraint f.operator = false ∧ v ≠ .null ∧
      ∀ fields c, v = .obj fields → Filter.ofValue v = .ok c → c.Refused
    | .constraint c => c.Refused

theorem refused_iff : f.Refused ↔
    f.ConditionRefused ∨ (∃ g ∈ f.all, g.Refused) ∨ ∃ g ∈ f.any, g.Refused := by
  constructor
  · intro h
    cases h with
    | value hfield hop htakes hv hnull hobj =>
      exact .inl ⟨⟨_, hfield⟩, ⟨_, hop⟩, by rw [hv]; exact ⟨htakes, hnull, hobj⟩⟩
    | constraint hfield hop hc hr => exact .inl ⟨⟨_, hfield⟩, ⟨_, hop⟩, by rw [hc]; exact hr⟩
    | all hg hr => exact .inr (.inl ⟨_, hg, hr⟩)
    | any hg hr => exact .inr (.inr ⟨_, hg, hr⟩)
  · rintro (⟨⟨name, hfield⟩, ⟨existence, hop⟩, h⟩ | ⟨g, hg, hr⟩ | ⟨g, hg, hr⟩)
    · cases hoperand : f.operand with
      | plain v =>
        rw [hoperand] at h
        exact .value hfield hop h.1 hoperand h.2.1 h.2.2
      | constraint c =>
        rw [hoperand] at h
        exact .constraint hfield hop hoperand h
    · exact .all hg hr
    · exact .any hg hr

theorem refuses_plainConstraint (hf : Suits x f) {v : Value} (hv : f.operand = .plain v)
    (name : String) :
    Refuses (plainConstraint x f.operator name v) ↔ takesConstraint f.operator = false ∧
      v ≠ .null ∧ ∀ fields c, v = .obj fields → Filter.ofValue v = .ok c → c.Refused := by
  obtain ⟨htakes, hobj⟩ := hf f (.self f) v hv
  cases v with
  | null => simp [plainConstraint, refuses_ok]
  | obj fields =>
    rw [plainConstraint, hobj fields rfl]
    constructor
    · exact fun h => ⟨htakes, by rintro ⟨⟩, fun _ c _ hc => h c hc⟩
    · exact fun h c hc => h.2.2 fields c rfl hc
  | _ =>
    refine iff_of_true (refuses_error _) ⟨htakes, by rintro ⟨⟩, fun fields c h => ?_⟩
    cases h

/-- The condition of a filter is refused when it is compiled, if its constraint is compiled like
one. -/
theorem anyRefused_condition (hf : Suits x f)
    (hc : ∀ c, f.operand = .constraint c → (AnyRefused (stepsWith x c) ↔ c.Refused))
    (join : Join) :
    AnyRefused (conditionWith x join f.field f.operand f.operator f.subOperator) ↔
      f.ConditionRefused := by
  rw [conditionWith_eq]
  unfold ConditionRefused conditionField
  cases f.field.filter (· ≠ "") with
  | none => simp
  | some name =>
    simp only [anyRefused_cons, anyRefused_nil, or_false, refused_conditionStep,
      Option.some.injEq, exists_eq', true_and]
    refine and_congr_right fun _ => ?_
    cases hoperand : f.operand with
    | plain v => exact refuses_plainConstraint hf hoperand name
    | constraint c => exact refuses_ok.trans (hc c hoperand)

theorem not_isEmpty_of_exists {fs : List Filter} (h : ∃ g ∈ fs, g.Refused) :
    fs.isEmpty = false := by
  obtain ⟨g, hg, -⟩ := h
  cases fs with
  | nil => cases hg
  | cons _ _ => rfl

/-- The lists of a filter in the groups that they are compiled into. -/
theorem anyRefused_groups {all any : List Filter} {xs ys : List Step}
    (hxs : AnyRefused xs ↔ ∃ g ∈ all, g.Refused) (hys : AnyRefused ys ↔ ∃ g ∈ any, g.Refused) :
    AnyRefused (groupUnless all.isEmpty xs ++ groupUnless any.isEmpty ys) ↔
      (∃ g ∈ all, g.Refused) ∨ ∃ g ∈ any, g.Refused := by
  rw [anyRefused_append, anyRefused_groupUnless, anyRefused_groupUnless, hxs, hys,
    and_iff_right_of_imp not_isEmpty_of_exists, and_iff_right_of_imp not_isEmpty_of_exists]

/-- A filter is not refused for what it searches. -/
theorem anyRefused_stepsWith_iff (hwild : ∀ w, ¬ AnyRefused (x.wildcard w)) (f : Filter) :
    AnyRefused (stepsWith x f) ↔ AnyRefused (memberWith x .and f) := by
  obtain ⟨field, operand, operator, subOperator, all, any, wildcard⟩ := f
  cases wildcard with
  | none => simp only [stepsWith, memberWith, List.append_nil]
  | some w =>
    have hsearch : ¬ AnyRefused (groupUnless w.fields.isEmpty (x.wildcard w)) :=
      fun h => hwild w (anyRefused_groupUnless.1 h).2
    simp only [stepsWith, memberWith, anyRefused_append, hsearch, or_false]

mutual

theorem anyRefused_memberWith (hwild : ∀ w, ¬ AnyRefused (x.wildcard w)) (join : Join)
    (f : Filter) (hf : Suits x f) : AnyRefused (memberWith x join f) ↔ f.Refused := by
  match f with
  | ⟨field, operand, operator, subOperator, all, any, wildcard⟩ =>
    have hcondition := anyRefused_condition hf (fun c hc => by
      subst hc
      exact (anyRefused_stepsWith_iff hwild c).trans
        (anyRefused_memberWith hwild .and c (hf.of_constraint rfl))) join
    have hgroups := anyRefused_groups (anyRefused_allWith hwild all fun g hg => hf.of_all hg)
      (anyRefused_anyWith hwild .and any fun g hg => hf.of_any hg)
    rw [memberWith, anyRefused_append, hcondition, hgroups, refused_iff]

theorem anyRefused_allWith (hwild : ∀ w, ¬ AnyRefused (x.wildcard w)) (fs : List Filter)
    (h : ∀ f ∈ fs, Suits x f) : AnyRefused (allWith x fs) ↔ ∃ f ∈ fs, f.Refused := by
  match fs with
  | [] => simp [allWith]
  | f :: rest =>
    rw [allWith, anyRefused_append, anyRefused_memberWith hwild .and f (h f List.mem_cons_self),
      anyRefused_allWith hwild rest fun g hg => h g (List.mem_cons_of_mem _ hg),
      List.exists_mem_cons_iff]

theorem anyRefused_anyWith (hwild : ∀ w, ¬ AnyRefused (x.wildcard w)) (join : Join)
    (fs : List Filter) (h : ∀ f ∈ fs, Suits x f) :
    AnyRefused (anyWith x join fs) ↔ ∃ f ∈ fs, f.Refused := by
  match fs with
  | [] => simp [anyWith]
  | f :: rest =>
    rw [anyWith, anyRefused_append, anyRefused_memberWith hwild join f (h f List.mem_cons_self),
      anyRefused_anyWith hwild .or rest fun g hg => h g (List.mem_cons_of_mem _ hg),
      List.exists_mem_cons_iff]

end

/-- A filter is refused when it is compiled exactly if a condition of it is. -/
theorem anyRefused_stepsWith (hwild : ∀ w, ¬ AnyRefused (x.wildcard w)) (hf : Suits x f) :
    AnyRefused (stepsWith x f) ↔ f.Refused :=
  (anyRefused_stepsWith_iff hwild f).trans (anyRefused_memberWith hwild .and f hf)

/-! ### Searches -/

section
variable {value : String} {fields relations : List String}

theorem not_refused_of_mem_chain (hf : f ∈ chain value fields relations) : ¬ f.Refused := by
  induction relations generalizing f with
  | nil =>
    obtain ⟨field, -, rfl⟩ := List.mem_map.1 hf
    intro h
    cases h with
    | value _ hop =>
      have hlike : Operator.ofToken "like" = .like := by decide
      cases hlike.symm.trans hop
    | constraint _ _ hc => cases hc
    | all hg => cases hg
    | any hg => cases hg
  | cons relation rest ih =>
    obtain rfl := List.mem_singleton.1 hf
    intro h
    cases h with
    | value _ _ _ hv => cases hv
    | all hg => cases hg
    | any hg => cases hg
    | constraint _ _ hc hr =>
      cases hc
      cases hr with
      | value hfield => cases hfield
      | constraint hfield => cases hfield
      | all hg => cases hg
      | any hg hr => exact ih hg hr

/-- What a search compares with is a text, and a constraint is a filter already. -/
theorem plain_of_mem_chain (hf : f ∈ chain value fields relations) {g : Filter}
    (hg : f.Contains g) {v : Value} (hv : g.operand = .plain v) :
    takesConstraint g.operator = false ∧ ∀ fields, v ≠ .obj fields := by
  induction relations generalizing f with
  | nil =>
    obtain ⟨field, -, rfl⟩ := List.mem_map.1 hf
    cases hg with
    | self =>
      cases hv
      exact ⟨(by decide : takesConstraint "like" = false), by rintro _ ⟨⟩⟩
    | all h => cases h
    | any h => cases h
    | constraint h => cases h
  | cons relation rest ih =>
    obtain rfl := List.mem_singleton.1 hf
    cases hg with
    | self => cases hv
    | all h => cases h
    | any h => cases h
    | constraint h hg =>
      cases h
      cases hg with
      | self =>
        cases hv
        exact ⟨(by decide : takesConstraint "=" = false), by rintro _ ⟨⟩⟩
      | all h => cases h
      | any h hg => exact ih h hg
      | constraint h => cases h

end

theorem exists_chain_of_mem_members {w : Wildcard} (hf : f ∈ w.members) :
    ∃ fields relations, f ∈ chain w.value fields relations := by
  obtain ⟨path, -, hf⟩ := List.mem_flatMap.1 hf
  exact ⟨_, _, hf⟩

/-- A search is never refused. -/
theorem not_anyRefused_wildcardSteps (w : Wildcard) : ¬ AnyRefused (wildcardSteps w) := by
  have hsuits : ∀ f ∈ w.members, Suits Expansion.bare f := by
    intro f hf g hg v hv
    obtain ⟨fields, relations, hf⟩ := exists_chain_of_mem_members hf
    obtain ⟨htakes, hobj⟩ := plain_of_mem_chain hf hg hv
    exact ⟨htakes, fun fields h => absurd h (hobj fields)⟩
  rw [wildcardSteps, anyRefused_anyWith (fun _ => anyRefused_nil) .and w.members hsuits]
  rintro ⟨f, hf, hr⟩
  obtain ⟨fields, relations, hf⟩ := exists_chain_of_mem_members hf
  exact not_refused_of_mem_chain hf hr

/-! ### Values that are read when they are compiled -/

theorem suits_of_read {reading : Reading} {d : Document} (h : readFilter reading d = .ok f)
    (hx : ∀ g fields, f.Contains g → g.operand = .plain (.obj fields) →
      (Refuses (x.constraint (.obj fields)) ↔
        ∀ c, Filter.ofValue (.obj fields) = .ok c → c.Refused)) : Suits x f := by
  intro g hg v hv
  obtain rfl | ⟨_, _, hread⟩ := exists_document_of_contains hg h
  · cases hv
    exact ⟨by decide, by rintro fields ⟨⟩⟩
  · refine ⟨(takesConstraint_of_plain hread hv).1, ?_⟩
    rintro fields rfl
    exact hx g fields hg hv

/-- A constraint is read as deep as it goes, so it is refused for what it says only. -/
theorem refuses_constraintSteps {n : Nat} {fields : List (String × Value)}
    (h : (Value.obj fields).depth ≤ n) : Refuses (constraintSteps n (.obj fields)) ↔
      ∀ c, Filter.ofValue (.obj fields) = .ok c → c.Refused := by
  induction n generalizing fields with
  | zero => simp [Value.depth] at h
  | succ n ih =>
    rw [constraintSteps]
    cases hread : Filter.ofValue (.obj fields) with
    | error fault => exact iff_of_true (refuses_error fault) fun c hc => by cases hc
    | ok c =>
      have hsuits : Suits ⟨wildcardSteps, constraintSteps n⟩ c := by
        refine suits_of_read hread fun g fields' hg hv => ih ?_
        refine depth_of_contains hg hread (fun v hv => ?_) hv
        have := depth_of_holds hv rfl
        omega
      refine refuses_ok.trans ((anyRefused_stepsWith not_anyRefused_wildcardSteps hsuits).trans ?_)
      simp

/-- A filter that was read is refused when it is compiled exactly if a condition of it is. -/
theorem anyRefused_steps {reading : Reading} {d : Document} (h : readFilter reading d = .ok f) :
    AnyRefused f.steps ↔ f.Refused :=
  anyRefused_stepsWith not_anyRefused_wildcardSteps
    (suits_of_read h fun _ _ _ _ => refuses_constraintSteps le_rfl)

end Filter

/-! ### Specifications -/

def Spec.Refused (s : Spec) : Prop := ∃ f, s.HasFilter f ∧ f.Refused

theorem refused_load {loads : List Load} :
    (Step.load loads).Refused ↔ ∃ l ∈ loads, AnyRefused l.body := by
  constructor
  · intro h
    cases h with
    | load hl hs hr => exact ⟨_, hl, _, hs, hr⟩
  · rintro ⟨l, hl, s, hs, hr⟩
    exact .load hl hs hr

theorem refused_countRelated {loads : List Load} :
    (Step.countRelated loads).Refused ↔ ∃ l ∈ loads, AnyRefused l.body := by
  constructor
  · intro h
    cases h with
    | countRelated hl hs hr => exact ⟨_, hl, _, hs, hr⟩
  · rintro ⟨l, hl, s, hs, hr⟩
    exact .countRelated hl hs hr

theorem not_anyRefused_selectSteps (select : List String) : ¬ AnyRefused (selectSteps select) := by
  rintro ⟨s, hs, hr⟩
  obtain rfl := List.mem_singleton.1 hs
  cases hr

theorem not_anyRefused_orderSteps (order : List OrderItem) : ¬ AnyRefused (orderSteps order) := by
  rintro ⟨s, hs, hr⟩
  obtain ⟨item, -, rfl⟩ := List.mem_map.1 hs
  cases hr

theorem not_anyRefused_scopeSteps (decl : ScopeDecl) : ¬ AnyRefused decl.steps := by
  rintro ⟨s, hs, hr⟩
  obtain ⟨call, -, rfl⟩ := List.mem_map.1 hs
  cases hr

theorem anyRefused_filterSteps {filter : Option Filter} :
    AnyRefused (filterSteps filter) ↔ ∃ f, filter = some f ∧ AnyRefused f.steps := by
  cases filter <;> simp [filterSteps]

theorem anyRefused_loadSteps {loads : List Load} :
    AnyRefused (loadSteps loads) ↔ ∃ l ∈ loads, AnyRefused l.body := by
  cases loads with
  | nil => simp [loadSteps]
  | cons l rest => simp [loadSteps, anyRefused_cons, refused_load]

theorem anyRefused_countBody (node : CountInclude) :
    AnyRefused node.body ↔ ∃ f, node.filter = some f ∧ AnyRefused f.steps := by
  rw [CountInclude.body, anyRefused_append, or_iff_left (not_anyRefused_scopeSteps _)]
  exact anyRefused_filterSteps

theorem anyRefused_countSteps {counts : List CountInclude} :
    AnyRefused (countSteps counts) ↔
      ∃ node ∈ counts, ∃ f, node.filter = some f ∧ AnyRefused f.steps := by
  simp only [← anyRefused_countBody]
  cases counts with
  | nil => simp [countSteps]
  | cons node rest =>
    simp [countSteps, anyRefused_cons, refused_countRelated, CountInclude.asLoad]

theorem hasFilter_iff {s : Spec} {f : Filter} : s.HasFilter f ↔ s.filter = some f ∨
    (∃ node ∈ s.counts, node.filter = some f) ∨ ∃ node ∈ s.includes, node.spec.HasFilter f := by
  constructor
  · intro h
    cases h with
    | own h => exact .inl h
    | counted hnode h => exact .inr (.inl ⟨_, hnode, h⟩)
    | included hnode h => exact .inr (.inr ⟨_, hnode, h⟩)
  · rintro (h | ⟨node, hnode, h⟩ | ⟨node, hnode, h⟩)
    · exact .own h
    · exact .counted hnode h
    · exact .included hnode h

mutual

/-- The steps of a level are refused for its filters, those of its counted relations and those of
its included levels. -/
theorem anyRefused_specSteps (s : Spec) :
    AnyRefused s.steps ↔ ∃ f, s.HasFilter f ∧ AnyRefused f.steps := by
  match s with
  | ⟨select, filter, order, includes, counts, scopes⟩ =>
    have hincludes := anyRefused_includeLoads includes
    rw [Spec.steps]
    simp only [anyRefused_append, not_anyRefused_selectSteps, not_anyRefused_orderSteps,
      not_anyRefused_scopeSteps, anyRefused_filterSteps, anyRefused_loadSteps,
      anyRefused_countSteps, hincludes, false_or, or_false]
    constructor
    · rintro ((⟨f, hf, h⟩ | ⟨node, hnode, f, hf, h⟩) | ⟨node, hnode, f, hf, h⟩)
      · exact ⟨f, .own hf, h⟩
      · exact ⟨f, .included hnode hf, h⟩
      · exact ⟨f, .counted hnode hf, h⟩
    · rintro ⟨f, hf, h⟩
      rcases hasFilter_iff.1 hf with hf | ⟨node, hnode, hf⟩ | ⟨node, hnode, hf⟩
      · exact .inl (.inl ⟨f, hf, h⟩)
      · exact .inr ⟨node, hnode, f, hf, h⟩
      · exact .inl (.inr ⟨node, hnode, f, hf, h⟩)

theorem anyRefused_includeLoads (nodes : List Include) :
    (∃ l ∈ Spec.includeLoads nodes, AnyRefused l.body) ↔
      ∃ node ∈ nodes, ∃ f, node.spec.HasFilter f ∧ AnyRefused f.steps := by
  match nodes with
  | [] => simp [Spec.includeLoads]
  | ⟨relation, spec⟩ :: rest =>
    rw [Spec.includeLoads, List.exists_mem_cons_iff, List.exists_mem_cons_iff,
      anyRefused_specSteps spec, anyRefused_includeLoads rest]

end

/-- A mapped specification is carried out by every builder whose own requests are never refused,
exactly if no condition is refused when it is compiled; and an operator that is recognised when a
condition is read has got its constraint then. -/
theorem total_run_iff_of_mapped {s : Spec} (hs : s.Mapped) :
    ((∀ {σ : Type} (b : Builder σ), b.Unfailing → (b.run s.steps).Total) ↔ ¬ s.Refused) ∧
      ∀ f, s.HasFilter f → ∀ g, f.Contains g → takesConstraint g.operator →
        ∃ c, g.operand = .constraint c := by
  constructor
  · rw [total_run_iff]
    have hrefused : AnyRefused s.steps ↔ s.Refused := by
      rw [anyRefused_specSteps]
      refine exists_congr fun f => and_congr_right fun hf => ?_
      obtain ⟨reading, d, hread⟩ := hs.exists_document hf
      exact Filter.anyRefused_steps hread
    rw [← hrefused, AnyRefused]
    simp only [not_exists, not_and]
  · intro f hf g hg htakes
    obtain ⟨reading, d, hread⟩ := hs.exists_document hf
    cases hoperand : g.operand with
    | constraint c => exact ⟨c, rfl⟩
    | plain v =>
      obtain rfl | ⟨_, _, hg⟩ := exists_document_of_contains hg hread
      · exact absurd htakes (by decide)
      · rw [(takesConstraint_of_plain hg hoperand).1] at htakes
        cases htakes

def onPosts (operator : String) (value : Value) : Value :=
  .obj [("where", .obj [("field", .str "posts"), ("operator", .str operator), ("value", value)])]

def namedPostsSpec : Spec :=
  { filter := some { field := some "posts", operator := "where_has",
                     operand := .constraint { field := some "name" } } }

theorem not_refused_namedPostsSpec : ¬ namedPostsSpec.Refused := by
  rintro ⟨f, hf, hr⟩
  cases hf with
  | counted hnode => cases hnode
  | included hnode => cases hnode
  | own hf =>
    cases hf
    cases hr with
    | value _ _ htakes => exact absurd htakes (by decide)
    | all hg => cases hg
    | any hg => cases hg
    | constraint _ _ hc hr =>
      cases hc
      cases hr with
      | value _ hop =>
        have hcompare : Operator.ofToken "=" = .compare "=" := by decide
        cases hcompare.symm.trans hop
      | constraint _ _ hc => cases hc
      | all hg => cases hg
      | any hg => cases hg

theorem total_run_namedPostsSpec : namedPostsSpec.Mapped ∧
    ∀ {σ : Type} (b : Builder σ), b.Unfailing → (b.run namedPostsSpec.steps).Total := by
  have hmapped : namedPostsSpec.Mapped :=
    .inr ⟨onPosts "where_has" (.obj [("field", .str "name")]), rfl⟩
  exact ⟨hmapped, (total_run_iff_of_mapped hmapped).1.2 not_refused_namedPostsSpec⟩

def lateText : String :=
  "\x7b\"where\":\x7b\"field\":\"posts\",\"operator\":\" where_has\",\"value\":true\x7d\x7d"

def lateSpec : Spec :=
  { filter := some { field := some "posts", operator := " where_has",
                     operand := .plain (.bool true) } }

theorem ofText_lateText : Spec.ofText lateText = .ok lateSpec := by
  have hblank : Text.isBlankText lateText = false := rfl
  have hread : Json.read lateText = some (onPosts " where_has" (.bool true)).document := rfl
  rw [Spec.ofText, hblank, hread]
  rfl

/-- It is mapped, asks for a constraint on related rows, and is refused after the first call. -/
theorem refused_late_lateText :
    Spec.ofText lateText = .ok lateSpec ∧ Operator.ofToken " where_has" = .whereHas .present ∧
      (Recorder.builder Recorder.permissive).Unfailing ∧
      (Recorder.builder Recorder.permissive).run lateSpec.steps
          { entity := { name := "User", table := "users" } } =
        .error (.malformed (.lateConstraintShape " where_has" "posts" (.bool true)))
          { entity := { name := "User", table := "users" }, calls := [.select ["users.*"]] } :=
  ⟨ofText_lateText, by decide, unfailing_recorder, rfl⟩

end RelationalQuery
