import RelationalQuery.Compile.Spec
import RelationalQuery.Proofs.Building.Recording
import RelationalQuery.Proofs.Filter.Meaning

/-! What compiling a specification records under a rule: what it records without it, up to the
first call that is refused. Only its scopes call scopes, so an unknown one is met after everything
else. -/
namespace RelationalQuery

open Json (Value)

/-! ### Steps of filters -/

structure Filter.Closed (P : Step → Prop) : Prop where
  filter : ∀ join predicate, P (.filter join predicate)
  group : ∀ {body}, (∀ s ∈ body, P s) → P (.group .and body)
  has : ∀ join relation types existence operator count,
    P (.has join relation types existence operator count)
  whereHas : ∀ join relation types existence {body}, (∀ s ∈ body, P s) →
    P (.whereHas join relation types existence body)
  fail : ∀ error, P (.fail error)

structure Expansion.Keeps (x : Expansion) (P : Step → Prop) : Prop where
  wildcard : ∀ w, ∀ s ∈ x.wildcard w, P s
  constraint : ∀ v steps, x.constraint v = .ok steps → ∀ s ∈ steps, P s

namespace Filter
variable {P : Step → Prop} {x : Expansion}

theorem Closed.forall_groupUnless (hP : Closed P) {isEmpty : Bool} {body : List Step}
    (h : ∀ s ∈ body, P s) : ∀ s ∈ groupUnless isEmpty body, P s := by
  intro s hs
  cases isEmpty with
  | true => cases hs
  | false =>
    rw [List.mem_singleton.1 hs]
    exact hP.group h

theorem Closed.of_conditionStep (hP : Closed P) {body : Except SpecFault (List Step)}
    (h : ∀ steps, body = .ok steps → ∀ s ∈ steps, P s)
    (join : Join) (field operator subOperator : String) (value : Value) :
    P (conditionStep join field operator subOperator value body) := by
  unfold conditionStep
  cases Operator.ofToken operator with
  | has existence => exact hP.has ..
  | whereHas existence =>
    cases body with
    | error fault => exact hP.fail _
    | ok steps => exact hP.whereHas _ _ _ _ (h steps rfl)
  | _ => exact hP.filter ..

theorem forall_plainConstraint (hx : x.Keeps P) {operator field : String} {v : Value}
    {steps : List Step} (h : plainConstraint x operator field v = .ok steps) :
    ∀ s ∈ steps, P s := by
  cases v with
  | null =>
    cases h
    exact fun s hs => absurd hs List.not_mem_nil
  | obj fields => exact hx.constraint _ steps h
  | _ => cases h

theorem Closed.forall_conditionWith (hP : Closed P) (hx : x.Keeps P) {operand : Operand Filter}
    (hc : ∀ c, operand = .constraint c → ∀ s ∈ stepsWith x c, P s)
    (join : Join) (field : Option String) (operator subOperator : String) :
    ∀ s ∈ conditionWith x join field operand operator subOperator, P s := by
  rw [conditionWith_eq]
  cases field.filter (· ≠ "") with
  | none => exact fun s hs => absurd hs List.not_mem_nil
  | some name =>
    intro s hs
    rw [List.mem_singleton.1 hs]
    refine hP.of_conditionStep (fun steps h => ?_) ..
    cases operand with
    | plain v => exact forall_plainConstraint hx h
    | constraint c =>
      cases h
      exact hc c rfl

/-- A whole filter has its search besides what it has as a member of a list. -/
theorem Closed.forall_stepsWith_of_member (hP : Closed P) (hx : x.Keeps P) {f : Filter}
    (h : ∀ s ∈ memberWith x .and f, P s) : ∀ s ∈ stepsWith x f, P s := by
  obtain ⟨field, operand, operator, subOperator, all, any, wildcard⟩ := f
  cases wildcard with
  | none =>
    rw [stepsWith, List.append_nil]
    rwa [memberWith] at h
  | some w =>
    rw [memberWith] at h
    intro s hs
    rw [stepsWith] at hs
    rcases List.mem_append.1 hs with hs | hs
    · exact h s hs
    · exact hP.forall_groupUnless (hx.wildcard w) s hs

mutual

theorem Closed.forall_memberWith (hP : Closed P) (hx : x.Keeps P) (join : Join) (f : Filter) :
    ∀ s ∈ memberWith x join f, P s := by
  match f with
  | ⟨field, operand, operator, subOperator, all, any, wildcard⟩ =>
    have hconstraint : ∀ c, operand = .constraint c → ∀ s ∈ stepsWith x c, P s := by
      intro c hc
      subst hc
      exact hP.forall_stepsWith_of_member hx (hP.forall_memberWith hx .and c)
    intro s hs
    simp only [memberWith, List.mem_append] at hs
    rcases hs with hs | hs | hs
    · exact hP.forall_conditionWith hx hconstraint join field operator subOperator s hs
    · exact hP.forall_groupUnless (hP.forall_allWith hx all) s hs
    · exact hP.forall_groupUnless (hP.forall_anyWith hx .and any) s hs

theorem Closed.forall_allWith (hP : Closed P) (hx : x.Keeps P) (fs : List Filter) :
    ∀ s ∈ allWith x fs, P s := by
  match fs with
  | [] => simp [allWith]
  | f :: rest =>
    intro s hs
    rw [allWith] at hs
    rcases List.mem_append.1 hs with hs | hs
    · exact hP.forall_memberWith hx .and f s hs
    · exact hP.forall_allWith hx rest s hs

theorem Closed.forall_anyWith (hP : Closed P) (hx : x.Keeps P) (join : Join) (fs : List Filter) :
    ∀ s ∈ anyWith x join fs, P s := by
  match fs with
  | [] => simp [anyWith]
  | f :: rest =>
    intro s hs
    rw [anyWith] at hs
    rcases List.mem_append.1 hs with hs | hs
    · exact hP.forall_memberWith hx join f s hs
    · exact hP.forall_anyWith hx .or rest s hs

end

theorem Closed.forall_stepsWith (hP : Closed P) (hx : x.Keeps P) (f : Filter) :
    ∀ s ∈ stepsWith x f, P s :=
  hP.forall_stepsWith_of_member hx (hP.forall_memberWith hx .and f)

theorem Closed.forall_wildcardSteps (hP : Closed P) (w : Wildcard) :
    ∀ s ∈ wildcardSteps w, P s := by
  have hbare : Expansion.bare.Keeps P := by
    refine ⟨fun _ s hs => absurd hs List.not_mem_nil, fun _ steps h => ?_⟩
    cases h
    exact fun s hs => absurd hs List.not_mem_nil
  exact hP.forall_anyWith hbare .and w.members

theorem Closed.forall_constraintSteps (hP : Closed P) (depth : Nat) (v : Value) (steps : List Step)
    (h : constraintSteps depth v = .ok steps) : ∀ s ∈ steps, P s := by
  induction depth generalizing v steps with
  | zero => cases h
  | succ depth ih =>
    rw [constraintSteps] at h
    cases hread : Filter.ofValue v with
    | error fault =>
      rw [hread] at h
      cases h
    | ok f =>
      rw [hread] at h
      cases h
      exact hP.forall_stepsWith ⟨hP.forall_wildcardSteps, ih⟩ f

theorem Closed.forall_steps (hP : Closed P) (f : Filter) : ∀ s ∈ f.steps, P s :=
  hP.forall_stepsWith ⟨hP.forall_wildcardSteps, fun v => hP.forall_constraintSteps v.depth v⟩ f

end Filter

namespace Recorder

/-! ### Unknown scopes -/

section
variable (entity : String) (known : List String)

def IgnoresScopes (s : Step) : Prop :=
  (builder (knownScopes entity known)).step s = (builder permissive).step s

theorem run_congr {steps : List Step} (h : ∀ s ∈ steps, IgnoresScopes entity known s) :
    (builder (knownScopes entity known)).run steps = (builder permissive).run steps := by
  induction steps with
  | nil => rfl
  | cons s rest ih =>
    rw [Builder.run, Builder.run, h s (by simp), ih fun s hs => h s (by simp [hs])]

theorem closed_ignoresScopes : Filter.Closed (IgnoresScopes entity known) where
  filter _ _ := rfl
  group hbody := by
    have hrun := run_congr entity known hbody
    unfold IgnoresScopes
    rw [Builder.step, hrun]
    rfl
  has _ _ _ _ _ _ := rfl
  whereHas join relation types existence body hbody := by
    have hrun := run_congr entity known hbody
    unfold IgnoresScopes
    rw [Builder.step, hrun]
    rfl
  fail _ := rfl

/-- What comes before the scopes calls none. -/
theorem ignoresScopes_of_mem_unscoped {spec : Spec} {s : Step}
    (h : s ∈ { spec with scopes := .listed [] }.steps) : IgnoresScopes entity known s := by
  rw [Spec.steps_eq] at h
  obtain ⟨sect, -, h⟩ := List.mem_flatMap.1 h
  cases sect with
  | select =>
    rw [List.mem_singleton.1 h]
    rfl
  | filter =>
    obtain ⟨select, filter, order, includes, counts, scopes⟩ := spec
    cases filter with
    | none => cases h
    | some f => exact (closed_ignoresScopes entity known).forall_steps f s h
  | order =>
    obtain ⟨item, -, rfl⟩ := List.mem_map.1 h
    rfl
  | includes =>
    simp only [Spec.sectionSteps, loadSteps] at h
    split at h
    · cases h
    · rw [List.mem_singleton.1 h]
      rfl
  | counts =>
    simp only [Spec.sectionSteps, countSteps] at h
    split at h
    · cases h
    · rw [List.mem_singleton.1 h]
      unfold IgnoresScopes
      rw [step_countRelated, step_countRelated]
      rfl
  | scopes => cases h

/-- Known scopes are called in order, up to the first that is unknown. -/
theorem run_callScope {calls : List (String × List Value)} (h : ∀ call ∈ calls, call.1 ∈ known)
    {name : String} (hname : name ∉ known) (args : List Value)
    (rest : List (String × List Value)) (r : Recorder) :
    (builder (knownScopes entity known)).run
        ((calls ++ (name, args) :: rest).map fun (name, args) => .callScope name args) r =
      .error (.unknownScope name entity)
        { r with calls := r.calls ++ calls.map fun call => .scope call.1 call.2 } := by
  induction calls generalizing r with
  | nil =>
    have hrefused : record (knownScopes entity known) (.scope name args) r =
        .error (.unknownScope name entity) r := by
      simp [record, knownScopes, hname]
    refine (Building.bind_of_error hrefused).trans ?_
    simp
  | cons call calls ih =>
    have hcall : record (knownScopes entity known) (.scope call.1 call.2) r =
        .ok () (r.note (.scope call.1 call.2)) := by
      simp [record, knownScopes, h call (by simp)]
    have hrest := ih (fun c hc => h c (by simp [hc])) (r.note (.scope call.1 call.2))
    refine (Building.bind_of_ok hcall).trans (hrest.trans ?_)
    simp [note]

end

/-- Compiling under a rule records the calls that it records without the rule, up to the first that
is refused, and ends with the error of the refusal; where none is refused, nothing is different. If
a scope is the first that is unknown, everything before the scopes is carried out, and the scopes
before it. -/
theorem recorded_up_to_refusal (rule : Rule) (spec : Spec) (r : Recorder) :
    (((builder rule).run spec.steps).final r).calls <+:
      (((builder permissive).run spec.steps).final r).calls ∧
    (∃ calls, (((builder permissive).run spec.steps).final r).calls = r.calls ++ calls ∧
      (rule.Accepts r.calls calls ∧
          (builder rule).run spec.steps r = (builder permissive).run spec.steps r ∨
        ∃ done error t, rule.Stops r.calls calls done error ∧
          (builder rule).run spec.steps r = .error error t ∧ t.calls = r.calls ++ done)) ∧
    ∀ (entity : String) (known : List String) (before : List (String × List Value)) (name : String)
      (args : List Value) (after : List (String × List Value)) (s : Recorder),
      spec.scopes.calls = before ++ (name, args) :: after →
      (∀ call ∈ before, call.1 ∈ known) → name ∉ known →
      (builder permissive).run { spec with scopes := .listed [] }.steps r = .ok () s →
      (builder (knownScopes entity known)).run spec.steps r =
        .error (.unknownScope name entity)
          { s with calls := s.calls ++ before.map fun call => .scope call.1 call.2 } := by
  have hcut := cutShort_run rule spec.steps r
  refine ⟨?_, hcut, ?_⟩
  · obtain ⟨calls, hcalls, ⟨-, heq⟩ | ⟨done, error, t, hstops, ht, hdone⟩⟩ := hcut
    · simp only [Building.final, heq]
      exact List.prefix_rfl
    · rw [Building.final_of_error ht, hdone, hcalls]
      exact (List.prefix_append_right_inj _).2 hstops.isPrefix
  · intro entity known before name args after s hscopes hbefore hname hs
    have hsteps : spec.steps = { spec with scopes := .listed [] }.steps ++ spec.scopes.steps := by
      obtain ⟨select, filter, order, includes, counts, scopes⟩ := spec
      simp only [Spec.steps]
      exact congrArg (· ++ _) (List.append_nil _).symm
    have hunscoped : (builder (knownScopes entity known)).run _ = (builder permissive).run
        { spec with scopes := .listed [] }.steps :=
      run_congr entity known fun s hs => ignoresScopes_of_mem_unscoped entity known hs
    rw [hsteps, Builder.run_append, hunscoped]
    refine (Building.bind_of_ok hs).trans ?_
    rw [ScopeDecl.steps, hscopes]
    exact run_callScope entity known hbefore hname args after s

def scopedSpec : Spec :=
  { filter := some (.anyOf [.condition "name" "not_null" .null])
    scopes := .named [("active", .none), ("lost", .number (.int 2)), ("recent", .none)] }

def users : Recorder := { entity := { name := "User", table := "users" } }

/-- Of the scopes the second is unknown, so the third is not called. -/
theorem recorded_scopedSpec :
    (builder (knownScopes "User" ["active", "recent"])).run scopedSpec.steps users =
      .error (.unknownScope "lost" "User")
        { users with calls := [.select ["users.*"], .openGroup .and,
          .filter .and (.isNull "name" true), .closeGroup, .scope "active" []] } := by
  have hactive : ∀ call ∈ [("active", ([] : List Value))], call.1 ∈ ["active", "recent"] := by
    simp
  exact (recorded_up_to_refusal (knownScopes "User" ["active", "recent"]) scopedSpec users).2.2
    "User" ["active", "recent"] [("active", [])] "lost" _ [("recent", [])] _ rfl hactive
    (by decide) rfl

end Recorder
end RelationalQuery
