import RelationalQuery.Proofs.Building.Refusals

/-! Recordings under a rule. Steps record the calls that they would record without the rule, up to
the first that it refuses; nothing is recorded from there on, however deep that call stands. -/
namespace RelationalQuery

def Call.isClosing : Call → Bool
  | .closeGroup => true
  | .closeRelated => true
  | _ => false

namespace Rule

def Accepts (rule : Rule) : List Call → List Call → Prop
  | _, [] => True
  | before, call :: rest =>
    (call.isClosing = false → rule before call = none) ∧ rule.Accepts (before ++ [call]) rest

/-- One of the calls is refused with an error when they are made in order, after those before; the
first such call comes after those done. -/
def Stops (rule : Rule) (before calls done : List Call) (error : QueryError) : Prop :=
  ∃ call rest, calls = done ++ call :: rest ∧ rule.Accepts before done ∧
    call.isClosing = false ∧ rule (before ++ done) call = some error

variable {rule : Rule} {before xs ys done : List Call} {error : QueryError}

theorem accepts_append :
    rule.Accepts before (xs ++ ys) ↔ rule.Accepts before xs ∧ rule.Accepts (before ++ xs) ys := by
  induction xs generalizing before with
  | nil => simp [Accepts]
  | cons x xs ih => simp [Accepts, ih, and_assoc]

theorem Stops.append (h : rule.Stops before xs done error) (ys : List Call) :
    rule.Stops before (xs ++ ys) done error := by
  obtain ⟨call, rest, rfl, hdone, hcall⟩ := h
  exact ⟨call, rest ++ ys, by simp, hdone, hcall⟩

theorem Stops.prepend (hxs : rule.Accepts before xs)
    (h : rule.Stops (before ++ xs) ys done error) :
    rule.Stops before (xs ++ ys) (xs ++ done) error := by
  obtain ⟨call, rest, rfl, hdone, hclosing, hcall⟩ := h
  refine ⟨call, rest, by simp, accepts_append.2 ⟨hxs, hdone⟩, hclosing, ?_⟩
  rwa [← List.append_assoc]

theorem Stops.isPrefix (h : rule.Stops before xs done error) : done <+: xs := by
  obtain ⟨call, rest, rfl, -⟩ := h
  exact ⟨call :: rest, rfl⟩

end Rule

namespace Recorder

/-- What an action records without the rule is what `x` records under it, up to the first call that
is refused; there `x` ends with the rule's error. -/
def CutShort {α : Type} (rule : Rule) (x free : Building Recorder α) : Prop :=
  ∀ r, ∃ calls, (free.final r).calls = r.calls ++ calls ∧
    (rule.Accepts r.calls calls ∧ x r = free r ∨
      ∃ done error t, rule.Stops r.calls calls done error ∧
        x r = .error error t ∧ t.calls = r.calls ++ done)

section
variable {rule : Rule} {α β : Type}

/-- An action that no rule is asked about. -/
theorem cutShort_of_accepts {x : Building Recorder α}
    (h : ∀ r, ∃ calls, (x.final r).calls = r.calls ++ calls ∧ rule.Accepts r.calls calls) :
    CutShort rule x x := by
  intro r
  obtain ⟨calls, hcalls, haccepts⟩ := h r
  exact ⟨calls, hcalls, .inl ⟨haccepts, rfl⟩⟩

theorem cutShort_pure (a : α) : CutShort rule (pure a) (pure a) :=
  cutShort_of_accepts fun r => ⟨[], (List.append_nil r.calls).symm, trivial⟩

theorem cutShort_throw (error : QueryError) :
    CutShort rule (throw error : Building Recorder α) (throw error) :=
  cutShort_of_accepts fun r => ⟨[], (List.append_nil r.calls).symm, trivial⟩

theorem cutShort_register (loads : List Load) : CutShort rule (register loads) (register loads) :=
  cutShort_of_accepts fun r => ⟨[], (List.append_nil r.calls).symm, trivial⟩

theorem cutShort_close {call : Call} (h : call.isClosing = true) :
    CutShort rule (modify (note call)) (modify (note call)) :=
  cutShort_of_accepts fun _ => ⟨[call], rfl, by simp [h], trivial⟩

theorem cutShort_record {call : Call} (h : call.isClosing = false) :
    CutShort rule (record rule call) (record permissive call) := by
  intro r
  refine ⟨[call], rfl, ?_⟩
  cases hrule : rule r.calls call with
  | none =>
    refine .inl ⟨⟨fun _ => hrule, trivial⟩, ?_⟩
    simp only [record, hrule, permissive]
  | some error =>
    refine .inr ⟨[], error, r, ⟨call, [], rfl, trivial, h, ?_⟩, ?_, by simp⟩
    · rwa [List.append_nil]
    · simp only [record, hrule]

theorem CutShort.bind {x free : Building Recorder α} {f g : α → Building Recorder β}
    (hx : CutShort rule x free) (hf : ∀ a, CutShort rule (f a) (g a)) :
    CutShort rule (x >>= f) (free >>= g) := by
  intro r
  obtain ⟨calls, hcalls, hcases⟩ := hx r
  cases hfree : free r with
  | error error s =>
    -- Nothing follows, with the rule or without it.
    rw [Building.final_of_error hfree] at hcalls
    refine ⟨calls, ?_, ?_⟩
    · rw [Building.final_of_error (Building.bind_of_error hfree), hcalls]
    · obtain ⟨haccepts, heq⟩ | ⟨done, error', t, hstops, ht, hdone⟩ := hcases
      · have hx : x r = .error error s := heq.trans hfree
        exact .inl ⟨haccepts, by rw [Building.bind_of_error hx, Building.bind_of_error hfree]⟩
      · exact .inr ⟨done, error', t, hstops, Building.bind_of_error ht, hdone⟩
  | ok a s =>
    rw [Building.final_of_ok hfree] at hcalls
    obtain ⟨calls', hcalls', hcases'⟩ := hf a s
    have hfinal : (free >>= g).final r = (g a).final s := by
      simp only [Building.final, Building.bind_of_ok hfree]
    refine ⟨calls ++ calls', by rw [hfinal, hcalls', hcalls, List.append_assoc], ?_⟩
    obtain ⟨haccepts, heq⟩ | ⟨done, error, t, hstops, ht, hdone⟩ := hcases
    · have hx : (x >>= f) r = f a s := Building.bind_of_ok (heq.trans hfree)
      rw [hcalls] at hcases'
      rw [hx, Building.bind_of_ok hfree]
      obtain ⟨haccepts', heq'⟩ | ⟨done, error, t, hstops, ht, hdone⟩ := hcases'
      · exact .inl ⟨Rule.accepts_append.2 ⟨haccepts, haccepts'⟩, heq'⟩
      · refine .inr ⟨calls ++ done, error, t, hstops.prepend haccepts, ht, ?_⟩
        rw [hdone, List.append_assoc]
    · exact .inr ⟨done, error, t, hstops.append calls', Building.bind_of_error ht, hdone⟩

variable (rule)

/-- The queries that count are not carried out, so what shapes them is not recorded. -/
theorem step_countRelated (loads : List Load) :
    (builder rule).step (.countRelated loads) =
      (do record rule (.countRelated (loads.map (·.relation))); register loads) := by
  have hrelations : ((builder rule).counted loads).map (·.1.relation) = loads.map (·.relation) := by
    simp [Builder.counted_eq_map, Function.comp_def]
  have hloads : ((builder rule).counted loads).map (·.1) = loads := by
    simp [Builder.counted_eq_map, Function.comp_def]
  change (record rule (.countRelated (((builder rule).counted loads).map (·.1.relation))) >>=
    fun _ => register (((builder rule).counted loads).map (·.1))) = _
  rw [hrelations, hloads]

mutual

/-- A step asks the rule about every call it makes, and about those of the steps inside it. -/
theorem cutShort_step (s : Step) :
    CutShort rule ((builder rule).step s) ((builder permissive).step s) := by
  match s with
  | .select columns => exact cutShort_record rfl
  | .project selection => exact fun r => cutShort_record rfl r
  | .orderBy field direction => exact cutShort_record rfl
  | .filter join predicate => exact cutShort_record rfl
  | .group join body =>
    exact (cutShort_record rfl).bind fun _ =>
      (cutShort_run body).bind fun _ => cutShort_close rfl
  | .has join relation types existence operator count => exact fun r => cutShort_record rfl r
  | .whereHas join relation types existence body =>
    have hbody := cutShort_run body
    intro r
    exact ((cutShort_record rfl).bind fun _ => hbody.bind fun _ => cutShort_close rfl) r
  | .load loads => exact (cutShort_record rfl).bind fun _ => cutShort_register loads
  | .countRelated loads =>
    rw [step_countRelated, step_countRelated]
    exact (cutShort_record rfl).bind fun _ => cutShort_register loads
  | .callScope name args => exact cutShort_record rfl
  | .fail error => exact cutShort_throw error

theorem cutShort_run (steps : List Step) :
    CutShort rule ((builder rule).run steps) ((builder permissive).run steps) := by
  match steps with
  | [] => exact cutShort_pure ()
  | s :: rest => exact (cutShort_step s).bind fun _ => cutShort_run rest

end
end

end Recorder
end RelationalQuery
