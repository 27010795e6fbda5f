import RelationalQuery.Proofs.Filter.Compiled

/-! When a list of which some member must hold is compiled to just that. A later member without a
direct condition is conjoined with the members before it, so it takes a condition of its own to be
an alternative. -/
namespace RelationalQuery.Filter

open Sql

theorem joinedValue_false {ds vs : List Bool} (h : ∀ v ∈ vs, v = false) :
    joinedValue false ((ds.zip vs).map (asJoined Prod.fst Prod.snd)) = false := by
  induction ds generalizing vs with
  | nil => rfl
  | cons d ds ih =>
    cases vs with
    | nil => rfl
    | cons v vs =>
      have hv : v = false := h v (by simp)
      have hvs : ∀ w ∈ vs, w = false := fun w hw => h w (by simp [hw])
      have ih := ih hvs
      cases d <;> simpa [asJoined, joinedValue, hv] using ih

theorem joinedValue_of_starts {ds : List Bool} (h : ∀ d ∈ ds, d = true) (sofar : Bool)
    {vs : List Bool} (hlen : vs.length = ds.length) :
    joinedValue sofar ((ds.zip vs).map (asJoined Prod.fst Prod.snd)) = (sofar || vs.any id) := by
  induction ds generalizing sofar vs with
  | nil => simp [List.length_eq_zero_iff.1 hlen, joinedValue]
  | cons d ds ih =>
    cases vs with
    | nil => cases hlen
    | cons v vs =>
      have hd : d = true := h d (by simp)
      have ih := ih (fun d hd => h d (by simp [hd])) v (by simpa using hlen)
      simp [asJoined, joinedValue, hd, ih]

/-- Runs are alternatives for all values there can be only if each is one item long. -/
theorem starts_of_joinedValue {ds : List Bool}
    (h : ∀ sofar (vs : List Bool), vs.length = ds.length →
      joinedValue sofar ((ds.zip vs).map (asJoined Prod.fst Prod.snd)) = (sofar || vs.any id)) :
    ∀ d ∈ ds, d = true := by
  induction ds with
  | nil => simp
  | cons d ds ih =>
    have hd : d = true := by
      cases d with
      | true => rfl
      | false =>
        -- Nothing holds but the item that does not start a run.
        have hlone := h false (true :: List.replicate ds.length false) (by simp)
        have hrest : joinedValue false
            ((ds.zip (List.replicate ds.length false)).map (asJoined Prod.fst Prod.snd)) = false :=
          joinedValue_false fun v hv => (List.mem_replicate.1 hv).2
        simp [asJoined, joinedValue, hrest] at hlone
    intro d' hd'
    rcases List.mem_cons.1 hd' with rfl | hd'
    · exact hd
    · refine ih (fun sofar vs hlen => ?_) d' hd'
      have hnext := h false (sofar :: vs) (by simpa using hlen)
      simpa [asJoined, joinedValue, hd] using hnext

/-- Whatever the members of a group say, the group says that some of them holds. -/
def IsDisjunction (members : List Filter) : Prop :=
  ∀ values : List Bool, values.length = members.length →
    someBlock ((members.map (·.conditionField.isSome)).zip values) = values.any id

theorem isDisjunction_iff {f : Filter} {rest : List Filter} :
    IsDisjunction (f :: rest) ↔ ∀ g ∈ rest, g.conditionField.isSome := by
  have hcons (v : Bool) (vs : List Bool) :
      someBlock (((f :: rest).map (·.conditionField.isSome)).zip (v :: vs)) =
        joinedValue v (((rest.map (·.conditionField.isSome)).zip vs).map
          (asJoined Prod.fst Prod.snd)) := by
    rw [someBlock, ← listValue_map_asJoined]
    rfl
  constructor
  · intro h
    have hstarts : ∀ d ∈ rest.map (·.conditionField.isSome), d = true := by
      refine starts_of_joinedValue fun v vs hlen => ?_
      rw [← hcons, h (v :: vs) (by simpa using hlen)]
      rfl
    intro g hg
    exact hstarts _ (List.mem_map.2 ⟨g, hg, rfl⟩)
  · intro h values hlen
    cases values with
    | nil => cases hlen
    | cons v vs =>
      have hstarts : ∀ d ∈ rest.map (·.conditionField.isSome), d = true := by
        intro d hd
        obtain ⟨g, hg, rfl⟩ := List.mem_map.1 hd
        exact h g hg
      rw [hcons, joinedValue_of_starts hstarts v (by simpa using hlen)]
      rfl

theorem memberValues_of_contributes {q : Query} {truth : Condition → Bool} {members : List Filter}
    (h : ∀ f ∈ members, f.contributes = true) :
    memberValues q truth members =
      (members.map (·.conditionField.isSome)).zip (members.map (·.memberValue q truth)) := by
  induction members with
  | nil => rfl
  | cons f rest ih =>
    rw [memberValues, if_pos (h f (by simp)), ih fun g hg => h g (by simp [hg])]
    rfl

/-- A list of which some member must hold, each with something to say: the group that is compiled
for it says that one of its blocks holds. It says that a member holds, whatever the members say,
exactly if every member after the first has a direct condition. -/
theorem value_run_anyGroup (truth : Condition → Bool) {q t : Query} {f : Filter}
    {rest : List Filter} (hcontributes : ∀ g ∈ f :: rest, g.contributes = true)
    (h : Query.run [.group .and (anyWith expansion .and (f :: rest))] q = .ok () t) :
    ∃ c, t = q.push .and c ∧
      c.value truth = someBlock (((f :: rest).map (·.conditionField.isSome)).zip
        ((f :: rest).map (·.memberValue q truth))) ∧
      (IsDisjunction (f :: rest) ↔ ∀ g ∈ rest, g.conditionField.isSome) ∧
      ((∀ g ∈ rest, g.conditionField.isSome) →
        (c.value truth ↔ ∃ g ∈ f :: rest, g.memberValue q truth)) := by
  have hgroup := (adds_anyWith q truth .and (f :: rest)).group
  obtain ⟨cs, rfl, hcs, -, -⟩ := hgroup q t rfl h
  have hne : anyEntries q truth .and (f :: rest) ≠ [] := by
    rw [ne_eq, anyEntries_eq_nil, anyContributes, hcontributes f (by simp)]
    simp
  have hvalue := listValue_anyEntries q truth .and (f :: rest)
  rw [memberValues_of_contributes hcontributes] at hvalue
  rw [groupEntries, if_neg (by simpa using hne), hvalue] at hcs
  obtain ⟨c, rfl, hc⟩ : ∃ c, cs = [⟨.and, c⟩] ∧ c.value truth = _ := values_eq_singleton hcs
  refine ⟨c, rfl, hc, isDisjunction_iff, fun hdirect => ?_⟩
  have hdisjunction := (isDisjunction_iff (f := f)).2 hdirect
    ((f :: rest).map (·.memberValue q truth)) (by simp)
  rw [hc, hdisjunction]
  simp

def single : Filter := .condition "a" "=" (.num (.int 1))

def pair : Filter :=
  { all := [.condition "b" "=" (.num (.int 2)), .condition "c" "=" (.num (.int 3))] }

theorem value_run_pair_single :
    (∀ g ∈ [pair, single], g.contributes = true) ∧
    Query.run [.group .and (anyWith expansion .and [pair, single])] nodes =
      .ok () ((Query.run (anyOf [pair, single]).steps).final nodes) ∧
    ∀ truth : Condition → Bool, ∃ c,
      (Query.run (anyOf [pair, single]).steps).final nodes = nodes.push .and c ∧
      (c.value truth ↔ ∃ g ∈ [pair, single], g.memberValue nodes truth) := by
  have hcontributes : ∀ g ∈ [pair, single], g.contributes = true := by decide +kernel
  have hrun := Building.ok_of_succeeds (s := nodes)
    (x := Query.run [.group .and (anyWith expansion .and [pair, single])]) (by decide +kernel)
  refine ⟨hcontributes, hrun, fun truth => ?_⟩
  obtain ⟨c, ht, -, -, hc⟩ := value_run_anyGroup truth hcontributes hrun
  exact ⟨c, ht, hc (by decide +kernel)⟩

def onlyA : Condition → Bool
  | .compare field _ _ => field == "a"
  | .isNull .. => true
  | _ => false

/-- In the other order the first member holds, and yet the tree does not. -/
theorem clausesValue_single_pair :
    (Query.run (anyOf [single, pair]).steps).succeeds nodes = true ∧
    clausesValue onlyA nodes.clauses = true ∧
    [single, pair].all contributes = true ∧
    [single, pair].any (·.memberValue nodes onlyA) = true ∧
    clausesValue onlyA ((Query.run (anyOf [single, pair]).steps).final nodes).clauses = false := by
  decide +kernel

end RelationalQuery.Filter
