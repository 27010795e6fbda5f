import RelationalQuery.Proofs.Spec.Structures

/-! What a specification that was read is made of: each of its filters was read from some document,
as were the filters within, and an operator that takes a constraint was given one. -/
namespace RelationalQuery

open Json (Document Value)

/-- The filter itself, its members at any depth, and the constraints of all of these. -/
inductive Filter.Contains : Filter → Filter → Prop
  | self (f : Filter) : Contains f f
  | all {f g h : Filter} : g ∈ f.all → Contains g h → Contains f h
  | any {f g h : Filter} : g ∈ f.any → Contains g h → Contains f h
  | constraint {f c h : Filter} : f.operand = .constraint c → Contains c h → Contains f h

inductive Spec.HasFilter : Spec → Filter → Prop
  | own {s : Spec} {f : Filter} : s.filter = some f → HasFilter s f
  | counted {s : Spec} {node : CountInclude} {f : Filter} : node ∈ s.counts →
    node.filter = some f → HasFilter s f
  | included {s : Spec} {node : Include} {f : Filter} : node ∈ s.includes →
    HasFilter node.spec f → HasFilter s f

/-! ### Filters -/

theorem of_mem_readList {α : Type} {item : Document → Except SpecFault α} {d : Document}
    {xs : List α} {x : α} (h : readList item d = .ok xs) (hx : x ∈ xs) :
    ∃ c ∈ d.children, item c = .ok x := by
  cases d with
  | null =>
    cases h
    cases hx
  | arr items => exact exists_mem_of_forall₂ (Except.forall₂_of_mapM h) hx
  | _ => cases h

theorem readFilter_of_readFilter? {reading : Reading} {d : Document} {f : Filter}
    (h : readFilter? reading d = .ok (some f)) : readFilter reading d = .ok f := by
  cases d with
  | null => cases h
  | _ =>
    simp only [readFilter?] at h
    obtain ⟨g, hg, heq⟩ := Except.map_eq_ok.1 h
    cases heq
    exact hg

section
variable {reading : Reading} {d : Document} {f : Filter}

/-- A filter that was read is put together from its parts. -/
theorem exists_parts_of_readFilter (h : readFilter reading d = .ok f) : ∃ parts,
    readParts reading filterShape (filterPart constraintIn reading) d = .ok parts ∧
      FilterPart.build constraintIn parts = .ok f := by
  rw [readFilter, readFilterWith_eq] at h
  exact Except.bind_eq_ok.1 h

theorem build_eq_ok {parts : List FilterPart} (h : FilterPart.build constraintIn parts = .ok f) :
    let draft := parts.foldl FilterDraft.add {}
    f.all = draft.all ∧ f.any = draft.any ∧
      operandOf (fun v => (constraintIn v).toOption) f.operator draft.value = some f.operand := by
  have hbuild := toOption_build constraintIn parts
  rw [h] at hbuild
  obtain ⟨operand, hoperand, heq⟩ := Option.map_eq_some_iff.1 hbuild.symm
  cases heq
  exact ⟨rfl, rfl, hoperand⟩

/-- A list of filters among the parts was read from a list of documents. -/
theorem exists_document_of_list {parts : List FilterPart} {fs : List Filter}
    (hparts : readParts reading filterShape (filterPart constraintIn reading) d = .ok parts)
    (hfs : .all fs ∈ parts ∨ .any fs ∈ parts) {g : Filter} (hg : g ∈ fs) :
    ∃ c ∈ d.children, ∃ x ∈ c.children, readFilter reading x = .ok g := by
  have hlist : ∃ c ∈ d.children, readList (readFilter reading) c = .ok fs := by
    rcases hfs with hfs | hfs
    all_goals
      obtain ⟨slot, c, hc, hpart⟩ := part_of_readParts hparts hfs
      simp only [filterPart, filterMember] at hpart
      split_ifs at hpart <;> obtain ⟨gs, hgs, heq⟩ := Except.map_eq_ok.1 hpart <;> cases heq
      exact ⟨c, hc, hgs⟩
  obtain ⟨c, hc, hread⟩ := hlist
  obtain ⟨x, hx, hread⟩ := of_mem_readList hread hg
  exact ⟨c, hc, x, hx, hread⟩

/-- The members of a filter's lists were read from documents within its own. -/
theorem exists_document_of_mem (h : readFilter reading d = .ok f) {g : Filter}
    (hg : g ∈ f.all ∨ g ∈ f.any) :
    ∃ c ∈ d.children, ∃ x ∈ c.children, readFilter reading x = .ok g := by
  obtain ⟨parts, hparts, hbuild⟩ := exists_parts_of_readFilter h
  obtain ⟨hall, hany, -⟩ := build_eq_ok hbuild
  rcases hg with hg | hg
  · rcases start_or_part_of_foldl FilterDraft.add FilterDraft.all .all
      (by rintro s (_ | _) <;> first | exact .inl rfl | exact .inr rfl) parts {} with hnil | hmem
    · rw [hall, hnil] at hg
      cases hg
    · exact exists_document_of_list hparts (.inl (hall ▸ hmem)) hg
  · rcases start_or_part_of_foldl FilterDraft.add FilterDraft.any .any
      (by rintro s (_ | _) <;> first | exact .inl rfl | exact .inr rfl) parts {} with hnil | hmem
    · rw [hany, hnil] at hg
      cases hg
    · exact exists_document_of_list hparts (.inr (hany ▸ hmem)) hg

/-- What a filter compares with is what its operator made of a value within its document. -/
theorem exists_operandOf (h : readFilter reading d = .ok f) : ∃ v, (v = .null ∨ d.Holds v) ∧
    operandOf (fun v => (readFilter .tree v.document).toOption) f.operator v = some f.operand := by
  obtain ⟨parts, hparts, hbuild⟩ := exists_parts_of_readFilter h
  have hoperand := (build_eq_ok hbuild).2.2
  simp only [toOption_constraintIn] at hoperand
  exact ⟨_, (value_draft parts).imp_right (holds_of_readParts constraintIn hparts), hoperand⟩

/-- A constraint was read from a value within, or stands for null. -/
theorem exists_value_of_constraint (h : readFilter reading d = .ok f) {c : Filter}
    (hc : f.operand = .constraint c) :
    c = {} ∨ ∃ v, d.Holds v ∧ readFilter .tree v.document = .ok c := by
  obtain ⟨v, hv, hoperand⟩ := exists_operandOf h
  rw [hc] at hoperand
  refine (read_of_operandOf_constraint hoperand).imp_right fun hread => ?_
  have hok := toOption_eq_some.1 hread
  refine ⟨v, hv.resolve_left ?_, hok⟩
  rintro rfl
  cases hok

/-- An operator that takes a constraint is not left with a plain value. -/
theorem takesConstraint_of_plain (h : readFilter reading d = .ok f) {v : Value}
    (hv : f.operand = .plain v) :
    takesConstraint f.operator = false ∧ (v = .null ∨ d.Holds v) := by
  obtain ⟨w, hw, hoperand⟩ := exists_operandOf h
  rw [hv] at hoperand
  obtain ⟨htakes, rfl⟩ := takes_of_operandOf_plain hoperand
  exact ⟨htakes, hw⟩

end

theorem eq_of_contains_empty {g : Filter} (h : Filter.Contains {} g) : g = {} := by
  cases h with
  | self => rfl
  | all hmem _ => cases hmem
  | any hmem _ => cases hmem
  | constraint hc _ => cases hc

/-- A filter within one that was read was read itself, or stands for null. -/
theorem exists_document_of_contains {f g : Filter} (hg : f.Contains g) {reading : Reading}
    {d : Document} (h : readFilter reading d = .ok f) :
    g = {} ∨ ∃ reading' d', readFilter reading' d' = .ok g := by
  induction hg generalizing reading d with
  | self f => exact .inr ⟨reading, d, h⟩
  | all hmem _ ih =>
    obtain ⟨_, _, x, _, hx⟩ := exists_document_of_mem h (.inl hmem)
    exact ih hx
  | any hmem _ ih =>
    obtain ⟨_, _, x, _, hx⟩ := exists_document_of_mem h (.inr hmem)
    exact ih hx
  | constraint hc hcontains ih =>
    obtain rfl | ⟨v, _, hv⟩ := exists_value_of_constraint h hc
    · exact .inl (eq_of_contains_empty hcontains)
    · exact ih hv

/-- Plain values of a filter that was read are no deeper than the values of its document. -/
theorem depth_of_contains {f g : Filter} (hg : f.Contains g) {reading : Reading} {d : Document}
    {n : Nat} (h : readFilter reading d = .ok f) (hd : ∀ v, d.Holds v → v.depth ≤ n) {v : Value}
    (hv : g.operand = .plain v) : v.depth ≤ n := by
  induction hg generalizing reading d with
  | self f =>
    obtain rfl | hv := (takesConstraint_of_plain h hv).2
    · exact Nat.zero_le n
    · exact hd v hv
  | all hmem _ ih =>
    obtain ⟨c, hc, x, hx, hread⟩ := exists_document_of_mem h (.inl hmem)
    exact ih hread (fun w hw => hd w (.inside hc (.inside hx hw))) hv
  | any hmem _ ih =>
    obtain ⟨c, hc, x, hx, hread⟩ := exists_document_of_mem h (.inr hmem)
    exact ih hread (fun w hw => hd w (.inside hc (.inside hx hw))) hv
  | constraint hc hcontains ih =>
    obtain rfl | ⟨w, hw, hread⟩ := exists_value_of_constraint h hc
    · obtain rfl := eq_of_contains_empty hcontains
      cases hv
      exact Nat.zero_le n
    · exact ih hread (fun u hu => (depth_of_holds hu rfl).le.trans (hd w hw)) hv

/-! ### Specifications -/

section
variable {reading : Reading} {d : Document} {f : Filter}

theorem exists_document_of_count {node : CountInclude} (h : readCount reading d = .ok node)
    (hf : node.filter = some f) : ∃ c, readFilter reading c = .ok f := by
  obtain ⟨parts, hparts, h⟩ := Except.bind_eq_ok.1 h
  split at h <;> cases h
  obtain ⟨p, hp, hfilter⟩ := List.exists_of_findSome?_eq_some hf
  cases p with
  | filter f' =>
    cases hfilter
    obtain ⟨slot, c, _, hpart⟩ := part_of_readParts hparts hp
    simp only [countMember] at hpart
    split_ifs at hpart <;> obtain ⟨x, hx, heq⟩ := Except.map_eq_ok.1 hpart <;> cases heq
    exact ⟨c, readFilter_of_readFilter? hx⟩
  | _ => cases hfilter

theorem exists_document_of_include {node : Include} (h : readInclude d = .ok node) :
    ∃ d', readSpec .buffered d' = .ok node.spec := by
  cases d with
  | obj members =>
    rw [readInclude] at h
    split_ifs at h
    · cases h
    obtain ⟨relation, _, h⟩ := Except.bind_eq_ok.1 h
    obtain ⟨parts, hparts, h⟩ := Except.bind_eq_ok.1 h
    cases h
    refine ⟨.obj members, ?_⟩
    rw [readSpec, hparts]
    rfl
  | _ => cases h

/-- The parts of a level that was read. -/
theorem exists_parts_of_readSpec {s : Spec} (h : readSpec reading d = .ok s) : ∃ parts,
    readParts reading specShape (specPart reading) d = .ok parts ∧ SpecPart.build parts = s := by
  rw [readSpec_eq] at h
  exact Except.map_eq_ok.1 h

theorem readFilter?_of_filter_mem {parts : List SpecPart} {f? : Option Filter}
    (hparts : readParts reading specShape (specPart reading) d = .ok parts)
    (h : .filter f? ∈ parts) : ∃ c, readFilter? reading c = .ok f? := by
  obtain ⟨slot, c, _, hpart⟩ := part_of_readParts hparts h
  simp only [specPart, specMember] at hpart
  split_ifs at hpart <;> obtain ⟨x, hx, heq⟩ := Except.map_eq_ok.1 hpart <;> cases heq
  exact ⟨c, hx⟩

theorem readCount_of_counts_mem {parts : List SpecPart} {nodes : List CountInclude}
    (hparts : readParts reading specShape (specPart reading) d = .ok parts)
    (h : .counts nodes ∈ parts) {node : CountInclude} (hnode : node ∈ nodes) :
    ∃ c, readCount reading c = .ok node := by
  obtain ⟨slot, c, _, hpart⟩ := part_of_readParts hparts h
  simp only [specPart, specMember] at hpart
  split_ifs at hpart <;> obtain ⟨x, hx, heq⟩ := Except.map_eq_ok.1 hpart <;> cases heq
  obtain ⟨c', _, hread⟩ := of_mem_readList hx hnode
  exact ⟨c', hread⟩

theorem readInclude_of_includes_mem {parts : List SpecPart} {nodes : List Include}
    (hparts : readParts reading specShape (specPart reading) d = .ok parts)
    (h : .includes nodes ∈ parts) {node : Include} (hnode : node ∈ nodes) :
    ∃ c, readInclude c = .ok node := by
  obtain ⟨slot, c, _, hpart⟩ := part_of_readParts hparts h
  simp only [specPart, specMember] at hpart
  split_ifs at hpart <;> obtain ⟨x, hx, heq⟩ := Except.map_eq_ok.1 hpart <;> cases heq
  obtain ⟨c', _, hread⟩ := of_mem_readList hx hnode
  exact ⟨c', hread⟩

/-- The filters of a specification that was read were read as well. -/
theorem exists_document_of_hasFilter {s : Spec} (hf : s.HasFilter f)
    (h : readSpec reading d = .ok s) : ∃ reading' d', readFilter reading' d' = .ok f := by
  induction hf generalizing reading d with
  | @own s f hf =>
    obtain ⟨parts, hparts, rfl⟩ := exists_parts_of_readSpec h
    rcases start_or_part_of_foldl Spec.add Spec.filter .filter
      (by rintro s (_ | _) <;> first | exact .inl rfl | exact .inr rfl) parts {} with hnone | hmem
    · exact absurd (hnone.symm.trans hf) (by simp)
    · obtain ⟨c, hc⟩ := readFilter?_of_filter_mem hparts hmem
      exact ⟨reading, c, readFilter_of_readFilter? (hc.trans (congrArg _ hf))⟩
  | @counted s node f hnode hf =>
    obtain ⟨parts, hparts, rfl⟩ := exists_parts_of_readSpec h
    rcases start_or_part_of_foldl Spec.add Spec.counts .counts
      (by rintro s (_ | _) <;> first | exact .inl rfl | exact .inr rfl) parts {} with hnil | hmem
    · exact absurd (hnil ▸ hnode) List.not_mem_nil
    · obtain ⟨c, hc⟩ := readCount_of_counts_mem hparts hmem hnode
      obtain ⟨c', hc'⟩ := exists_document_of_count hc hf
      exact ⟨reading, c', hc'⟩
  | @included s node f hnode _ ih =>
    obtain ⟨parts, hparts, rfl⟩ := exists_parts_of_readSpec h
    rcases start_or_part_of_foldl Spec.add Spec.includes .includes
      (by rintro s (_ | _) <;> first | exact .inl rfl | exact .inr rfl) parts {} with hnil | hmem
    · exact absurd (hnil ▸ hnode) List.not_mem_nil
    · obtain ⟨c, hc⟩ := readInclude_of_includes_mem hparts hmem hnode
      obtain ⟨d', hd'⟩ := exists_document_of_include hc
      exact ih hd'

end

def Spec.Mapped (s : Spec) : Prop :=
  (∃ text, Spec.ofText text = .ok s) ∨ ∃ v, Spec.ofValue v = .ok s

theorem Spec.Mapped.eq_or_read {s : Spec} (h : s.Mapped) :
    s = {} ∨ ∃ reading d, readSpec reading d = .ok s := by
  rcases h with ⟨text, h⟩ | ⟨v, h⟩
  · unfold Spec.ofText at h
    split at h
    · cases h
      exact .inl rfl
    split at h
    · cases h
    split at h <;> cases h
    rename_i d _ _ hread
    exact .inr ⟨.text, d, hread⟩
  · by_cases hv : v = .null
    · subst hv
      cases h
      exact .inl rfl
    · exact .inr ⟨.tree, v.document, ofValue_of_ne_null hv ▸ h⟩

theorem not_hasFilter_empty {f : Filter} : ¬ Spec.HasFilter {} f := by
  intro h
  cases h with
  | own h => cases h
  | counted h _ => cases h
  | included h _ => cases h

/-- Every filter of a mapped specification was read. -/
theorem Spec.Mapped.exists_document {s : Spec} (h : s.Mapped) {f : Filter} (hf : s.HasFilter f) :
    ∃ reading d, readFilter reading d = .ok f := by
  obtain rfl | ⟨reading, d, hread⟩ := h.eq_or_read
  · exact absurd hf not_hasFilter_empty
  · exact exists_document_of_hasFilter hf hread

end RelationalQuery
