import RelationalQuery.Proofs.Json.Documents
import RelationalQuery.Proofs.Spec.Gathering

/-! The structures of a specification as assemblies: in each of them it only matters what the slots
hold, and null is no more than absence wherever a member is not required. -/
namespace RelationalQuery

open Json (Document Value)

/-! ### Wildcards -/

def WildcardPart.slot : WildcardPart → String
  | .fields _ => "fields"
  | .value _ => "value"

def wildcards : Assembly WildcardPart Wildcard where
  shape := wildcardShape
  member := wildcardMember
  slotOf := WildcardPart.slot
  finish parts := some (parts.foldl Wildcard.add {})

theorem read_wildcards (d : Document) : wildcards.read d = (readWildcard .tree d).toOption := by
  rw [wildcards.read_eq .tree, readWildcard, toOption_bind]
  rfl

theorem wildcards_lawful : wildcards.Lawful where
  alias_mem := by decide
  slot_member _ _ := rfl
  slotOf_part := by
    intro slot d part hslot h
    simp only [wildcards, wildcardMember] at h
    split_ifs at h <;> obtain ⟨x, -, rfl⟩ := Except.map_eq_ok.1 h <;>
      simp_all [wildcards, wildcardShape, WildcardPart.slot]
  finish_perm h hnodup := by
    refine congrArg some (foldl_perm Wildcard.add (fun w p q hne => ?_) h hnodup _)
    cases p <;> cases q <;> first | rfl | exact absurd rfl hne

theorem optional_wildcards {slot : String} (h : slot ∈ wildcardShape.slots) :
    wildcards.Optional slot := by
  simp only [wildcardShape, List.mem_cons, List.not_mem_nil, or_false] at h
  rcases h with rfl | rfl
  · exact ⟨.fields [], rfl, fun _ _ => rfl⟩
  · exact ⟨.value "", rfl, fun _ _ => rfl⟩

/-! ### Constraints -/

theorem depth_of_mem_children {v : Value} {c : Document} (h : c ∈ v.document.children) :
    ∃ u : Value, c = u.document ∧ u.depth < v.depth := by
  cases v with
  | arr items =>
    rw [Value.document, Document.children, Json.Value.itemDocuments_eq_map] at h
    obtain ⟨u, hu, rfl⟩ := List.mem_map.1 h
    exact ⟨u, rfl, Nat.lt_succ_of_le (Json.depth_le_itemsDepth hu)⟩
  | obj fields =>
    rw [Value.document, Document.children, Json.Value.fieldDocuments_eq_map, List.map_map] at h
    obtain ⟨⟨key, u⟩, hu, rfl⟩ := List.mem_map.1 h
    exact ⟨u, rfl, Nat.lt_succ_of_le (Json.depth_le_fieldsDepth hu)⟩
  | _ => cases h

theorem depth_of_holds {d : Document} {w : Value} (h : d.Holds w) {v : Value}
    (hd : d = v.document) : w.depth < v.depth := by
  induction h generalizing v with
  | here hc hw =>
    subst hd
    obtain ⟨u, rfl, hu⟩ := depth_of_mem_children hc
    exact (Json.depth_of_value?_document hw).trans_lt hu
  | inside hc _ ih =>
    subst hd
    obtain ⟨u, rfl, hu⟩ := depth_of_mem_children hc
    exact (ih rfl).trans hu

/-- A constraint is read as deep as it goes. -/
theorem toOption_readConstraint {depth : Nat} {v : Value} (h : v.depth ≤ depth) :
    (readConstraint depth v).toOption = (readFilter .tree v.document).toOption := by
  induction depth using Nat.strong_induction_on generalizing v with
  | h depth ih =>
    cases depth with
    | zero => cases v <;> first | rfl | simp [Value.depth] at h
    | succ depth =>
      refine toOption_readFilterWith _ .tree .tree v.document fun w hw => ?_
      have hdepth := depth_of_holds hw rfl
      rw [ih depth (by omega) (by omega), ih w.depth (by omega) le_rfl]

/-! ### Filters -/

def FilterPart.slot : FilterPart → String
  | .field _ => "field"
  | .value _ => "value"
  | .operator _ => "operator"
  | .subOperator _ => "sub_operator"
  | .all _ => "and"
  | .any _ => "or"
  | .wildcard _ => "wildcard"

def constraintIn (v : Value) : Except SpecFault Filter := readConstraint v.depth v

theorem toOption_constraintIn (v : Value) :
    (constraintIn v).toOption = (readFilter .tree v.document).toOption :=
  toOption_readConstraint le_rfl

def filters : Assembly FilterPart Filter where
  shape := filterShape
  member := filterPart constraintIn .tree
  slotOf := FilterPart.slot
  finish parts := (FilterPart.build constraintIn parts).toOption

theorem read_filters (d : Document) : filters.read d = (readFilter .tree d).toOption := by
  rw [filters.read_eq .tree, readFilter, readFilterWith_eq, toOption_bind]
  rfl

theorem draft_perm {parts parts' : List FilterPart} (h : parts.Perm parts')
    (hnodup : (parts.map FilterPart.slot).Nodup) :
    parts.foldl FilterDraft.add {} = parts'.foldl FilterDraft.add {} := by
  refine foldl_perm FilterDraft.add (fun draft p q hne => ?_) h hnodup _
  cases p <;> cases q <;> first | rfl | exact absurd rfl hne

theorem filters_lawful : filters.Lawful where
  alias_mem := by decide
  slot_member _ _ := rfl
  slotOf_part := by
    intro slot d part hslot h
    simp only [filters, filterPart, filterMember] at h
    split_ifs at h <;> obtain ⟨x, -, rfl⟩ := Except.map_eq_ok.1 h <;>
      simp_all [filters, filterShape, FilterPart.slot]
  finish_perm h hnodup := by
    simp only [filters, FilterPart.build, draft_perm h hnodup]

theorem optional_filters {slot : String} (h : slot ∈ filterShape.slots) :
    filters.Optional slot := by
  simp only [filterShape, List.mem_cons, List.not_mem_nil, or_false] at h
  rcases h with rfl | rfl | rfl | rfl | rfl | rfl | rfl
  · exact ⟨.field none, rfl, fun _ _ => rfl⟩
  · exact ⟨.value .null, rfl, fun _ _ => rfl⟩
  · exact ⟨.operator none, rfl, fun _ _ => rfl⟩
  · exact ⟨.subOperator none, rfl, fun _ _ => rfl⟩
  · exact ⟨.all [], rfl, fun _ _ => rfl⟩
  · exact ⟨.any [], rfl, fun _ _ => rfl⟩
  · exact ⟨.wildcard none, rfl, fun _ _ => rfl⟩

/-! ### Order items -/

def OrderPart.slot : OrderPart → String
  | .field _ => "field"
  | .direction _ => "direction"

def orderItems : Assembly OrderPart OrderItem where
  shape := orderShape
  member := orderMember
  slotOf := OrderPart.slot
  finish parts := (parts.findSome? OrderPart.field?).map fun field =>
    { field, direction := (parts.findSome? OrderPart.direction?).getD "" }

theorem read_orderItems (d : Document) : orderItems.read d = (readOrderItem .tree d).toOption := by
  rw [orderItems.read_eq .tree, readOrderItem, toOption_bind]
  refine congrArg _ (funext fun parts => ?_)
  simp only [orderItems]
  cases parts.findSome? OrderPart.field? <;> rfl

theorem orderItems_lawful : orderItems.Lawful where
  alias_mem := by decide
  slot_member _ _ := rfl
  slotOf_part := by
    intro slot d part hslot h
    simp only [orderItems, orderMember] at h
    split_ifs at h <;> obtain ⟨x, -, rfl⟩ := Except.map_eq_ok.1 h <;>
      simp_all [orderItems, orderShape, OrderPart.slot]
  finish_perm h hnodup := by
    have hfield := findSome?_perm OrderPart.field? "field"
      (by rintro (_ | _) <;> simp [OrderPart.field?, orderItems, OrderPart.slot]) h hnodup
    have hdirection := findSome?_perm OrderPart.direction? "direction"
      (by rintro (_ | _) <;> simp [OrderPart.direction?, orderItems, OrderPart.slot]) h hnodup
    simp only [orderItems, hfield, hdirection]

theorem optional_orderItems : orderItems.Optional "direction" :=
  ⟨.direction none, rfl, fun _ _ => rfl⟩

/-! ### Counted relations -/

def CountPart.slot : CountPart → String
  | .relation _ => "relation"
  | .filter _ => "where"
  | .scopes _ => "scopes"

def countIncludes : Assembly CountPart CountInclude where
  shape := countShape
  member := countMember .tree
  slotOf := CountPart.slot
  finish parts := (parts.findSome? CountPart.relation?).map fun relation =>
    { relation
      filter := parts.findSome? CountPart.filter?
      scopes := (parts.findSome? CountPart.scopes?).getD default }

theorem read_countIncludes (d : Document) :
    countIncludes.read d = (readCount .tree d).toOption := by
  rw [countIncludes.read_eq .tree, readCount, toOption_bind]
  refine congrArg _ (funext fun parts => ?_)
  simp only [countIncludes]
  cases parts.findSome? CountPart.relation? <;> rfl

theorem countIncludes_lawful : countIncludes.Lawful where
  alias_mem := by decide
  slot_member _ _ := rfl
  slotOf_part := by
    intro slot d part hslot h
    simp only [countIncludes, countMember] at h
    split_ifs at h <;> obtain ⟨x, -, rfl⟩ := Except.map_eq_ok.1 h <;>
      simp_all [countIncludes, countShape, CountPart.slot]
  finish_perm h hnodup := by
    have hrelation := findSome?_perm CountPart.relation? "relation"
      (by rintro (_ | _ | _) <;> simp [CountPart.relation?, countIncludes, CountPart.slot]) h hnodup
    have hfilter := findSome?_perm CountPart.filter? "where"
      (by rintro (_ | _ | _) <;> simp [CountPart.filter?, countIncludes, CountPart.slot]) h hnodup
    have hscopes := findSome?_perm CountPart.scopes? "scopes"
      (by rintro (_ | _ | _) <;> simp [CountPart.scopes?, countIncludes, CountPart.slot]) h hnodup
    simp only [countIncludes, hrelation, hfilter, hscopes]

/-- Without scopes among the parts there is nothing to find. -/
theorem optional_countIncludes {slot : String} (h : slot ∈ countShape.slots)
    (hrelation : slot ≠ "relation") : countIncludes.Optional slot := by
  simp only [countShape, List.mem_cons, List.not_mem_nil, or_false, hrelation, false_or] at h
  rcases h with rfl | rfl
  · exact ⟨.filter none, rfl, fun _ _ => rfl⟩
  · refine ⟨.scopes default, rfl, fun parts hfree => ?_⟩
    have hnone : parts.findSome? CountPart.scopes? = none := by
      rw [List.findSome?_eq_none_iff]
      intro p hp
      cases p with
      | scopes decl => exact absurd (List.mem_map.2 ⟨_, hp, rfl⟩) hfree
      | _ => rfl
    simp [countIncludes, List.findSome?_cons, CountPart.relation?, CountPart.filter?,
      CountPart.scopes?, hnone]

/-! ### Levels of a query -/

def SpecPart.slot : SpecPart → String
  | .select _ => "select"
  | .filter _ => "where"
  | .order _ => "order"
  | .includes _ => "include"
  | .counts _ => "include_count"
  | .scopes _ => "scopes"

def levels : Assembly SpecPart Spec where
  shape := specShape
  member := specPart .tree
  slotOf := SpecPart.slot
  finish parts := some (SpecPart.build parts)

theorem read_levels (d : Document) : levels.read d = (readSpec .tree d).toOption := by
  rw [levels.read_eq .tree, readSpec_eq, toOption_map, Option.map_eq_bind]
  rfl

theorem levels_lawful : levels.Lawful where
  alias_mem := by decide
  slot_member _ _ := rfl
  slotOf_part := by
    intro slot d part hslot h
    simp only [levels, specPart, specMember] at h
    split_ifs at h <;> obtain ⟨x, -, rfl⟩ := Except.map_eq_ok.1 h <;>
      simp_all [levels, specShape, SpecPart.slot]
  finish_perm h hnodup := by
    refine congrArg some (foldl_perm Spec.add (fun s p q hne => ?_) h hnodup _)
    cases p <;> cases q <;> first | rfl | exact absurd rfl hne

theorem optional_levels {slot : String} (h : slot ∈ specShape.slots) : levels.Optional slot := by
  simp only [specShape, List.mem_cons, List.not_mem_nil, or_false] at h
  rcases h with rfl | rfl | rfl | rfl | rfl | rfl
  · exact ⟨.select [], rfl, fun _ _ => rfl⟩
  · exact ⟨.filter none, rfl, fun _ _ => rfl⟩
  · exact ⟨.order [], rfl, fun _ _ => rfl⟩
  · exact ⟨.includes [], rfl, fun _ _ => rfl⟩
  · exact ⟨.counts [], rfl, fun _ _ => rfl⟩
  · exact ⟨.scopes default, rfl, fun _ _ => rfl⟩

/-! ### Included relations -/

def relations : Assembly String String where
  shape := includeShape
  member := includeMember
  slotOf _ := "relation"
  finish parts := parts.head?

theorem read_relations (members : List (String × Document)) :
    relations.read (.obj members) = (readRelation members).toOption := by
  rw [relations.read_obj, readRelation, toOption_bind]
  refine congrArg _ (funext fun names => ?_)
  cases names <;> rfl

theorem relations_lawful : relations.Lawful where
  alias_mem := by decide
  slot_member _ _ := rfl
  slotOf_part := by
    intro slot d part hslot h
    simpa [relations, includeShape, eq_comm] using hslot
  finish_perm {parts parts'} h hnodup := by
    match parts with
    | [] => rw [List.nil_perm.1 h]
    | [name] => rw [List.singleton_perm.1 h]
    | _ :: _ :: _ => simp [relations] at hnodup

/-- An included node is its relation with its level. -/
theorem toOption_readInclude (fields : List (String × Value)) :
    (readInclude (Value.obj fields).document).toOption =
      (relations.read (Value.obj fields).document).bind fun relation =>
        (levels.read (Value.obj fields).document).map fun spec => { relation, spec } := by
  have hreadable := Json.membersReadable_fieldDocuments fields
  rw [read_levels, toOption_readSpec .tree .buffered, Value.document, read_relations, readInclude,
    readSpec]
  simp only [hreadable, Bool.not_true, Bool.false_eq_true, if_false]
  cases readRelation (Json.Value.fieldDocuments fields) with
  | error e => rfl
  | ok relation =>
    cases gather [] (specKeyed .buffered (Json.Value.fieldDocuments fields)) <;> rfl

end RelationalQuery
