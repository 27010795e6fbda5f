import RelationalQuery.Proofs.Errors
import RelationalQuery.Spec.Read

/-! What reading a specification comes to: what it gives, or that it is refused, whatever the fault.
In this sense it does not matter how a document is read, as written, as that of a value or within
an included relation: the way of reading only words a fault. -/
namespace RelationalQuery

open Json (Document Value)

/-! ### Parts of a structure -/

structure Member.Same {α : Type} (m m' : Member α) : Prop where
  slot : m.slot = m'.slot
  part : m.part.toOption = m'.part.toOption

def Json.Document.children : Document → List Document
  | .arr items => items
  | .obj members => members.map Prod.snd
  | _ => []

theorem sizeOf_lt_of_mem_children {c d : Document} (h : c ∈ d.children) : sizeOf c < sizeOf d := by
  cases d with
  | arr items =>
    have : sizeOf c < sizeOf items := List.sizeOf_lt_of_mem h
    simp only [Document.arr.sizeOf_spec]
    omega
  | obj members =>
    obtain ⟨⟨key, c'⟩, hm, rfl⟩ := List.mem_map.1 h
    have := List.sizeOf_lt_of_mem hm
    simp only [Prod.mk.sizeOf_spec, Document.obj.sizeOf_spec] at this ⊢
    omega
  | _ => cases h

section
variable {α : Type} {shape : Shape} {member member' : String → Document → Member α}

theorem gather_cons_eq_ok {filled : List String} {m : Member α} {rest : List (Member α)}
    {parts : List α} :
    gather filled (m :: rest) = .ok parts ↔ m.slot ∉ filled ∧ ∃ part parts',
      m.part = .ok part ∧ gather (m.slot :: filled) rest = .ok parts' ∧ parts = part :: parts' := by
  rw [gather]
  by_cases hfilled : m.slot ∈ filled
  · simp [hfilled]
  rw [if_neg hfilled, Except.bind_eq_ok]
  constructor
  · rintro ⟨part, hpart, h⟩
    obtain ⟨parts', hparts, h⟩ := Except.bind_eq_ok.1 h
    cases h
    exact ⟨hfilled, part, parts', hpart, hparts, rfl⟩
  · rintro ⟨-, part, parts', hpart, hparts, rfl⟩
    exact ⟨part, hpart, Except.bind_eq_ok.2 ⟨parts', hparts, rfl⟩⟩

theorem gather_eq_ok {filled : List String} {members : List (Member α)} {parts : List α} :
    gather filled members = .ok parts ↔
      (members.map Member.slot).Nodup ∧ (∀ m ∈ members, m.slot ∉ filled) ∧
        List.Forall₂ (fun m part => m.part = .ok part) members parts := by
  induction members generalizing filled parts with
  | nil => cases parts <;> simp [gather]
  | cons m rest ih =>
    rw [gather_cons_eq_ok, List.map_cons, List.nodup_cons, List.forall₂_cons_left_iff]
    constructor
    · rintro ⟨hfilled, part, parts', hpart, hparts, rfl⟩
      obtain ⟨hnodup, hfree, hall⟩ := ih.1 hparts
      refine ⟨⟨fun hmem => ?_, hnodup⟩, fun m' hm' => ?_, part, parts', hpart, hall, rfl⟩
      · obtain ⟨m', hm', heq⟩ := List.mem_map.1 hmem
        exact hfree m' hm' (by simp [heq])
      · rcases List.mem_cons.1 hm' with rfl | hm'
        · exact hfilled
        · exact fun h => hfree m' hm' (by simp [h])
    · rintro ⟨⟨hslot, hnodup⟩, hfree, part, parts', hpart, hall, rfl⟩
      refine ⟨hfree m (by simp), part, parts', hpart, ih.2 ⟨hnodup, fun m' hm' => ?_, hall⟩, rfl⟩
      rw [List.mem_cons, not_or]
      exact ⟨fun heq => hslot (List.mem_map.2 ⟨m', hm', heq⟩), hfree m' (by simp [hm'])⟩

/-- One member in place of another of the same slot. -/
theorem gather_replace {m m' : Member α} {part part' : α} (hslot : m.slot = m'.slot)
    (hpart : m.part = .ok part) (hpart' : m'.part = .ok part') {filled : List String}
    {before after : List (Member α)} {parts : List α}
    (h : gather filled (before ++ m :: after) = .ok parts) :
    ∃ parts₁ parts₂, parts = parts₁ ++ part :: parts₂ ∧
      gather filled (before ++ m' :: after) = .ok (parts₁ ++ part' :: parts₂) := by
  induction before generalizing filled parts with
  | nil =>
    obtain ⟨hfilled, p, parts', hp, hparts, rfl⟩ := gather_cons_eq_ok.1 h
    obtain rfl : p = part := by simpa [hpart] using hp.symm
    refine ⟨[], parts', rfl, gather_cons_eq_ok.2 ⟨hslot ▸ hfilled, part', parts', hpart', ?_, rfl⟩⟩
    rw [← hslot]
    exact hparts
  | cons n before ih =>
    obtain ⟨hfilled, p, parts', hp, hparts, rfl⟩ := gather_cons_eq_ok.1 h
    obtain ⟨parts₁, parts₂, rfl, hparts'⟩ := ih hparts
    exact ⟨p :: parts₁, parts₂, rfl, gather_cons_eq_ok.2 ⟨hfilled, p, _, hp, hparts', rfl⟩⟩

theorem gather_congr {members members' : List (Member α)}
    (h : List.Forall₂ Member.Same members members') (filled : List String) :
    (gather filled members).toOption = (gather filled members').toOption := by
  induction h generalizing filled with
  | nil => rfl
  | @cons m m' rest rest' hm _ ih =>
    rw [gather, gather, hm.slot]
    by_cases hfilled : m'.slot ∈ filled
    · simp [hfilled, Except.toOption]
    · simp only [hfilled, if_false, toOption_bind, hm.part, ih (m'.slot :: filled)]

theorem keyed_congr {members : List (String × Document)}
    (h : ∀ slot, ∀ m ∈ members, (member slot m.2).Same (member' slot m.2)) :
    List.Forall₂ Member.Same (shape.keyed member members) (shape.keyed member' members) := by
  induction members with
  | nil => exact .nil
  | cons m rest ih =>
    obtain ⟨key, d⟩ := m
    have hrest := ih fun slot m hm => h slot m (by simp [hm])
    unfold Shape.keyed at hrest ⊢
    simp only [List.filterMap_cons]
    cases shape.slot? key with
    | none => exact hrest
    | some slot => exact .cons (h slot (key, d) (by simp)) hrest

theorem listed_congr {items : List Document}
    (h : ∀ slot, ∀ d ∈ items, (member slot d).Same (member' slot d)) :
    List.Forall₂ Member.Same (shape.listed member items) (shape.listed member' items) := by
  unfold Shape.listed
  rw [List.forall₂_map_left_iff, List.forall₂_map_right_iff, List.forall₂_same]
  rintro ⟨slot, d⟩ hm
  exact h slot d (List.of_mem_zip hm).2

theorem toOption_gatherListed (reading reading' : Reading) (given : Nat)
    {members members' : List (Member α)} (h : List.Forall₂ Member.Same members members') :
    (gatherListed reading shape given members).toOption =
      (gatherListed reading' shape given members').toOption := by
  unfold gatherListed
  simp only [toOption_bind, gather_congr h]
  split <;> rfl

/-- The parts of a structure are those of its members. -/
theorem members_of_readParts {reading : Reading} {d : Document} {parts : List α}
    (h : readParts reading shape member d = .ok parts) :
    ∃ members, gather [] members = .ok parts ∧
      ∀ m ∈ members, ∃ slot, ∃ c ∈ d.children, m = member slot c := by
  cases d with
  | obj members =>
    refine ⟨_, h, fun m hm => ?_⟩
    obtain ⟨⟨key, c⟩, hc, hm⟩ := List.mem_filterMap.1 hm
    obtain ⟨slot, -, rfl⟩ := Option.map_eq_some_iff.1 hm
    exact ⟨slot, c, List.mem_map_of_mem hc, rfl⟩
  | arr items =>
    obtain ⟨parts', hparts, h⟩ := Except.bind_eq_ok.1 h
    split_ifs at h
    · cases h
    cases h
    refine ⟨_, hparts, fun m hm => ?_⟩
    obtain ⟨⟨slot, c⟩, hc, rfl⟩ := List.mem_map.1 hm
    exact ⟨slot, c, (List.of_mem_zip hc).2, rfl⟩
  | carrier text content =>
    cases h
    exact ⟨[], rfl, by simp⟩
  | _ => cases h

/-- A part of a structure is that of a document within. -/
theorem part_of_readParts {reading : Reading} {d : Document} {parts : List α} {part : α}
    (h : readParts reading shape member d = .ok parts) (hpart : part ∈ parts) :
    ∃ slot, ∃ c ∈ d.children, (member slot c).part = .ok part := by
  obtain ⟨members, hparts, hmembers⟩ := members_of_readParts h
  obtain ⟨m, hm, hpart⟩ := exists_mem_of_forall₂ (gather_eq_ok.1 hparts).2.2 hpart
  obtain ⟨slot, c, hc, rfl⟩ := hmembers m hm
  exact ⟨slot, c, hc, hpart⟩

/-- What parts were put into keeps its start or gets what one of them says. -/
theorem start_or_part_of_foldl {σ β : Type} (add : σ → α → σ) (field : σ → β) (part : β → α)
    (hadd : ∀ s p, field (add s p) = field s ∨ part (field (add s p)) = p) (parts : List α)
    (s : σ) :
    field (parts.foldl add s) = field s ∨ part (field (parts.foldl add s)) ∈ parts := by
  induction parts generalizing s with
  | nil => exact .inl rfl
  | cons p rest ih =>
    rw [List.foldl_cons]
    rcases ih (add s p) with h | h
    · rw [h]
      refine (hadd s p).imp_right fun heq => ?_
      rw [heq]
      exact List.mem_cons_self
    · exact .inr (List.mem_cons_of_mem _ h)

/-- A structure depends on what its members come to. -/
theorem toOption_readParts_congr (reading reading' : Reading) (d : Document)
    (h : ∀ slot, ∀ c ∈ d.children, (member slot c).Same (member' slot c)) :
    (readParts reading shape member d).toOption =
      (readParts reading' shape member' d).toOption := by
  cases d with
  | obj members =>
    refine gather_congr (keyed_congr fun slot m hm => ?_) []
    exact h slot m.2 (List.mem_map_of_mem hm)
  | arr items =>
    exact toOption_gatherListed reading reading' _ (listed_congr fun slot d hd => h slot d hd)
  | _ => rfl

theorem toOption_readParts (reading reading' : Reading) (d : Document) :
    (readParts reading shape member d).toOption = (readParts reading' shape member d).toOption :=
  toOption_readParts_congr reading reading' d fun _ _ _ => ⟨rfl, rfl⟩

theorem toOption_readList_congr {item item' : Document → Except SpecFault α} {d : Document}
    (h : ∀ c ∈ d.children, (item c).toOption = (item' c).toOption) :
    (readList item d).toOption = (readList item' d).toOption := by
  cases d with
  | arr items => exact toOption_mapM_congr h
  | _ => rfl

end

/-! ### Filters -/

theorem toOption_readWildcard? (reading reading' : Reading) (d : Document) :
    (readWildcard? reading d).toOption = (readWildcard? reading' d).toOption := by
  cases d with
  | null => rfl
  | _ =>
    simp only [readWildcard?, readWildcard, toOption_map, toOption_bind,
      toOption_readParts reading reading']

section
variable (constraint : Value → Except SpecFault Filter)

theorem readFilters_eq_mapM (reading : Reading) (items : List Document) :
    readFilters constraint reading items = items.mapM (readFilterWith constraint reading) := by
  induction items with
  | nil => rfl
  | cons d rest ih => rw [readFilters, List.mapM_cons, ih]

def filterPart (reading : Reading) (slot : String) (d : Document) : Member FilterPart :=
  filterMember reading slot d fun _ => readList (readFilterWith constraint reading) d

theorem filterKeyed_eq (reading : Reading) (members : List (String × Document)) :
    filterKeyed constraint reading members =
      filterShape.keyed (filterPart constraint reading) members := by
  induction members with
  | nil => rfl
  | cons m rest ih =>
    obtain ⟨key, d⟩ := m
    unfold Shape.keyed at ih ⊢
    simp only [List.filterMap_cons]
    cases hslot : filterShape.slot? key with
    | none => cases d <;> simp [filterKeyed, hslot, ih]
    | some slot =>
      cases d <;> simp [filterKeyed, hslot, ih, filterPart, readList, readFilters_eq_mapM]

theorem filterListed_eq (reading : Reading) (slots : List String) (items : List Document) :
    filterListed constraint reading slots items =
      (slots.zip items).map fun (slot, d) => filterPart constraint reading slot d := by
  induction items generalizing slots with
  | nil => cases slots <;> simp [filterListed]
  | cons d rest ih =>
    cases slots with
    | nil => simp [filterListed]
    | cons slot slots =>
      cases d <;> simp [filterListed, ih, filterPart, readList, readFilters_eq_mapM]

/-- A filter is read like any structure and put together from its parts. -/
theorem readFilterWith_eq (reading : Reading) (d : Document) :
    readFilterWith constraint reading d =
      readParts reading filterShape (filterPart constraint reading) d >>=
        FilterPart.build constraint := by
  cases d with
  | obj members => rw [readFilterWith, filterKeyed_eq]; rfl
  | arr items => rw [readFilterWith, filterListed_eq]; rfl
  | _ => rfl

inductive Json.Document.Holds : Document → Value → Prop
  | here {d c : Document} {v : Value} : c ∈ d.children → c.value? = some v → Holds d v
  | inside {d c : Document} {v : Value} : c ∈ d.children → Holds c v → Holds d v

/-- The value of a filter is that of one of its members. -/
theorem holds_of_readParts {reading : Reading} {d : Document} {parts : List FilterPart} {v : Value}
    (h : readParts reading filterShape (filterPart constraint reading) d = .ok parts)
    (hv : .value v ∈ parts) : d.Holds v := by
  obtain ⟨slot, c, hc, hpart⟩ := part_of_readParts h hv
  simp only [filterPart, filterMember] at hpart
  split_ifs at hpart <;> obtain ⟨w, hw, heq⟩ := Except.map_eq_ok.1 hpart <;> cases heq
  refine .here hc ?_
  unfold readValue at hw
  cases hvalue : c.value? with
  | none => simp [hvalue] at hw
  | some w => simpa [hvalue] using hw

theorem value_draft (parts : List FilterPart) :
    (parts.foldl FilterDraft.add {}).value = .null ∨
      .value (parts.foldl FilterDraft.add {}).value ∈ parts := by
  refine start_or_part_of_foldl FilterDraft.add FilterDraft.value .value (fun s p => ?_) parts {}
  cases p <;> first | exact .inl rfl | exact .inr rfl

def operandOf (constraint : Value → Option Filter) (operator : String) (v : Value) :
    Option (Operand Filter) :=
  if takesConstraint operator then
    match v with
    | .null => some (.constraint {})
    | .obj fields => (constraint (.obj fields)).map .constraint
    | _ => none
  else some (.plain v)

theorem takes_of_operandOf_plain {k : Value → Option Filter} {operator : String} {v w : Value}
    (h : operandOf k operator v = some (.plain w)) : takesConstraint operator = false ∧ v = w := by
  by_cases htakes : takesConstraint operator
  · unfold operandOf at h
    rw [if_pos htakes] at h
    cases v <;> simp at h
  · unfold operandOf at h
    rw [if_neg htakes] at h
    cases h
    exact ⟨by simpa using htakes, rfl⟩

theorem read_of_operandOf_constraint {k : Value → Option Filter} {operator : String} {v : Value}
    {c : Filter} (h : operandOf k operator v = some (.constraint c)) : c = {} ∨ k v = some c := by
  by_cases htakes : takesConstraint operator
  · unfold operandOf at h
    rw [if_pos htakes] at h
    cases v with
    | null =>
      cases h
      exact .inl rfl
    | obj fields =>
      obtain ⟨c', hc', heq⟩ := Option.map_eq_some_iff.1 h
      cases heq
      exact .inr hc'
    | _ => cases h
  · unfold operandOf at h
    rw [if_neg htakes] at h
    cases h

theorem toOption_operand (draft : FilterDraft) (operator : String) :
    (draft.operand constraint operator).toOption =
      operandOf (fun v => (constraint v).toOption) operator draft.value := by
  unfold FilterDraft.operand operandOf
  split
  · cases draft.value with
    | obj fields => simp only; cases constraint (.obj fields) <;> rfl
    | _ => rfl
  · rfl

/-- A draft comes to a filter if its operator takes its value. -/
theorem toOption_build (parts : List FilterPart) :
    (FilterPart.build constraint parts).toOption =
      let draft := parts.foldl FilterDraft.add {}
      let operator := operatorOrEqual draft.operator
      (operandOf (fun v => (constraint v).toOption) operator draft.value).map fun operand =>
        { field := draft.field, operand, operator
          subOperator := operatorOrEqual draft.subOperator
          all := draft.all, any := draft.any, wildcard := draft.wildcard } := by
  simp only [FilterPart.build, FilterDraft.finish, toOption_bind, toOption_operand]
  exact Option.map_eq_bind.symm

theorem toOption_build_congr {constraint' : Value → Except SpecFault Filter}
    {parts : List FilterPart}
    (h : ∀ v, .value v ∈ parts → (constraint v).toOption = (constraint' v).toOption) :
    (FilterPart.build constraint parts).toOption =
      (FilterPart.build constraint' parts).toOption := by
  rw [toOption_build, toOption_build]
  rcases value_draft parts with hnull | hmem
  · simp only [hnull, operandOf]
  · have := h _ hmem
    simp only [operandOf]
    generalize (parts.foldl FilterDraft.add {}).value = v at this ⊢
    cases v <;> simp only [this]

/-- A filter comes to the same however it is read, by any two ways to read constraints that agree
on the values within it. -/
theorem toOption_readFilterWith {constraint' : Value → Except SpecFault Filter}
    (reading reading' : Reading) (d : Document)
    (h : ∀ v, d.Holds v → (constraint v).toOption = (constraint' v).toOption) :
    (readFilterWith constraint reading d).toOption =
      (readFilterWith constraint' reading' d).toOption := by
  have hparts : (readParts reading filterShape (filterPart constraint reading) d).toOption =
      (readParts reading' filterShape (filterPart constraint' reading') d).toOption := by
    refine toOption_readParts_congr reading reading' d fun slot c hc => ⟨rfl, ?_⟩
    have hlists := toOption_readList_congr (d := c) fun x hx =>
      have := sizeOf_lt_of_mem_children hc
      have := sizeOf_lt_of_mem_children hx
      toOption_readFilterWith reading reading' x fun v hv => h v (.inside hc (.inside hx hv))
    simp only [filterPart, filterMember]
    split_ifs <;> simp only [toOption_map, hlists, toOption_readWildcard? reading reading']
  rw [readFilterWith_eq, readFilterWith_eq, toOption_bind, toOption_bind, ← hparts]
  cases hread : readParts reading filterShape (filterPart constraint reading) d with
  | error e => rfl
  | ok parts => exact toOption_build_congr _ fun v hv => h v (holds_of_readParts _ hread hv)
termination_by sizeOf d

end

theorem toOption_readFilter? (reading reading' : Reading) (d : Document) :
    (readFilter? reading d).toOption = (readFilter? reading' d).toOption := by
  cases d with
  | null => rfl
  | _ =>
    simp only [readFilter?, readFilter, toOption_map,
      toOption_readFilterWith _ reading reading' _ fun _ _ => rfl]

/-! ### Specifications -/

theorem toOption_readOrderItem (reading reading' : Reading) (d : Document) :
    (readOrderItem reading d).toOption = (readOrderItem reading' d).toOption := by
  simp only [readOrderItem, toOption_bind, toOption_readParts reading reading']

theorem toOption_readCount (reading reading' : Reading) (d : Document) :
    (readCount reading d).toOption = (readCount reading' d).toOption := by
  rw [readCount, readCount, toOption_bind, toOption_bind,
    toOption_readParts_congr reading reading' d fun slot c _ => ?_]
  refine ⟨rfl, ?_⟩
  simp only [countMember]
  split_ifs <;> simp only [toOption_map, toOption_readFilter? reading reading']

theorem readIncludes_eq_mapM (items : List Document) :
    readIncludes items = items.mapM readInclude := by
  induction items with
  | nil => rfl
  | cons d rest ih => rw [readIncludes, List.mapM_cons, ih]

def specPart (reading : Reading) (slot : String) (d : Document) : Member SpecPart :=
  specMember reading slot d fun _ => readList readInclude d

theorem specKeyed_eq (reading : Reading) (members : List (String × Document)) :
    specKeyed reading members = specShape.keyed (specPart reading) members := by
  induction members with
  | nil => rfl
  | cons m rest ih =>
    obtain ⟨key, d⟩ := m
    unfold Shape.keyed at ih ⊢
    simp only [List.filterMap_cons]
    cases hslot : specShape.slot? key with
    | none => cases d <;> simp [specKeyed, hslot, ih]
    | some slot => cases d <;> simp [specKeyed, hslot, ih, specPart, readList, readIncludes_eq_mapM]

theorem specListed_eq (reading : Reading) (slots : List String) (items : List Document) :
    specListed reading slots items =
      (slots.zip items).map fun (slot, d) => specPart reading slot d := by
  induction items generalizing slots with
  | nil => cases slots <;> simp [specListed]
  | cons d rest ih =>
    cases slots with
    | nil => simp [specListed]
    | cons slot slots =>
      cases d <;> simp [specListed, ih, specPart, readList, readIncludes_eq_mapM]

/-- A specification is read like any structure and put together from its parts. -/
theorem readSpec_eq (reading : Reading) (d : Document) :
    readSpec reading d = SpecPart.build <$> readParts reading specShape (specPart reading) d := by
  cases d with
  | obj members => rw [readSpec, specKeyed_eq]; rfl
  | arr items => rw [readSpec, specListed_eq]; rfl
  | _ => rfl

/-- A specification comes to the same however it is read. -/
theorem toOption_readSpec (reading reading' : Reading) (d : Document) :
    (readSpec reading d).toOption = (readSpec reading' d).toOption := by
  rw [readSpec_eq, readSpec_eq, toOption_map, toOption_map,
    toOption_readParts_congr reading reading' d fun slot c _ => ?_]
  refine ⟨rfl, ?_⟩
  simp only [specPart, specMember]
  split_ifs <;> simp only [toOption_map, toOption_readFilter? reading reading',
    toOption_readList_congr fun x _ => toOption_readOrderItem reading reading' x,
    toOption_readList_congr fun x _ => toOption_readCount reading reading' x]

theorem ofValue_of_ne_null {v : Value} (h : v ≠ .null) :
    Spec.ofValue v = readSpec .tree v.document := by
  cases v with
  | null => exact absurd rfl h
  | _ => rfl

end RelationalQuery
