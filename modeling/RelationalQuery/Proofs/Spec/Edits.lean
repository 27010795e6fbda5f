import Mathlib.Logic.Relation
import RelationalQuery.Compile.Operator
import RelationalQuery.Proofs.Spec.Structures

/-! Edits of a value that leave alone what it says as a specification: its objects may name their
members in another order and by another spelling, and may have members that they do not know, or
that are null. Such edits, at any depth, do not change what the value is mapped to. -/
namespace RelationalQuery

open Json (Document Value)

/-! ### Edits -/

inductive Kind where
  | level
  | filter
  | wildcard
  | orderItem
  | included
  | counted
deriving DecidableEq

namespace Kind

def shape : Kind → Shape
  | level => specShape
  | filter => filterShape
  | wildcard => wildcardShape
  | orderItem => orderShape
  | included =>
    { includeShape with
      slots := includeShape.slots ++ specShape.slots
      aliases := specShape.aliases }
  | counted => countShape

def required? : Kind → Option String
  | orderItem => some "field"
  | included => some "relation"
  | counted => some "relation"
  | _ => none

inductive One : Kind → String → Kind → Prop
  | filter : One level "where" filter
  | countFilter : One counted "where" filter
  | wildcard : One filter "wildcard" wildcard
  | ofLevel {slot : String} {k : Kind} : One level slot k → One included slot k

inductive Many : Kind → String → Kind → Prop
  | order : Many level "order" orderItem
  | includes : Many level "include" included
  | counts : Many level "include_count" counted
  | all : Many filter "and" filter
  | any : Many filter "or" filter
  | ofLevel {slot : String} {k : Kind} : Many level slot k → Many included slot k

inductive Place (k : Kind) (slot : String) : (Value → Value) → Prop
  | keyed {key : String} (before after : List (String × Value)) :
    k.shape.slot? key = some slot → Place k slot fun v => .obj (before ++ (key, v) :: after)
  | listed (before after : List Value) :
    k.shape.slots[before.length]? = some slot → Place k slot fun v => .arr (before ++ v :: after)

/-- One change of an object's members that leaves alone what its slots hold. -/
inductive Rearranged (k : Kind) : List (String × Value) → List (String × Value) → Prop
  | order {fields fields' : List (String × Value)} :
    fields.Perm fields' → Rearranged k fields fields'
  | unknown {key : String} (v : Value) (before after : List (String × Value)) :
    k.shape.slot? key = none → Rearranged k (before ++ after) (before ++ (key, v) :: after)
  | null {key slot : String} (before after : List (String × Value)) :
    k.shape.slot? key = some slot → k.required? ≠ some slot →
    (∀ f ∈ before ++ after, k.shape.slot? f.1 ≠ some slot) →
    Rearranged k (before ++ after) (before ++ (key, .null) :: after)
  | spelling {key key' slot : String} (v : Value) (before after : List (String × Value)) :
    k.shape.slot? key = some slot → k.shape.slot? key' = some slot →
    Rearranged k (before ++ (key, v) :: after) (before ++ (key', v) :: after)

end Kind

def operatorOf? : Value → Option String
  | .obj fields =>
    match Json.Fields.get? fields "operator" with
    | some (.str operator) => some operator
    | _ => none
  | .arr items =>
    match (items[2]? : Option Value) with
    | some (.str operator) => some operator
    | _ => none
  | _ => none

/-- One edit of a structure, at its own members or within. The value of a condition is edited as a
constraint on related rows if the operator `admits` it before and after. -/
inductive Edit (admits : String → Value → Prop) : Kind → Value → Value → Prop
  | members {k : Kind} {fields fields' : List (String × Value)} :
    k.Rearranged fields fields' → Edit admits k (.obj fields) (.obj fields')
  | one {k k' : Kind} {slot : String} {place : Value → Value} {v v' : Value} :
    k.Place slot place → k.One slot k' → Edit admits k' v v' → Edit admits k (place v) (place v')
  | many {k k' : Kind} {slot : String} {place : Value → Value} {v v' : Value}
    (before after : List Value) :
    k.Place slot place → k.Many slot k' → Edit admits k' v v' →
    Edit admits k (place (.arr (before ++ v :: after))) (place (.arr (before ++ v' :: after)))
  | constraint {place : Value → Value} {operator : String} {v v' : Value} :
    Kind.filter.Place "value" place → operatorOf? (place v) = some operator →
    admits operator v → admits operator v' →
    Edit admits .filter v v' → Edit admits .filter (place v) (place v')

/-! ### Members that are rearranged -/

theorem document_obj (fields : List (String × Value)) :
    (Value.obj fields).document = .obj (fields.map fun f => (f.1, f.2.document)) := by
  rw [Value.document, Json.Value.fieldDocuments_eq_map]

theorem document_arr (items : List Value) :
    (Value.arr items).document = .arr (items.map Value.document) := by
  rw [Value.document, Json.Value.itemDocuments_eq_map]

section
variable {α β : Type} {a : Assembly α β} {k : Kind} {slot : String}

/-- An assembly that looks at slots of a structure, and can do without those that the structure
can do without. -/
structure Kind.Views (k : Kind) (a : Assembly α β) : Prop where
  lawful : a.Lawful
  slot?_eq : ∀ key, a.shape.slot? key = (k.shape.slot? key).filter (· ∈ a.shape.slots)
  optional : ∀ slot ∈ a.shape.slots, k.required? ≠ some slot → a.Optional slot

namespace Kind.Views
variable (hk : k.Views a)
include hk

theorem slot?_of_none {key : String} (h : k.shape.slot? key = none) :
    a.shape.slot? key = none := by
  rw [hk.slot?_eq, h]
  rfl

theorem slot?_of_mem {key : String} (h : k.shape.slot? key = some slot)
    (hslot : slot ∈ a.shape.slots) : a.shape.slot? key = some slot := by
  simp [hk.slot?_eq, h, hslot]

theorem slot?_of_not_mem {key : String} (h : k.shape.slot? key = some slot)
    (hslot : slot ∉ a.shape.slots) : a.shape.slot? key = none := by
  simp [hk.slot?_eq, h, hslot]

theorem slot?_ne {key : String} (h : k.shape.slot? key ≠ some slot) :
    a.shape.slot? key ≠ some slot := by
  rw [hk.slot?_eq]
  intro heq
  exact h (Option.eq_some_of_filter_eq_some heq)

theorem read_rearranged {fields fields' : List (String × Value)} (h : k.Rearranged fields fields') :
    a.read (Value.obj fields).document = a.read (Value.obj fields').document := by
  rw [document_obj, document_obj]
  cases h with
  | order h => exact hk.lawful.read_perm (h.map _)
  | unknown v before after hkey =>
    rw [List.map_append, List.map_append, List.map_cons,
      Assembly.read_unknown (hk.slot?_of_none hkey)]
  | @null key slot before after hkey hreq hfree =>
    rw [List.map_append, List.map_append, List.map_cons]
    by_cases hslot : slot ∈ a.shape.slots
    · refine .symm (hk.lawful.read_null (hk.slot?_of_mem hkey hslot)
        (hk.optional slot hslot hreq) ?_)
      rw [← List.map_append]
      intro m hm
      obtain ⟨f, hf, rfl⟩ := List.mem_map.1 hm
      exact hk.slot?_ne (hfree f hf)
    · rw [Assembly.read_unknown (hk.slot?_of_not_mem hkey hslot)]
  | @spelling key key' slot v before after hkey hkey' =>
    rw [List.map_append, List.map_append, List.map_cons, List.map_cons]
    by_cases hslot : slot ∈ a.shape.slots
    · exact Assembly.read_spelling (hk.slot?_of_mem hkey hslot) (hk.slot?_of_mem hkey' hslot) _ _ _
    · rw [Assembly.read_unknown (hk.slot?_of_not_mem hkey hslot),
        Assembly.read_unknown (hk.slot?_of_not_mem hkey' hslot)]

end Kind.Views

/-! ### Members that are edited -/

/-- The members of an object around one place. -/
theorem members?_keyed {key : String} (before after : List (String × Value))
    (hkey : a.shape.slot? key = some slot) : ∃ before' after', ∀ v : Value,
      a.members? (Value.obj (before ++ (key, v) :: after)).document =
        some (before' ++ a.member slot v.document :: after') := by
  refine ⟨a.shape.keyed a.member (before.map fun f => (f.1, f.2.document)),
    a.shape.keyed a.member (after.map fun f => (f.1, f.2.document)), fun v => ?_⟩
  rw [document_obj, List.map_append, List.map_cons, Assembly.members?, Assembly.keyed_append,
    Assembly.keyed_cons_of_some v.document _ hkey]

theorem exists_split_of_getElem? {γ : Type} {xs : List γ} {n : Nat} {x : γ} (h : xs[n]? = some x) :
    ∃ before after, xs = before ++ x :: after ∧ before.length = n := by
  obtain ⟨hlt, rfl⟩ := List.getElem?_eq_some_iff.1 h
  refine ⟨xs.take n, xs.drop (n + 1), ?_, by simp; omega⟩
  rw [List.getElem_cons_drop, List.take_append_drop]

/-- The members by position around one place, unless there are too many. -/
theorem members?_listed (before after : List Value)
    (hslot : a.shape.slots[before.length]? = some slot) :
    (∀ v : Value, a.members? (Value.arr (before ++ v :: after)).document = none) ∨
      ∃ before' after', ∀ v : Value, a.members? (Value.arr (before ++ v :: after)).document =
        some (before' ++ a.member slot v.document :: after') := by
  by_cases hfits : before.length + (after.length + 1) ≤ a.shape.slots.length
  · -- the slots before the place go to the items before it, and those behind it likewise
    obtain ⟨slots, slots', hslots, hlength⟩ := exists_split_of_getElem? hslot
    refine .inr ⟨(slots.zip (before.map Value.document)).map fun p => a.member p.1 p.2,
      (slots'.zip (after.map Value.document)).map fun p => a.member p.1 p.2, fun v => ?_⟩
    rw [document_arr, Assembly.members?, if_pos (by simpa using hfits), Shape.listed, hslots,
      List.map_append, List.map_cons, List.zip_append (by simpa using hlength),
      List.zip_cons_cons, List.map_append, List.map_cons]
  · refine .inl fun v => ?_
    rw [document_arr, Assembly.members?, if_neg (by simpa using hfits)]

theorem members?_place (hshape : a.shape = k.shape) {place : Value → Value}
    (hplace : k.Place slot place) :
    (∀ v, a.members? (place v).document = none) ∨ ∃ before after, ∀ v,
      a.members? (place v).document = some (before ++ a.member slot v.document :: after) := by
  cases hplace with
  | keyed before after hkey => exact .inr (members?_keyed before after (hshape ▸ hkey))
  | listed before after hslot => exact members?_listed before after (hshape ▸ hslot)

theorem read_congr {v v' : Value} {d d' : Document} {before after : List (Member α)}
    (hd : a.members? d = some (before ++ a.member slot v.document :: after))
    (hd' : a.members? d' = some (before ++ a.member slot v'.document :: after))
    (hsame : (a.member slot v.document).Same (a.member slot v'.document)) :
    a.read d = a.read d' := by
  have hrefl : ∀ members : List (Member α), List.Forall₂ Member.Same members members := fun _ =>
    List.forall₂_same.2 fun _ _ => ⟨rfl, rfl⟩
  rw [Assembly.read, Assembly.read, hd, hd', Option.bind_some, Option.bind_some,
    gather_congr (List.rel_append (hrefl before) (.cons hsame (hrefl after)))]

theorem read_place (hshape : a.shape = k.shape) {place : Value → Value}
    (hplace : k.Place slot place) {v v' : Value}
    (hsame : (a.member slot v.document).Same (a.member slot v'.document)) :
    a.read (place v).document = a.read (place v').document := by
  obtain hnone | ⟨before, after, hsome⟩ := members?_place hshape hplace
  · rw [Assembly.read, Assembly.read, hnone, hnone]
  · exact read_congr (hsome v) (hsome v') hsame

end

/-! ### The kinds of structures -/

section
variable {α β : Type} {a : Assembly α β} {k : Kind}

theorem Kind.views_of_shape (ha : a.Lawful) (hshape : a.shape = k.shape)
    (hopt : ∀ slot ∈ a.shape.slots, k.required? ≠ some slot → a.Optional slot) : k.Views a where
  lawful := ha
  slot?_eq key := by
    rw [← hshape]
    cases hkey : a.shape.slot? key with
    | none => rfl
    | some slot => rw [Option.filter_some, if_pos (by simpa using ha.mem_slots hkey)]
  optional := hopt

end

theorem views_levels : Kind.level.Views levels :=
  Kind.views_of_shape levels_lawful rfl fun _ hslot _ => optional_levels hslot

theorem views_filters : Kind.filter.Views filters :=
  Kind.views_of_shape filters_lawful rfl fun _ hslot _ => optional_filters hslot

theorem views_wildcards : Kind.wildcard.Views wildcards :=
  Kind.views_of_shape wildcards_lawful rfl fun _ hslot _ => optional_wildcards hslot

theorem views_orderItems : Kind.orderItem.Views orderItems := by
  refine Kind.views_of_shape orderItems_lawful rfl fun slot hslot hreq => ?_
  have hfield : slot ≠ "field" := fun h => hreq (h ▸ rfl)
  obtain rfl : slot = "direction" := by simpa [orderItems, orderShape, hfield] using hslot
  exact optional_orderItems

theorem views_countIncludes : Kind.counted.Views countIncludes :=
  Kind.views_of_shape countIncludes_lawful rfl fun _ hslot hreq =>
    optional_countIncludes hslot fun h => hreq (h ▸ rfl)

theorem slot?_included (key : String) :
    Kind.included.shape.slot? key =
      if key = "relation" then some "relation" else specShape.slot? key := by
  by_cases hkey : key = "relation"
  · subst hkey
    rfl
  · simp only [Kind.shape, Shape.slot?, includeShape, List.cons_append, List.nil_append,
      List.mem_cons, hkey, false_or, if_false]

/-- The level of an included relation. -/
theorem views_included_levels : Kind.included.Views levels where
  lawful := levels_lawful
  slot?_eq key := by
    rw [slot?_included]
    by_cases hkey : key = "relation"
    · subst hkey
      rfl
    · rw [if_neg hkey]
      exact views_levels.slot?_eq key
  optional _ hslot _ := optional_levels hslot

theorem views_included_relations : Kind.included.Views relations where
  lawful := relations_lawful
  slot?_eq key := by
    rw [slot?_included]
    by_cases hkey : key = "relation"
    · subst hkey
      rfl
    · rw [if_neg hkey]
      have hslot : relations.shape.slot? key = none := by
        simp [relations, includeShape, Shape.slot?, Json.Fields.get?, hkey]
      cases hlevel : specShape.slot? key with
      | none => exact hslot
      | some slot =>
        have hmem : slot ∈ specShape.slots := levels_lawful.mem_slots hlevel
        have hne : slot ≠ "relation" := by
          rintro rfl
          simp [specShape] at hmem
        rw [hslot, Option.filter_some, if_neg (by simpa [relations, includeShape] using hne)]
  optional slot hslot hreq := by
    obtain rfl : slot = "relation" := by simpa [relations, includeShape] using hslot
    exact absurd rfl hreq

/-! ### What a value comes to -/

def Kind.Same : Kind → Value → Value → Prop
  | level, v, v' =>
    (readSpec .tree v.document).toOption = (readSpec .tree v'.document).toOption
  | filter, v, v' =>
    (readFilter .tree v.document).toOption = (readFilter .tree v'.document).toOption
  | wildcard, v, v' =>
    (readWildcard .tree v.document).toOption = (readWildcard .tree v'.document).toOption
  | orderItem, v, v' =>
    (readOrderItem .tree v.document).toOption = (readOrderItem .tree v'.document).toOption
  | included, v, v' => (readInclude v.document).toOption = (readInclude v'.document).toOption
  | counted, v, v' =>
    (readCount .tree v.document).toOption = (readCount .tree v'.document).toOption

theorem same_included_of_read {fields fields' : List (String × Value)}
    (hrelation : relations.read (Value.obj fields).document =
      relations.read (Value.obj fields').document)
    (hlevel : levels.read (Value.obj fields).document = levels.read (Value.obj fields').document) :
    Kind.included.Same (.obj fields) (.obj fields') := by
  simp only [Kind.Same, toOption_readInclude, hrelation, hlevel]

theorem same_of_rearranged {k : Kind} {fields fields' : List (String × Value)}
    (h : k.Rearranged fields fields') : k.Same (.obj fields) (.obj fields') := by
  cases k with
  | level =>
    simp only [Kind.Same, ← read_levels]
    exact views_levels.read_rearranged h
  | filter =>
    simp only [Kind.Same, ← read_filters]
    exact views_filters.read_rearranged h
  | wildcard =>
    simp only [Kind.Same, ← read_wildcards]
    exact views_wildcards.read_rearranged h
  | orderItem =>
    simp only [Kind.Same, ← read_orderItems]
    exact views_orderItems.read_rearranged h
  | included =>
    exact same_included_of_read (views_included_relations.read_rearranged h)
      (views_included_levels.read_rearranged h)
  | counted =>
    simp only [Kind.Same, ← read_countIncludes]
    exact views_countIncludes.read_rearranged h

/-! ### Members of one kind -/

def Alike (v v' : Value) : Prop :=
  (∃ fields fields', v = .obj fields ∧ v' = .obj fields') ∨
    ∃ items items', v = .arr items ∧ v' = .arr items'

theorem Kind.Place.alike {k : Kind} {slot : String} {place : Value → Value}
    (h : k.Place slot place) (v v' : Value) : Alike (place v) (place v') := by
  cases h with
  | keyed before after _ => exact .inl ⟨_, _, rfl, rfl⟩
  | listed before after _ => exact .inr ⟨_, _, rfl, rfl⟩

theorem Edit.alike {admits : String → Value → Prop} {k : Kind} {v v' : Value}
    (h : Edit admits k v v') : Alike v v' := by
  cases h with
  | members _ => exact .inl ⟨_, _, rfl, rfl⟩
  | one hplace _ _ => exact hplace.alike _ _
  | many _ _ hplace _ _ => exact hplace.alike _ _
  | constraint hplace _ _ _ _ => exact hplace.alike _ _

section
variable {k : Kind} {slot : String} {v v' : Value}

theorem toOption_readFilter?_of_same (hsame : Kind.filter.Same v v') (halike : Alike v v') :
    (readFilter? .tree v.document).toOption = (readFilter? .tree v'.document).toOption := by
  obtain ⟨_, _, rfl, rfl⟩ | ⟨_, _, rfl, rfl⟩ := halike <;>
    exact (toOption_map _ _).trans ((congrArg _ hsame).trans (toOption_map _ _).symm)

theorem toOption_readWildcard?_of_same (hsame : Kind.wildcard.Same v v') (halike : Alike v v') :
    (readWildcard? .tree v.document).toOption = (readWildcard? .tree v'.document).toOption := by
  obtain ⟨_, _, rfl, rfl⟩ | ⟨_, _, rfl, rfl⟩ := halike <;>
    exact (toOption_map _ _).trans ((congrArg _ hsame).trans (toOption_map _ _).symm)

theorem toOption_readList_of_same {α : Type} (item : Document → Except SpecFault α)
    (before after : List Value) (h : (item v.document).toOption = (item v'.document).toOption) :
    (readList item (Value.arr (before ++ v :: after)).document).toOption =
      (readList item (Value.arr (before ++ v' :: after)).document).toOption := by
  simp only [document_arr, readList, List.map_append, List.map_cons, List.mapM_append,
    List.mapM_cons, toOption_bind, h]

theorem same_levels_one (hone : Kind.level.One slot k) (hsame : k.Same v v')
    (halike : Alike v v') :
    (levels.member slot v.document).Same (levels.member slot v'.document) := by
  cases hone
  refine ⟨rfl, ?_⟩
  simp [levels, specPart, specMember, toOption_map, toOption_readFilter?_of_same hsame halike]

theorem same_countIncludes_one (hone : Kind.counted.One slot k) (hsame : k.Same v v')
    (halike : Alike v v') :
    (countIncludes.member slot v.document).Same (countIncludes.member slot v'.document) := by
  cases hone
  refine ⟨rfl, ?_⟩
  simp [countIncludes, countMember, toOption_map, toOption_readFilter?_of_same hsame halike]

theorem same_filters_one (hone : Kind.filter.One slot k) (hsame : k.Same v v')
    (halike : Alike v v') :
    (filters.member slot v.document).Same (filters.member slot v'.document) := by
  cases hone
  refine ⟨rfl, ?_⟩
  simp [filters, filterPart, filterMember, toOption_map,
    toOption_readWildcard?_of_same hsame halike]

theorem same_levels_many (hmany : Kind.level.Many slot k) (hsame : k.Same v v')
    (before after : List Value) :
    (levels.member slot (Value.arr (before ++ v :: after)).document).Same
      (levels.member slot (Value.arr (before ++ v' :: after)).document) := by
  refine ⟨rfl, ?_⟩
  cases hmany <;> simp [levels, specPart, specMember, toOption_map,
    toOption_readList_of_same _ before after hsame]

theorem same_filters_many (hmany : Kind.filter.Many slot k) (hsame : k.Same v v')
    (before after : List Value) :
    (filters.member slot (Value.arr (before ++ v :: after)).document).Same
      (filters.member slot (Value.arr (before ++ v' :: after)).document) := by
  refine ⟨rfl, ?_⟩
  cases hmany <;> simp [filters, filterPart, filterMember, toOption_map,
    toOption_readList_of_same (readFilterWith constraintIn .tree) before after hsame]

end

/-! ### Included relations -/

theorem Kind.One.mem_slots {slot : String} {k : Kind} (h : Kind.level.One slot k) :
    slot ∈ specShape.slots := by
  cases h
  decide

theorem Kind.Many.mem_slots {slot : String} {k : Kind} (h : Kind.level.Many slot k) :
    slot ∈ specShape.slots := by
  cases h <;> decide

/-- In an included node a place of its level is none of its relation. By position there is no
such node. -/
theorem same_included_place {slot : String} {place : Value → Value} {v v' : Value}
    (hplace : Kind.included.Place slot place) (hslot : slot ∈ specShape.slots)
    (hsame : (levels.member slot v.document).Same (levels.member slot v'.document)) :
    Kind.included.Same (place v) (place v') := by
  cases hplace with
  | @keyed key before after hkey =>
    have hnone : relations.shape.slot? key = none := by
      refine views_included_relations.slot?_of_not_mem hkey fun hmem => ?_
      obtain rfl : slot = "relation" := by simpa [relations, includeShape] using hmem
      simp [specShape] at hslot
    obtain ⟨before', after', hmembers⟩ :=
      members?_keyed before after (views_included_levels.slot?_of_mem hkey hslot)
    refine same_included_of_read ?_ (read_congr (hmembers v) (hmembers v') hsame)
    simp only [document_obj, List.map_append, List.map_cons, Assembly.read_unknown hnone]
  | listed before after _ => rfl

/-! ### Constraints on related rows -/

/-- The operator of a filter is one of its members. -/
theorem operator_mem {v : Value} {operator : String} {members : List (Member FilterPart)}
    (hop : operatorOf? v = some operator) (hm : filters.members? v.document = some members) :
    filters.member "operator" (.str operator) ∈ members := by
  cases v with
  | obj fields =>
    simp only [operatorOf?] at hop
    split at hop <;> cases hop
    rename_i hget
    rw [document_obj, Assembly.members?] at hm
    cases hm
    refine List.mem_filterMap.2 ⟨("operator", .str operator), ?_, rfl⟩
    exact List.mem_map.2 ⟨_, Json.Fields.mem_of_get? hget, rfl⟩
  | arr items =>
    simp only [operatorOf?] at hop
    split at hop <;> cases hop
    rename_i hget
    rw [document_arr, Assembly.members?] at hm
    split_ifs at hm
    cases hm
    refine List.mem_map.2 ⟨("operator", .str operator), ?_, rfl⟩
    refine List.mem_of_getElem? (i := 2) ?_
    simp [List.getElem?_zip_eq_some, filters, filterShape, hget, Value.document]
  | _ => cases hop

/-- What is put in last may as well be put in anywhere. -/
theorem draft_middle {before after : List FilterPart} {p : FilterPart}
    (hnodup : ((before ++ p :: after).map FilterPart.slot).Nodup) :
    (before ++ p :: after).foldl FilterDraft.add {} =
      ((before ++ after).foldl FilterDraft.add {}).add p := by
  have hperm : (before ++ p :: after).Perm ((before ++ after) ++ [p]) :=
    List.perm_middle.trans (List.perm_append_singleton p _).symm
  rw [draft_perm hperm hnodup, List.foldl_append]
  rfl

theorem operator_draft {parts : List FilterPart} {token : Option String}
    (hnodup : (parts.map FilterPart.slot).Nodup) (h : .operator token ∈ parts) :
    (parts.foldl FilterDraft.add {}).operator = token := by
  obtain ⟨before, after, rfl⟩ := List.append_of_mem h
  rw [draft_middle hnodup]
  rfl

/-- A filter with one constraint in place of another, if both come to the same. -/
theorem finish_constraint {before after : List FilterPart} {v v' : Value} {operator : String}
    (hnodup : ((before ++ .value v :: after).map FilterPart.slot).Nodup)
    (hop : .operator (some operator) ∈ before ++ after) (htakes : takesConstraint operator)
    (hsame : Kind.filter.Same v v') (halike : Alike v v') :
    filters.finish (before ++ .value v :: after) =
      filters.finish (before ++ .value v' :: after) := by
  have hnodup' : ((before ++ .value v' :: after).map FilterPart.slot).Nodup := by
    simpa [FilterPart.slot] using hnodup
  have hrest : ((before ++ after).map FilterPart.slot).Nodup :=
    hnodup.sublist (((List.sublist_cons_self _ _).append_left before).map _)
  have hoperator : operatorOrEqual (((before ++ after).foldl FilterDraft.add {}).operator) =
      operator := by
    rw [operator_draft hrest hop, operatorOrEqual, if_neg]
    rintro rfl
    exact absurd htakes (by decide)
  have hoperand : operandOf (fun v => (constraintIn v).toOption) operator v =
      operandOf (fun v => (constraintIn v).toOption) operator v' := by
    obtain ⟨_, _, rfl, rfl⟩ | ⟨_, _, rfl, rfl⟩ := halike
    · have hread : (constraintIn _).toOption = (constraintIn _).toOption :=
        (toOption_constraintIn _).trans (hsame.trans (toOption_constraintIn _).symm)
      simp only [operandOf, htakes, if_true, hread]
    · simp only [operandOf, htakes, if_true]
  simp only [filters, toOption_build, draft_middle hnodup, draft_middle hnodup', FilterDraft.add,
    hoperator, hoperand]

theorem readValue_eq_ok {d : Document} {v : Value} (h : d.value? = some v) :
    readValue d = .ok v := by
  simp [readValue, h]

/-- A constraint is edited within its filter, whatever else the filter says. -/
theorem same_constraint {place : Value → Value} {operator : String} {v v' : Value}
    (hplace : Kind.filter.Place "value" place) (hop : operatorOf? (place v) = some operator)
    (htakes : takesConstraint operator) (hv : v.document.value? = some v)
    (hv' : v'.document.value? = some v') (hsame : Kind.filter.Same v v') (halike : Alike v v') :
    Kind.filter.Same (place v) (place v') := by
  simp only [Kind.Same, ← read_filters]
  obtain hnone | ⟨before, after, hsome⟩ := members?_place (a := filters) rfl hplace
  · rw [Assembly.read, Assembly.read, hnone, hnone]
  rw [Assembly.read, Assembly.read, hsome, hsome, Option.bind_some, Option.bind_some]
  have hpart : (filters.member "value" v.document).part = .ok (.value v) := by
    simp [filters, filterPart, filterMember, readValue_eq_ok hv]
  have hpart' : (filters.member "value" v'.document).part = .ok (.value v') := by
    simp [filters, filterPart, filterMember, readValue_eq_ok hv']
  have hslot : (filters.member "value" v.document).slot =
      (filters.member "value" v'.document).slot := rfl
  refine bind_toOption_eq (fun parts hparts => ?_) fun parts hparts => ?_
  · have hslots := filters_lawful.slots_of_members? (hsome v) hparts
    obtain ⟨parts₁, parts₂, rfl, hparts'⟩ := gather_replace hslot hpart hpart' hparts
    refine ⟨_, hparts', finish_constraint ?_ ?_ htakes hsame halike⟩
    · exact hslots ▸ (gather_eq_ok.1 hparts).1
    · -- the operator is some part, and not the one that changes
      obtain ⟨p, hp, hoperator⟩ := exists_mem_of_forall₂ (gather_eq_ok.1 hparts).2.2.flip
        (operator_mem hop (hsome v))
      obtain rfl : .operator (some operator) = p := by
        simpa [filters, filterPart, filterMember, readText?, readText] using hoperator
      simpa using hp
  · obtain ⟨parts₁, parts₂, -, hparts'⟩ := gather_replace hslot.symm hpart' hpart hparts
    exact ⟨_, hparts'⟩

/-! ### Any number of edits -/

/-- A constraint that is read as such while the filter is: the operator asks for it, no object of it
has a key twice, and none opens with the key that marks a carried text. -/
structure Recognised (operator : String) (c : Value) : Prop where
  takes : takesConstraint operator
  keysOnce : c.document.KeysOnce
  unmarked : c.document.Unmarked

theorem Edit.same {k : Kind} {v v' : Value} (h : Edit Recognised k v v') : k.Same v v' := by
  induction h with
  | members h => exact same_of_rearranged h
  | @one k k' slot place v v' hplace hone hedit ih =>
    cases k with
    | level =>
      simp only [Kind.Same, ← read_levels]
      exact read_place rfl hplace (same_levels_one hone ih hedit.alike)
    | filter =>
      simp only [Kind.Same, ← read_filters]
      exact read_place rfl hplace (same_filters_one hone ih hedit.alike)
    | counted =>
      simp only [Kind.Same, ← read_countIncludes]
      exact read_place rfl hplace (same_countIncludes_one hone ih hedit.alike)
    | included =>
      cases hone with
      | ofLevel hone =>
        exact same_included_place hplace hone.mem_slots (same_levels_one hone ih hedit.alike)
    | wildcard => cases hone
    | orderItem => cases hone
  | @many k k' slot place v v' before after hplace hmany _ ih =>
    cases k with
    | level =>
      simp only [Kind.Same, ← read_levels]
      exact read_place rfl hplace (same_levels_many hmany ih before after)
    | filter =>
      simp only [Kind.Same, ← read_filters]
      exact read_place rfl hplace (same_filters_many hmany ih before after)
    | included =>
      cases hmany with
      | ofLevel hmany =>
        exact same_included_place hplace hmany.mem_slots (same_levels_many hmany ih before after)
    | wildcard => cases hmany
    | orderItem => cases hmany
    | counted => cases hmany
  | constraint hplace hop hv hv' hedit ih =>
    exact same_constraint hplace hop hv.takes (Json.value?_document hv.keysOnce hv.unmarked)
      (Json.value?_document hv'.keysOnce hv'.unmarked) ih hedit.alike

/-- A value is mapped to what its edits are mapped to, or all of them are refused. -/
theorem toOption_ofValue_of_edits {v v' : Value}
    (h : Relation.EqvGen (Edit Recognised .level) v v') :
    (Spec.ofValue v).toOption = (Spec.ofValue v').toOption := by
  induction h with
  | rel v v' h =>
    have hsame := h.same
    obtain ⟨_, _, rfl, rfl⟩ | ⟨_, _, rfl, rfl⟩ := h.alike <;> exact hsame
  | refl v => rfl
  | symm v v' _ ih => exact ih.symm
  | trans v v' v'' _ _ ih ih' => exact ih.trans ih'

def postsValue (order constraint : List (String × Value)) : Value :=
  .obj [("order", .arr [.obj order]),
    ("where", .obj [("field", .str "tags"), ("operator", .str "where_has"),
      ("value", .obj constraint)])]

/-- Another spelling of the direction, and a note in the constraint. -/
theorem edits_postsValue :
    Relation.EqvGen (Edit Recognised .level)
      (postsValue [("field", .str "id"), ("order", .str "desc")] [("field", .str "name")])
      (postsValue [("field", .str "id"), ("direction", .str "desc")]
        [("field", .str "name"), ("note", .bool true)]) := by
  refine .trans _ (postsValue [("field", .str "id"), ("direction", .str "desc")]
    [("field", .str "name")]) _ (.rel _ _ ?_) (.rel _ _ ?_)
  · exact .many [] [] (.keyed [] _ rfl) .order
      (.members (.spelling (.str "desc") [("field", .str "id")] [] rfl rfl))
  · refine .one (.keyed [_] [] rfl) .filter (.constraint (.keyed [_, _] [] rfl) rfl
      ⟨by decide, ?_, ?_⟩ ⟨by decide, ?_, ?_⟩
      (.members (.unknown (.bool true) [("field", .str "name")] [] rfl)))
    all_goals simp [Value.document, Value.fieldDocuments, Document.KeysOnce,
      Document.membersKeysOnce, Document.Unmarked, Document.membersUnmarked,
      Json.opensWithCarrier, Json.carrierKey]

theorem toOption_ofValue_postsValue :
    Relation.EqvGen (Edit Recognised .level)
        (postsValue [("field", .str "id"), ("order", .str "desc")] [("field", .str "name")])
        (postsValue [("field", .str "id"), ("direction", .str "desc")]
          [("field", .str "name"), ("note", .bool true)]) ∧
      (Spec.ofValue (postsValue [("field", .str "id"), ("order", .str "desc")]
          [("field", .str "name")])).toOption =
        (Spec.ofValue (postsValue [("field", .str "id"), ("direction", .str "desc")]
          [("field", .str "name"), ("note", .bool true)])).toOption :=
  ⟨edits_postsValue, toOption_ofValue_of_edits edits_postsValue⟩

structure Compiled (operator : String) (c : Value) : Prop where
  whereHas : ∃ existence, Operator.ofToken operator = .whereHas existence
  keysOnce : c.document.KeysOnce

def constrained (operator : String) (fields : List (String × Value)) : Value :=
  .obj [("where", .obj [("field", .str "posts"), ("operator", .str operator),
    ("value", .obj fields)])]

def constrainedSpec (operator : String) (operand : Operand Filter) : Spec :=
  { filter := some { field := some "posts", operator, operand } }

/-- One more unknown member in front of a constraint. -/
theorem edit_constrained {operator key : String} {v : Value}
    (hop : ∃ existence, Operator.ofToken operator = .whereHas existence)
    (hkey : filterShape.slot? key = none) (hv : v.document.KeysOnce) :
    Edit Compiled .level (constrained operator [("field", .str "a")])
      (constrained operator [(key, v), ("field", .str "a")]) := by
  have hne : key ≠ "field" := by
    rintro rfl
    cases hkey
  refine .one (.keyed [] [] rfl) .filter (.constraint (.keyed [_, _] [] rfl) rfl ⟨hop, ?_⟩ ⟨hop, ?_⟩
    (.members (.unknown v [] _ hkey)))
  · simp [Value.document, Value.fieldDocuments, Document.KeysOnce, Document.membersKeysOnce]
  · simp [Value.document, Value.fieldDocuments, Document.KeysOnce, Document.membersKeysOnce, hne,
      hv]

/-- With blanks around the operator the value is kept as it stands, whatever it says as a
constraint; and a value that opens with the key that marks a carried text is no constraint. -/
theorem edits_of_unrecognised :
    Edit Compiled .level (constrained " where_has" [("field", .str "a")])
        (constrained " where_has" [("note", .bool true), ("field", .str "a")]) ∧
      (Spec.ofValue (constrained " where_has" [("field", .str "a")])).toOption ≠
        (Spec.ofValue (constrained " where_has"
          [("note", .bool true), ("field", .str "a")])).toOption ∧
      Edit Compiled .level (constrained "where_has" [("field", .str "a")])
        (constrained "where_has" [(Json.carrierKey, .str "null"), ("field", .str "a")]) ∧
      (Spec.ofValue (constrained "where_has" [("field", .str "a")])).toOption ≠
        (Spec.ofValue (constrained "where_has"
          [(Json.carrierKey, .str "null"), ("field", .str "a")])).toOption := by
  refine ⟨edit_constrained ⟨.present, by decide⟩ rfl trivial, ?_,
    edit_constrained ⟨.present, by decide⟩ rfl trivial, ?_⟩
  · have h : Spec.ofValue (constrained " where_has" [("field", .str "a")]) =
        .ok (constrainedSpec " where_has" (.plain (.obj [("field", .str "a")]))) := rfl
    have h' : Spec.ofValue (constrained " where_has" [("note", .bool true), ("field", .str "a")]) =
        .ok (constrainedSpec " where_has"
          (.plain (.obj [("note", .bool true), ("field", .str "a")]))) := rfl
    simp [h, h', Except.toOption, constrainedSpec]
  · have h : Spec.ofValue (constrained "where_has" [("field", .str "a")]) =
        .ok (constrainedSpec "where_has" (.constraint { field := some "a" })) := rfl
    have h' : Spec.ofValue (constrained "where_has"
        [(Json.carrierKey, .str "null"), ("field", .str "a")]) = .error .notJson := rfl
    simp [h, h', Except.toOption]

end RelationalQuery
