import Mathlib.Data.Nat.Basic
import Mathlib.Order.MinMax
import Mathlib.Tactic.SplitIfs
import RelationalQuery.Json.Document

/-! Documents and the values they denote. A document in which no object repeats a key, and none
opens with the key that marks a carried text, is the document of its value. -/
namespace RelationalQuery.Json

namespace Fields
variable {α : Type}

theorem put_of_not_mem {fields : List (String × α)} {key : String} (v : α)
    (h : key ∉ fields.map Prod.fst) : put fields key v = fields ++ [(key, v)] := by
  induction fields with
  | nil => rfl
  | cons p rest ih =>
    obtain ⟨k, old⟩ := p
    simp only [List.map_cons, List.mem_cons, not_or] at h
    rw [put, if_neg (Ne.symm h.1), ih h.2, List.cons_append]

theorem foldl_put_of_nodup (fields pairs : List (String × α))
    (h : ((fields ++ pairs).map Prod.fst).Nodup) :
    pairs.foldl (fun fields (k, v) => put fields k v) fields = fields ++ pairs := by
  induction pairs generalizing fields with
  | nil => simp
  | cons p pairs ih =>
    obtain ⟨k, v⟩ := p
    have hk : k ∉ fields.map Prod.fst := by
      intro hmem
      rw [List.map_append, List.nodup_append] at h
      exact h.2.2 k hmem k (by simp) rfl
    have hrest := ih (fields ++ [(k, v)]) (by simpa using h)
    simpa [put_of_not_mem v hk] using hrest

theorem collapse_of_nodup {pairs : List (String × α)} (h : (pairs.map Prod.fst).Nodup) :
    collapse pairs = pairs := by
  simpa [collapse] using foldl_put_of_nodup [] pairs (by simpa using h)

end Fields

mutual

def Document.KeysOnce : Document → Prop
  | .arr items => itemsKeysOnce items
  | .obj members => (members.map Prod.fst).Nodup ∧ membersKeysOnce members
  | .carrier _ content => content.KeysOnce
  | _ => True

def Document.itemsKeysOnce : List Document → Prop
  | [] => True
  | d :: rest => d.KeysOnce ∧ itemsKeysOnce rest

def Document.membersKeysOnce : List (String × Document) → Prop
  | [] => True
  | (_, d) :: rest => d.KeysOnce ∧ membersKeysOnce rest

end

mutual

/-- No object opens with the key that marks a carried text. -/
def Document.Unmarked : Document → Prop
  | .arr items => itemsUnmarked items
  | .obj members => opensWithCarrier members = false ∧ membersUnmarked members
  | .carrier .. => False
  | _ => True

def Document.itemsUnmarked : List Document → Prop
  | [] => True
  | d :: rest => d.Unmarked ∧ itemsUnmarked rest

def Document.membersUnmarked : List (String × Document) → Prop
  | [] => True
  | (_, d) :: rest => d.Unmarked ∧ membersUnmarked rest

end

/-! ### The document of a value -/

theorem Value.itemDocuments_eq_map (items : List Value) :
    Value.itemDocuments items = items.map Value.document := by
  induction items with
  | nil => rfl
  | cons v rest ih => simp [Value.itemDocuments, ih]

theorem Value.fieldDocuments_eq_map (fields : List (String × Value)) :
    Value.fieldDocuments fields = fields.map fun f => (f.1, f.2.document) := by
  induction fields with
  | nil => rfl
  | cons f rest ih =>
    obtain ⟨key, v⟩ := f
    simp [Value.fieldDocuments, ih]

theorem fst_of_members? {members : List (String × Document)} {pairs : List (String × Value)}
    (h : Document.members? members = some pairs) : pairs.map Prod.fst = members.map Prod.fst := by
  induction members generalizing pairs with
  | nil =>
    obtain rfl : [] = pairs := by simpa [Document.members?] using h
    rfl
  | cons m rest ih =>
    obtain ⟨key, d⟩ := m
    simp only [Document.members?, Option.bind_eq_bind, Option.bind_eq_some_iff] at h
    obtain ⟨v, _, rest', hrest, h⟩ := h
    obtain rfl : (key, v) :: rest' = pairs := by simpa using h
    simp [ih hrest]

mutual

/-- Nothing but repeated keys and carried texts is lost in the value of a document. -/
theorem document_of_value? {d : Document} {v : Value} (h : d.value? = some v) (hkeys : d.KeysOnce)
    (hmarks : d.Unmarked) : v.document = d := by
  match d with
  | .null =>
    cases h
    rfl
  | .bool b =>
    cases h
    rfl
  | .num n =>
    cases h
    rfl
  | .str s =>
    cases h
    rfl
  | .arr items =>
    obtain ⟨vs, hvs, rfl⟩ := Option.map_eq_some_iff.1 h
    rw [Value.document, itemDocuments_of_items? hvs hkeys hmarks]
  | .obj members =>
    rw [Document.value?, hmarks.1] at h
    obtain ⟨pairs, hpairs, rfl⟩ := Option.map_eq_some_iff.1 h
    have hnodup : (pairs.map Prod.fst).Nodup := fst_of_members? hpairs ▸ hkeys.1
    rw [Fields.collapse_of_nodup hnodup, Value.document,
      fieldDocuments_of_members? hpairs hkeys.2 hmarks.2]
  | .carrier .. => exact hmarks.elim
  | .unreadable => cases h

theorem itemDocuments_of_items? {items : List Document} {vs : List Value}
    (h : Document.items? items = some vs) (hkeys : Document.itemsKeysOnce items)
    (hmarks : Document.itemsUnmarked items) : Value.itemDocuments vs = items := by
  match items with
  | [] =>
    obtain rfl : [] = vs := by simpa [Document.items?] using h
    rfl
  | d :: rest =>
    simp only [Document.items?, Option.bind_eq_bind, Option.bind_eq_some_iff] at h
    obtain ⟨v, hv, rest', hrest, h⟩ := h
    obtain rfl : v :: rest' = vs := by simpa using h
    rw [Value.itemDocuments, document_of_value? hv hkeys.1 hmarks.1,
      itemDocuments_of_items? hrest hkeys.2 hmarks.2]

theorem fieldDocuments_of_members? {members : List (String × Document)}
    {pairs : List (String × Value)} (h : Document.members? members = some pairs)
    (hkeys : Document.membersKeysOnce members) (hmarks : Document.membersUnmarked members) :
    Value.fieldDocuments pairs = members := by
  match members with
  | [] =>
    obtain rfl : [] = pairs := by simpa [Document.members?] using h
    rfl
  | (key, d) :: rest =>
    simp only [Document.members?, Option.bind_eq_bind, Option.bind_eq_some_iff] at h
    obtain ⟨v, hv, rest', hrest, h⟩ := h
    obtain rfl : (key, v) :: rest' = pairs := by simpa using h
    rw [Value.fieldDocuments, document_of_value? hv hkeys.1 hmarks.1,
      fieldDocuments_of_members? hrest hkeys.2 hmarks.2]

end

mutual

/-- Such a value is what its document denotes. -/
theorem value?_document {v : Value} (hkeys : v.document.KeysOnce) (hmarks : v.document.Unmarked) :
    v.document.value? = some v := by
  match v with
  | .null => rfl
  | .bool b => rfl
  | .num n => rfl
  | .str s => rfl
  | .arr items =>
    rw [Value.document, Document.value?, items?_itemDocuments hkeys hmarks]
    rfl
  | .obj fields =>
    have hpairs := members?_fieldDocuments hkeys.2 hmarks.2
    have hnodup : (fields.map Prod.fst).Nodup := by
      rw [fst_of_members? hpairs]
      exact hkeys.1
    rw [Value.document, Document.value?, hmarks.1, hpairs]
    simp [Fields.collapse_of_nodup hnodup]

theorem items?_itemDocuments {items : List Value}
    (hkeys : Document.itemsKeysOnce (Value.itemDocuments items))
    (hmarks : Document.itemsUnmarked (Value.itemDocuments items)) :
    Document.items? (Value.itemDocuments items) = some items := by
  match items with
  | [] => rfl
  | v :: rest =>
    rw [Value.itemDocuments, Document.items?, value?_document hkeys.1 hmarks.1,
      items?_itemDocuments hkeys.2 hmarks.2]
    rfl

theorem members?_fieldDocuments {fields : List (String × Value)}
    (hkeys : Document.membersKeysOnce (Value.fieldDocuments fields))
    (hmarks : Document.membersUnmarked (Value.fieldDocuments fields)) :
    Document.members? (Value.fieldDocuments fields) = some fields := by
  match fields with
  | [] => rfl
  | (key, v) :: rest =>
    rw [Value.fieldDocuments, Document.members?, value?_document hkeys.1 hmarks.1,
      members?_fieldDocuments hkeys.2 hmarks.2]
    rfl

end

mutual

theorem isReadable_document (v : Value) : v.document.isReadable = true := by
  match v with
  | .null => rfl
  | .bool b => rfl
  | .num n => rfl
  | .str s => rfl
  | .arr items => exact itemsReadable_itemDocuments items
  | .obj fields => exact membersReadable_fieldDocuments fields

theorem itemsReadable_itemDocuments (items : List Value) :
    Document.itemsReadable (Value.itemDocuments items) = true := by
  match items with
  | [] => rfl
  | v :: rest =>
    rw [Value.itemDocuments, Document.itemsReadable, isReadable_document v,
      itemsReadable_itemDocuments rest]
    rfl

theorem membersReadable_fieldDocuments (fields : List (String × Value)) :
    Document.membersReadable (Value.fieldDocuments fields) = true := by
  match fields with
  | [] => rfl
  | (key, v) :: rest =>
    rw [Value.fieldDocuments, Document.membersReadable, isReadable_document v,
      membersReadable_fieldDocuments rest]
    rfl

end

/-! ### Depth -/

theorem depth_le_itemsDepth {items : List Value} {v : Value} (h : v ∈ items) :
    v.depth ≤ Value.itemsDepth items := by
  induction items with
  | nil => cases h
  | cons w rest ih =>
    rw [Value.itemsDepth]
    rcases List.mem_cons.1 h with rfl | h
    · exact le_max_left _ _
    · exact (ih h).trans (le_max_right _ _)

theorem depth_le_fieldsDepth {fields : List (String × Value)} {key : String} {v : Value}
    (h : (key, v) ∈ fields) : v.depth ≤ Value.fieldsDepth fields := by
  induction fields with
  | nil => cases h
  | cons f rest ih =>
    obtain ⟨k, w⟩ := f
    rw [Value.fieldsDepth]
    rcases List.mem_cons.1 h with heq | h
    · cases heq
      exact le_max_left _ _
    · exact (ih h).trans (le_max_right _ _)

theorem fieldsDepth_put (fields : List (String × Value)) (key : String) (v : Value) :
    Value.fieldsDepth (Fields.put fields key v) ≤ max (Value.fieldsDepth fields) v.depth := by
  induction fields with
  | nil => simp [Fields.put, Value.fieldsDepth]
  | cons f rest ih =>
    obtain ⟨k, old⟩ := f
    rw [Fields.put]
    split_ifs
    · simp only [Value.fieldsDepth]
      omega
    · simp only [Value.fieldsDepth]
      omega

theorem fieldsDepth_collapse (pairs : List (String × Value)) :
    Value.fieldsDepth (Fields.collapse pairs) ≤ Value.fieldsDepth pairs := by
  suffices h : ∀ fields, Value.fieldsDepth
      (pairs.foldl (fun fields (k, v) => Fields.put fields k v) fields) ≤
      max (Value.fieldsDepth fields) (Value.fieldsDepth pairs) by
    simpa [Fields.collapse, Value.fieldsDepth] using h []
  induction pairs with
  | nil => simp [Value.fieldsDepth]
  | cons p pairs ih =>
    obtain ⟨k, v⟩ := p
    intro fields
    have hput := fieldsDepth_put fields k v
    have hrest := ih (Fields.put fields k v)
    simp only [List.foldl_cons, Value.fieldsDepth] at hrest ⊢
    omega

mutual

/-- A value that is read again is no deeper. -/
theorem depth_of_value?_document {v w : Value} (h : v.document.value? = some w) :
    w.depth ≤ v.depth := by
  match v with
  | .null =>
    cases h
    rfl
  | .bool b =>
    cases h
    rfl
  | .num n =>
    cases h
    rfl
  | .str s =>
    cases h
    rfl
  | .arr items =>
    obtain ⟨vs, hvs, rfl⟩ := Option.map_eq_some_iff.1 h
    exact Nat.succ_le_succ (itemsDepth_of_items? hvs)
  | .obj fields =>
    rw [Value.document, Document.value?] at h
    split_ifs at h
    obtain ⟨pairs, hpairs, rfl⟩ := Option.map_eq_some_iff.1 h
    exact Nat.succ_le_succ ((fieldsDepth_collapse pairs).trans (fieldsDepth_of_members? hpairs))

theorem itemsDepth_of_items? {items vs : List Value}
    (h : Document.items? (Value.itemDocuments items) = some vs) :
    Value.itemsDepth vs ≤ Value.itemsDepth items := by
  match items with
  | [] =>
    obtain rfl : [] = vs := by simpa [Value.itemDocuments, Document.items?] using h
    rfl
  | v :: rest =>
    simp only [Value.itemDocuments, Document.items?, Option.bind_eq_bind,
      Option.bind_eq_some_iff] at h
    obtain ⟨w, hw, ws, hws, h⟩ := h
    obtain rfl : w :: ws = vs := by simpa using h
    exact max_le_max (depth_of_value?_document hw) (itemsDepth_of_items? hws)

theorem fieldsDepth_of_members? {fields pairs : List (String × Value)}
    (h : Document.members? (Value.fieldDocuments fields) = some pairs) :
    Value.fieldsDepth pairs ≤ Value.fieldsDepth fields := by
  match fields with
  | [] =>
    obtain rfl : [] = pairs := by simpa [Value.fieldDocuments, Document.members?] using h
    rfl
  | (key, v) :: rest =>
    simp only [Value.fieldDocuments, Document.members?, Option.bind_eq_bind,
      Option.bind_eq_some_iff] at h
    obtain ⟨w, hw, ws, hws, h⟩ := h
    obtain rfl : (key, w) :: ws = pairs := by simpa using h
    exact max_le_max (depth_of_value?_document hw) (fieldsDepth_of_members? hws)

end

end RelationalQuery.Json
