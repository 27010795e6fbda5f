import Mathlib.Data.List.Perm.Basic
import Mathlib.Data.List.Nodup
import RelationalQuery.Proofs.Spec.Outcome

/-! Structures of which it matters only what each slot holds. An assembly says how the members of a
structure are read and how the parts are put together; if it is lawful, the order of the members
does not matter, nor does a member that says no more than its absence. -/
namespace RelationalQuery

open Json (Document Value)

theorem Json.Fields.mem_of_get? {α : Type} {fields : List (String × α)} {key : String} {v : α}
    (h : get? fields key = some v) : (key, v) ∈ fields := by
  induction fields with
  | nil => cases h
  | cons f rest ih =>
    obtain ⟨k, w⟩ := f
    rw [get?] at h
    split_ifs at h with hk
    · obtain rfl : w = v := by simpa using h
      simp [hk]
    · simp [ih h]

section
variable {α : Type}

theorem gather_filled_congr {filled filled' : List String} {members : List (Member α)}
    (h : ∀ m ∈ members, m.slot ∈ filled ↔ m.slot ∈ filled') :
    gather filled members = gather filled' members := by
  induction members generalizing filled filled' with
  | nil => rfl
  | cons m rest ih =>
    have hrest : gather (m.slot :: filled) rest = gather (m.slot :: filled') rest :=
      ih fun m' hm' => by simp [h m' (by simp [hm'])]
    simp only [gather, h m (by simp), hrest]

/-- A member whose slot nobody else fills only adds its part. -/
theorem toOption_gather_cons {m : Member α} {members : List (Member α)} {part : α}
    (hpart : m.part = .ok part) (hfree : ∀ m' ∈ members, m'.slot ≠ m.slot) :
    (gather [] (m :: members)).toOption = (gather [] members).toOption.map (part :: ·) := by
  have hrest : gather [m.slot] members = gather [] members :=
    gather_filled_congr fun m' hm' => by simp [hfree m' hm']
  simp only [gather, List.not_mem_nil, if_false, hpart, hrest]
  cases gather [] members <;> rfl

/-- The members of a structure in another order come to its parts in another order. -/
theorem gather_perm {members members' : List (Member α)} (h : members.Perm members')
    {parts : List α} (hparts : gather [] members = .ok parts) :
    ∃ parts', gather [] members' = .ok parts' ∧ parts.Perm parts' := by
  obtain ⟨hnodup, -, hall⟩ := gather_eq_ok.1 hparts
  obtain ⟨parts', hall', hperm⟩ := List.perm_comp_forall₂ h.symm hall
  refine ⟨parts', gather_eq_ok.2 ⟨?_, by simp, hall'⟩, hperm.symm⟩
  exact (h.map Member.slot).nodup_iff.1 hnodup

end

/-! ### Parts in any order -/

section
variable {α β σ : Type} {slotOf : α → String} {parts parts' : List α}

theorem eq_of_slot_eq (hnodup : (parts.map slotOf).Nodup) {p q : α} (hp : p ∈ parts)
    (hq : q ∈ parts) (h : slotOf p = slotOf q) : p = q :=
  List.inj_on_of_nodup_map hnodup hp hq h

/-- Parts that are put in one by one, each into a place of its own. -/
theorem foldl_perm (add : σ → α → σ)
    (hcomm : ∀ s p q, slotOf p ≠ slotOf q → add (add s p) q = add (add s q) p)
    (h : parts.Perm parts') (hnodup : (parts.map slotOf).Nodup) (s : σ) :
    parts.foldl add s = parts'.foldl add s := by
  refine h.foldl_eq' (fun p hp q hq s => ?_) s
  by_cases heq : slotOf p = slotOf q
  · rw [eq_of_slot_eq hnodup hp hq heq]
  · exact hcomm s p q heq

/-- A part that is looked for by its slot. -/
theorem findSome?_perm (f : α → Option β) (slot : String)
    (hslot : ∀ p, (f p).isSome → slotOf p = slot) (h : parts.Perm parts')
    (hnodup : (parts.map slotOf).Nodup) : parts.findSome? f = parts'.findSome? f := by
  induction h with
  | nil => rfl
  | cons p _ ih =>
    rw [List.findSome?_cons, List.findSome?_cons, ih (List.nodup_cons.1 hnodup).2]
  | swap p q rest =>
    simp only [List.findSome?_cons]
    cases hp : f p with
    | none => rfl
    | some x =>
      cases hq : f q with
      | none => rfl
      | some y =>
        have heq : slotOf p = slotOf q := by rw [hslot p (by simp [hp]), hslot q (by simp [hq])]
        simp [heq] at hnodup
  | trans h₁ _ ih₁ ih₂ =>
    rw [ih₁ hnodup, ih₂ ((h₁.map slotOf).nodup_iff.1 hnodup)]

end

/-! ### Assemblies -/

/-- How a structure is read: its shape, its members, the slot that a part fills, and what the parts
make together. -/
structure Assembly (α β : Type) where
  shape : Shape
  member : String → Document → Member α
  slotOf : α → String
  finish : List α → Option β

namespace Assembly
variable {α β : Type}

def members? (a : Assembly α β) : Document → Option (List (Member α))
  | .obj members => some (a.shape.keyed a.member members)
  | .carrier .. => some []
  | .arr items =>
    if items.length ≤ a.shape.slots.length then some (a.shape.listed a.member items) else none
  | _ => none

def read (a : Assembly α β) (d : Document) : Option β :=
  (a.members? d).bind fun members => (gather [] members).toOption.bind a.finish

/-- A member says which slot it fills, its part fills that slot, and parts of distinct slots make
the same in any order. -/
structure Lawful (a : Assembly α β) : Prop where
  alias_mem : ∀ p ∈ a.shape.aliases, p.2 ∈ a.shape.slots
  slot_member : ∀ slot d, (a.member slot d).slot = slot
  slotOf_part : ∀ {slot d part}, slot ∈ a.shape.slots → (a.member slot d).part = .ok part →
    a.slotOf part = slot
  finish_perm : ∀ {parts parts'}, parts.Perm parts' → (parts.map a.slotOf).Nodup →
    a.finish parts = a.finish parts'

def Optional (a : Assembly α β) (slot : String) : Prop :=
  ∃ part, (a.member slot .null).part = .ok part ∧
    ∀ parts, slot ∉ parts.map a.slotOf → a.finish (part :: parts) = a.finish parts

variable {a : Assembly α β}

theorem read_eq (reading : Reading) (d : Document) :
    a.read d = (readParts reading a.shape a.member d).toOption.bind a.finish := by
  cases d with
  | arr items =>
    simp only [read, members?, readParts, gatherListed, toOption_bind]
    by_cases h : items.length ≤ a.shape.slots.length
    · simp only [h, if_true, Nat.not_lt.2 h, if_false, Option.bind_some]
      cases gather [] (a.shape.listed a.member items) <;> rfl
    · simp only [h, if_false, Nat.not_le.1 h, if_true]
      cases gather [] (a.shape.listed a.member items) <;> rfl
  | _ => rfl

theorem read_obj (members : List (String × Document)) :
    a.read (.obj members) =
      (gather [] (a.shape.keyed a.member members)).toOption.bind a.finish := rfl

theorem keyed_append (xs ys : List (String × Document)) :
    a.shape.keyed a.member (xs ++ ys) = a.shape.keyed a.member xs ++ a.shape.keyed a.member ys :=
  List.filterMap_append

theorem keyed_cons_of_some {key slot : String} (d : Document) (rest : List (String × Document))
    (h : a.shape.slot? key = some slot) :
    a.shape.keyed a.member ((key, d) :: rest) =
      a.member slot d :: a.shape.keyed a.member rest := by
  simp [Shape.keyed, h]

theorem keyed_cons_of_none {key : String} (d : Document) (rest : List (String × Document))
    (h : a.shape.slot? key = none) :
    a.shape.keyed a.member ((key, d) :: rest) = a.shape.keyed a.member rest := by
  simp [Shape.keyed, h]

theorem exists_of_mem_keyed {members : List (String × Document)} {m : Member α}
    (h : m ∈ a.shape.keyed a.member members) :
    ∃ key slot d, (key, d) ∈ members ∧ a.shape.slot? key = some slot ∧ m = a.member slot d := by
  obtain ⟨⟨key, d⟩, hmem, hm⟩ := List.mem_filterMap.1 h
  obtain ⟨slot, hslot, rfl⟩ := Option.map_eq_some_iff.1 hm
  exact ⟨key, slot, d, hmem, hslot, rfl⟩

/-- A member without a slot does not matter. -/
theorem read_unknown {key : String} (h : a.shape.slot? key = none) (d : Document)
    (before after : List (String × Document)) :
    a.read (.obj (before ++ (key, d) :: after)) = a.read (.obj (before ++ after)) := by
  rw [read_obj, read_obj, keyed_append, keyed_append, keyed_cons_of_none d after h]

/-- The spelling of a member's key does not matter. -/
theorem read_spelling {key key' slot : String} (h : a.shape.slot? key = some slot)
    (h' : a.shape.slot? key' = some slot) (d : Document) (before after : List (String × Document)) :
    a.read (.obj (before ++ (key, d) :: after)) = a.read (.obj (before ++ (key', d) :: after)) := by
  rw [read_obj, read_obj, keyed_append, keyed_append, keyed_cons_of_some d after h,
    keyed_cons_of_some d after h']

namespace Lawful
variable (ha : a.Lawful)
include ha

theorem mem_slots {key slot : String} (h : a.shape.slot? key = some slot) :
    slot ∈ a.shape.slots := by
  unfold Shape.slot? at h
  split_ifs at h with hkey
  · obtain rfl : key = slot := by simpa using h
    exact hkey
  · exact ha.alias_mem _ (Json.Fields.mem_of_get? h)

/-- The parts of a structure fill the slots that its members name. -/
theorem slots_of_gather {members : List (Member α)} {filled : List String} {parts : List α}
    (hms : ∀ m ∈ members, ∃ slot ∈ a.shape.slots, ∃ d, m = a.member slot d)
    (h : gather filled members = .ok parts) : parts.map a.slotOf = members.map Member.slot := by
  have hall := (gather_eq_ok.1 h).2.2
  clear h
  induction hall with
  | nil => rfl
  | cons hpart _ ih =>
    obtain ⟨slot, hslot, d, rfl⟩ := hms _ List.mem_cons_self
    rw [List.map_cons, List.map_cons, ha.slotOf_part hslot hpart, ha.slot_member,
      ih fun m hm => hms m (List.mem_cons_of_mem _ hm)]

theorem slots_of_members? {d : Document} {members : List (Member α)} {parts : List α}
    (hd : a.members? d = some members) (h : gather [] members = .ok parts) :
    parts.map a.slotOf = members.map Member.slot := by
  refine ha.slots_of_gather (fun m hm => ?_) h
  cases d with
  | obj fields =>
    cases hd
    obtain ⟨key, slot, d, _, hslot, rfl⟩ := exists_of_mem_keyed hm
    exact ⟨slot, ha.mem_slots hslot, d, rfl⟩
  | arr items =>
    rw [Assembly.members?] at hd
    split_ifs at hd
    cases hd
    obtain ⟨⟨slot, d⟩, hmem, rfl⟩ := List.mem_map.1 hm
    exact ⟨slot, (List.of_mem_zip hmem).1, d, rfl⟩
  | carrier text content =>
    cases hd
    cases hm
  | _ => cases hd

/-- The order of the members does not matter. -/
theorem read_perm {members members' : List (String × Document)} (h : members.Perm members') :
    a.read (.obj members) = a.read (.obj members') := by
  have hkeyed : (a.shape.keyed a.member members).Perm (a.shape.keyed a.member members') :=
    h.filterMap _
  rw [read_obj, read_obj]
  refine bind_toOption_eq (fun parts hparts => ?_) fun parts hparts => ?_
  · obtain ⟨parts', hparts', hperm⟩ := gather_perm hkeyed hparts
    refine ⟨parts', hparts', ha.finish_perm hperm ?_⟩
    rw [ha.slots_of_members? (d := .obj members) rfl hparts]
    exact (gather_eq_ok.1 hparts).1
  · obtain ⟨parts', hparts', -⟩ := gather_perm hkeyed.symm hparts
    exact ⟨parts', hparts'⟩

/-- Null in an optional slot that nothing else fills does not matter. -/
theorem read_null {key slot : String} (h : a.shape.slot? key = some slot) (hnull : a.Optional slot)
    {before after : List (String × Document)}
    (hfree : ∀ m ∈ before ++ after, a.shape.slot? m.1 ≠ some slot) :
    a.read (.obj (before ++ (key, .null) :: after)) = a.read (.obj (before ++ after)) := by
  rw [ha.read_perm List.perm_middle]
  obtain ⟨part, hpart, hfinish⟩ := hnull
  set members := before ++ after
  have hslot : ∀ m ∈ a.shape.keyed a.member members, m.slot ≠ slot := by
    intro m hm
    obtain ⟨key', slot', d, hmem, hslot', rfl⟩ := exists_of_mem_keyed hm
    rw [ha.slot_member]
    rintro rfl
    exact hfree _ hmem hslot'
  rw [read_obj, read_obj, keyed_cons_of_some .null members h]
  have hfree' : ∀ m ∈ a.shape.keyed a.member members, m.slot ≠ (a.member slot .null).slot := by
    rwa [ha.slot_member]
  rw [toOption_gather_cons hpart hfree']
  -- the parts of the others fill other slots
  cases hparts : gather [] (a.shape.keyed a.member members) with
  | error e => rfl
  | ok parts =>
    refine hfinish parts fun hmem => ?_
    rw [ha.slots_of_members? (d := .obj members) rfl hparts] at hmem
    obtain ⟨m, hm, heq⟩ := List.mem_map.1 hmem
    exact hslot m hm heq

end Lawful
end Assembly
end RelationalQuery
