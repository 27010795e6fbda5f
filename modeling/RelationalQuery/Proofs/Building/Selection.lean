import RelationalQuery.Proofs.Sql.Projection

/-! Columns of a selection. Each asked field comes once, where it is asked for first, and the
fields of the columns select the same columns again. -/
namespace RelationalQuery

open Sql (qualified)

/-! ### First occurrences -/

section
variable {α : Type} [BEq α] [LawfulBEq α] {x y : α} {xs ys : List α}

theorem idxOf_lt_of_filter {p : α → Bool} (hx : p x) (hy : p y)
    (h : (xs.filter p).idxOf x < (xs.filter p).idxOf y) : xs.idxOf x < xs.idxOf y := by
  induction xs with
  | nil => simp at h
  | cons a xs ih =>
    by_cases ha : p a
    · rw [List.filter_cons_of_pos ha] at h
      by_cases hay : a = y
      · subst hay
        rw [List.idxOf_cons_self] at h
        exact absurd h (Nat.not_lt_zero _)
      · rw [List.idxOf_cons_ne _ hay] at h ⊢
        by_cases hax : a = x
        · subst hax
          rw [List.idxOf_cons_self]
          exact Nat.succ_pos _
        · rw [List.idxOf_cons_ne _ hax] at h ⊢
          exact Nat.succ_lt_succ (ih (Nat.lt_of_succ_lt_succ h))
    · have hax : a ≠ x := fun e => ha (e ▸ hx)
      have hay : a ≠ y := fun e => ha (e ▸ hy)
      rw [List.filter_cons_of_neg ha] at h
      rw [List.idxOf_cons_ne _ hax, List.idxOf_cons_ne _ hay]
      exact Nat.succ_lt_succ (ih h)

theorem pairwise_idxOf_eraseDups (xs : List α) :
    xs.eraseDups.Pairwise fun x y => xs.idxOf x < xs.idxOf y := by
  match xs with
  | [] => simp
  | a :: xs =>
    have hrest := pairwise_idxOf_eraseDups (xs.filter fun b => !b == a)
    have hother {b : α} (hb : b ∈ (xs.filter fun b => !b == a).eraseDups) : (!b == a) = true :=
      (List.mem_filter.1 (List.mem_eraseDups.1 hb)).2
    have hne {b : α} (hb : b ∈ (xs.filter fun b => !b == a).eraseDups) : a ≠ b := by
      rintro rfl
      simpa using hother hb
    rw [List.eraseDups_cons, List.pairwise_cons]
    constructor
    · intro b hb
      rw [List.idxOf_cons_self, List.idxOf_cons_ne _ (hne hb)]
      exact Nat.succ_pos _
    · refine hrest.imp_of_mem ?_
      intro b c hb hc h
      rw [List.idxOf_cons_ne _ (hne hb), List.idxOf_cons_ne _ (hne hc)]
      exact Nat.succ_lt_succ (idxOf_lt_of_filter (hother hb) (hother hc) h)
termination_by xs.length
decreasing_by exact Nat.lt_succ_of_le (List.length_filter_le _ _)

theorem nodup_eraseDups (xs : List α) : xs.eraseDups.Nodup := by
  refine (pairwise_idxOf_eraseDups xs).imp ?_
  rintro x y h rfl
  exact Nat.lt_irrefl _ h

theorem eraseDups_of_nodup (h : xs.Nodup) : xs.eraseDups = xs := by
  induction xs with
  | nil => rfl
  | cons a xs ih =>
    rw [List.nodup_cons] at h
    have hfilter : xs.filter (fun b => !b == a) = xs := by
      rw [List.filter_eq_self]
      intro b hb
      have hba : b ≠ a := fun e => h.1 (e ▸ hb)
      simpa using hba
    rw [List.eraseDups_cons, hfilter, ih h.2]

/-- What is there already adds nothing. -/
theorem eraseDups_append_of_subset (h : xs.Nodup) (hys : ys ⊆ xs) :
    (xs ++ ys).eraseDups = xs := by
  have hnone : ys.removeAll xs = [] := by
    rw [List.removeAll, List.filter_eq_nil_iff]
    intro y hy
    simpa using hys hy
  rw [List.eraseDups_append, hnone, eraseDups_of_nodup h]
  simp

end

/-! ### Selections -/

def unqualified (table column : String) : String :=
  String.ofList (column.toList.drop (table.length + 1))

theorem unqualified_qualified (table column : String) :
    unqualified table (qualified table column) = column := by
  have hdrop : (qualified table column).toList.drop (table.length + 1) = column.toList := by
    rw [qualified, String.toList_append, ← String.length_toList, List.drop_append]
    simp
  rw [unqualified, hdrop, String.ofList_toList]

def askedFields (entity : Entity) (selection : List String) : List String :=
  (if entity.primaryKey ∈ selection then [] else [entity.primaryKey]) ++ selection ++
    entity.mandatory

theorem selectFields_eq (entity : Entity) {selection : List String} (h : selection ≠ []) :
    selectFields entity selection =
      ((askedFields entity selection).map (qualified entity.table)).eraseDups := by
  rw [selectFields, List.isEmpty_eq_false_iff.2 h]
  rfl

theorem map_qualified_unqualified {entity : Entity} {selection : List String}
    (h : selection ≠ []) :
    ((selectFields entity selection).map (unqualified entity.table)).map
      (qualified entity.table) = selectFields entity selection := by
  rw [List.map_map, List.map_congr_left, List.map_id]
  intro column hcolumn
  obtain ⟨field, -, rfl⟩ := List.mem_map.1 ((Sql.Query.mem_selectFields h column).1 hcolumn)
  rw [Function.comp_apply, unqualified_qualified, id]

/-- The fields of selected columns, the primary key among them, ask for nothing else. -/
theorem selectFields_unqualified {entity : Entity} {selection : List String}
    (h : selection ≠ []) :
    selectFields entity ((selectFields entity selection).map (unqualified entity.table)) =
      selectFields entity selection := by
  have hasked {field : String}
      (hfield : field ∈ entity.primaryKey :: (selection ++ entity.mandatory)) :
      qualified entity.table field ∈ selectFields entity selection :=
    (Sql.Query.mem_selectFields h _).2 (List.mem_map_of_mem hfield)
  have hkey : entity.primaryKey ∈
      (selectFields entity selection).map (unqualified entity.table) := by
    rw [List.mem_map]
    exact ⟨_, hasked List.mem_cons_self, unqualified_qualified _ _⟩
  have hmandatory : entity.mandatory.map (qualified entity.table) ⊆
      selectFields entity selection := by
    intro column hcolumn
    obtain ⟨field, hfield, rfl⟩ := List.mem_map.1 hcolumn
    exact hasked (List.mem_cons_of_mem _ (List.mem_append_right _ hfield))
  have hnodup : (selectFields entity selection).Nodup := by
    rw [selectFields_eq entity h]
    exact nodup_eraseDups _
  rw [selectFields_eq entity (List.ne_nil_of_mem hkey), askedFields, if_pos hkey, List.nil_append,
    List.map_append, map_qualified_unqualified h]
  exact eraseDups_append_of_subset hnodup hmandatory

/-- A selection gives each column once: those of the primary key, of the selected and of the
mandatory fields, in the order in which these are first asked for. Selecting their fields gives
them again. -/
theorem selectFields_exact (entity : Entity) {selection : List String} (h : selection ≠ []) :
    (selectFields entity selection).Nodup ∧
    (∀ column, column ∈ selectFields entity selection ↔
      ∃ field, (field = entity.primaryKey ∨ field ∈ selection ∨ field ∈ entity.mandatory) ∧
        column = qualified entity.table field) ∧
    ((selectFields entity selection).Pairwise fun column later =>
      ((askedFields entity selection).map (qualified entity.table)).idxOf column <
        ((askedFields entity selection).map (qualified entity.table)).idxOf later) ∧
    selectFields entity ((selectFields entity selection).map (unqualified entity.table)) =
      selectFields entity selection := by
  refine ⟨?_, ?_, ?_, selectFields_unqualified h⟩
  · rw [selectFields_eq entity h]
    exact nodup_eraseDups _
  · intro column
    rw [Sql.Query.mem_selectFields h]
    simp [eq_comm, or_and_right, exists_or]
  · rw [selectFields_eq entity h]
    exact pairwise_idxOf_eraseDups _

def teamEntity : Entity := ⟨"User", "users", "id", ["team", "id", "team"]⟩

theorem selectFields_teamEntity :
    ["name", "id", "name"] ≠ [] ∧
    selectFields teamEntity ["name", "id", "name"] = ["users.name", "users.id", "users.team"] ∧
    selectFields teamEntity
        ((selectFields teamEntity ["name", "id", "name"]).map (unqualified "users")) =
      selectFields teamEntity ["name", "id", "name"] := by
  have hne : ["name", "id", "name"] ≠ [] := List.cons_ne_nil _ _
  exact ⟨hne, by decide, (selectFields_exact teamEntity hne).2.2.2⟩

end RelationalQuery
