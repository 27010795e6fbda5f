import RelationalQuery.Sql.Loading

/-! The tables that loading goes through: keys to ask for, rows by their key, targets by their tag
and key. Each lookup is a scan of the rows that went in. -/
namespace RelationalQuery.Sql

open Json

def keyTexts (rows : List Value) (column : String) : List String :=
  (rows.filterMap fun row => keyOf row column).eraseDups

theorem keyOf_eq_some {row : Value} {column key : String} (h : keyOf row column = some key) :
    ∃ v, row.field? column = some v ∧ v.isNull = false ∧ v.plainText = key := by
  unfold keyOf at h
  split at h
  · cases h
  · cases h
  · rename_i v hnull hv
    refine ⟨v, hv, ?_, by simpa using h⟩
    cases v with
    | null => exact (hnull rfl).elim
    | _ => rfl

theorem map_plainText_distinctKeysFrom (seen : List String) (column : String)
    (rows : List Value) :
    (distinctKeysFrom seen column rows).map Value.plainText =
      ((rows.filterMap fun row => keyOf row column).filter (· ∉ seen)).eraseDups := by
  induction rows generalizing seen with
  | nil => rfl
  | cons row rest ih =>
    unfold distinctKeysFrom
    cases hkey : keyOf row column with
    | none => simpa only [hkey, List.filterMap_cons] using ih seen
    | some key =>
      obtain ⟨v, hv, -, htext⟩ := keyOf_eq_some hkey
      by_cases hseen : key ∈ seen
      · simp [hkey, hseen, ih]
      · have hrest : ((rest.filterMap fun row => keyOf row column).filter (· ∉ key :: seen)) =
            ((rest.filterMap fun row => keyOf row column).filter (· ∉ seen)).filter
              (fun text => !text == key) := by
          rw [List.filter_filter]
          refine List.filter_congr fun text _ => ?_
          by_cases h : text = key <;> simp [h]
        simp only [hkey, hseen, if_false, List.map_cons, ih, hrest, hv, Option.getD_some, htext,
          List.filterMap_cons, List.filter_cons, not_false_eq_true, decide_true, if_true,
          List.eraseDups_cons]

theorem map_plainText_distinctKeys (rows : List Value) (column : String) :
    (distinctKeys rows column).map Value.plainText = keyTexts rows column := by
  rw [distinctKeys, map_plainText_distinctKeysFrom, keyTexts, List.filter_eq_self.2 (by simp)]

/-- A key is the value of some row, and no null. -/
theorem mem_distinctKeysFrom {seen : List String} {column : String} {rows : List Value}
    {key : Value} (h : key ∈ distinctKeysFrom seen column rows) :
    key.isNull = false ∧ ∃ row ∈ rows, row.field? column = some key := by
  induction rows generalizing seen with
  | nil => cases h
  | cons row rest ih =>
    unfold distinctKeysFrom at h
    cases hkey : keyOf row column with
    | none =>
      simp only [hkey] at h
      obtain ⟨hnull, r, hr, hfield⟩ := ih h
      exact ⟨hnull, r, by simp [hr], hfield⟩
    | some text =>
      obtain ⟨v, hv, hv₀, -⟩ := keyOf_eq_some hkey
      simp only [hkey, hv, Option.getD_some] at h
      split at h
      · obtain ⟨hnull, r, hr, hfield⟩ := ih h
        exact ⟨hnull, r, by simp [hr], hfield⟩
      · obtain rfl | h := List.mem_cons.1 h
        · exact ⟨hv₀, row, by simp, hv⟩
        · obtain ⟨hnull, r, hr, hfield⟩ := ih h
          exact ⟨hnull, r, by simp [hr], hfield⟩

/-! ### Groups -/

theorem getD_get?_addToGroup (column : String) (groups : List (String × List Value))
    (row : Value) (key : String) :
    (Fields.get? (addToGroup column groups row) key).getD [] =
      (Fields.get? groups key).getD [] ++ if keyOf row column == some key then [row] else [] := by
  unfold addToGroup
  cases hkey : keyOf row column with
  | none => simp
  | some own =>
    by_cases h : own = key
    · subst h
      simp [Fields.get?_put_self]
    · simp [Fields.get?_put_of_ne _ _ h, h]

theorem getD_get?_foldl_addToGroup (column : String) (rows : List Value)
    (groups : List (String × List Value)) (key : String) :
    (Fields.get? (rows.foldl (addToGroup column) groups) key).getD [] =
      (Fields.get? groups key).getD [] ++ rows.filter fun row => keyOf row column == some key := by
  induction rows generalizing groups with
  | nil => simp
  | cons row rest ih =>
    rw [List.foldl_cons, ih, getD_get?_addToGroup, List.filter_cons]
    split <;> simp

/-- A group holds the rows of its key, in order. -/
theorem groupOf_groupBy (column : String) (rows : List Value) (key : String) :
    groupOf (groupBy column rows) (some key) =
      rows.filter fun row => keyOf row column == some key := by
  have h := getD_get?_foldl_addToGroup column rows [] key
  simpa [groupOf, groupBy, Fields.get?] using h

theorem groupOf_none (groups : List (String × List Value)) : groupOf groups none = [] := rfl

/-! ### Targets -/

def Targets.get? (targets : Targets) (tag key : String) : Option Value :=
  (Fields.get? targets tag).bind fun byKey => Fields.get? byKey key

theorem Targets.find_some (targets : Targets) (tag key : String) :
    targets.find (some tag) (some key) = (targets.get? tag key).getD .null := rfl

theorem Targets.get?_add (tag column : String) (targets : Targets) (row : Value)
    (tag' key' : String) :
    (targets.add tag column row).get? tag' key' =
      if tag = tag' ∧ keyOf row column = some key' then some row else targets.get? tag' key' := by
  unfold Targets.add Targets.get?
  cases hkey : keyOf row column with
  | none => simp
  | some key =>
    by_cases htag : tag = tag'
    · subst htag
      by_cases h : key = key'
      · subst h
        simp [Fields.get?_put_self]
      · cases ht : Fields.get? targets tag <;>
          simp [Fields.get?_put_self, Fields.get?_put_of_ne _ _ h, h, Fields.get?]
    · simp [Fields.get?_put_of_ne _ _ htag, htag]

/-- The last row added under a tag and a key is the one that is found. -/
theorem Targets.get?_foldl_add (tag column : String) (rows : List Value) (targets : Targets)
    (tag' key' : String) :
    (rows.foldl (Targets.add tag column) targets).get? tag' key' =
      ((rows.filter fun row => tag == tag' && keyOf row column == some key').getLast?).or
        (targets.get? tag' key') := by
  induction rows generalizing targets with
  | nil => simp
  | cons row rest ih =>
    rw [List.foldl_cons, ih, Targets.get?_add, List.filter_cons]
    by_cases h : tag = tag' ∧ keyOf row column = some key'
    · simp only [h, and_self, if_true, beq_self_eq_true, Bool.and_self, List.getLast?_cons]
      cases (rest.filter fun row => tag' == tag' && keyOf row column == some key').getLast? <;>
        simp_all
    · have hrow : (tag == tag' && keyOf row column == some key') = false := by
        simpa using h
      simp only [h, if_false, hrow, Bool.false_eq_true]

end RelationalQuery.Sql
