import Mathlib.Data.List.Infix
import RelationalQuery.Sql.Query

/-! The names that tables go by inside subqueries over themselves, and what becomes of the columns
they qualify. -/
namespace RelationalQuery.Sql

def selfName (depth : Nat) : String := s!"self_{depth}"

theorem selfName_injective {m n : Nat} (h : selfName m = selfName n) : m = n := by
  have hrepr : m.repr = n.repr := (String.append_right_inj "self_").1 h
  have hdigits : Nat.toDigits 10 m = Nat.toDigits 10 n := by
    rw [← Nat.toList_repr, ← Nat.toList_repr, hrepr]
  calc
    m = Nat.ofDigitChars 10 (Nat.toDigits 10 m) 0 := Nat.ofDigitChars_ten_toDigits.symm
    _ = Nat.ofDigitChars 10 (Nat.toDigits 10 n) 0 := by rw [hdigits]
    _ = n := Nat.ofDigitChars_ten_toDigits

theorem toList_selfName (n : Nat) :
    (selfName n).toList = "self_".toList ++ Nat.toDigits 10 n := by
  rw [← Nat.toList_repr, ← String.toList_append]
  rfl

theorem ne_selfName {table : String} (h : ¬ "self_".toList <+: table.toList) (n : Nat) :
    table ≠ selfName n := by
  rintro rfl
  exact h ⟨_, (toList_selfName n).symm⟩

theorem point_not_mem_selfName (n : Nat) : '.' ∉ (selfName n).toList := by
  rw [toList_selfName, List.mem_append, not_or]
  refine ⟨by decide, fun h => ?_⟩
  have hdigit := Nat.isDigit_of_mem_toDigits (by decide) (by decide) h
  simp at hdigit

/-- The name of a field is that of a column behind a table's name and a point. -/
def QualifiedBy (name field : String) : Prop := name.toList ++ ['.'] <+: field.toList

theorem qualifiedBy_qualified (name column : String) :
    QualifiedBy name (qualified name column) := by
  refine ⟨column.toList, ?_⟩
  simp [qualified]

/-- No column is left under the table's name, unless that name itself starts with the new one and a
point. -/
theorem not_qualifiedBy_moveColumn {table field : String} {n : Nat} (hne : table ≠ selfName n)
    (hstart : ¬ QualifiedBy (selfName n) table) :
    ¬ QualifiedBy table (moveColumn table (selfName n) field) := by
  unfold moveColumn
  dsimp only
  split
  · intro h
    have hmoved := qualifiedBy_qualified (selfName n)
      (String.ofList (field.toList.drop (table.toList ++ ['.']).length))
    -- Both names start the moved column, each with its point, so one of them starts the other.
    obtain hpre | hpre := List.prefix_or_prefix_of_prefix hmoved h
    · obtain heq | hpre := List.prefix_concat_iff.1 hpre
      · exact hne (String.toList_inj.1 (List.append_cancel_right heq)).symm
      · exact hstart hpre
    · obtain heq | hpre := List.prefix_concat_iff.1 hpre
      · exact hne (String.toList_inj.1 (List.append_cancel_right heq))
      · exact point_not_mem_selfName n (hpre.subset (by simp))
  · rename_i hkept
    exact fun h => hkept (List.isPrefixOf_iff_prefix.2 h)

/-! ### Columns of a query's own level -/

mutual

/-- The columns that a condition tests in the rows it is about: groups are looked into, subqueries
are not. -/
def Condition.fields : Condition → List String
  | .compare field _ _ | .oneOf field _ _ | .between field _ _ _ | .isNull field _
  | .datePart field _ _ => [field]
  | .exists .. | .count .. => []
  | .group clauses => fieldsAll clauses

def fieldsAll : List Clause → List String
  | [] => []
  | ⟨_, c⟩ :: rest => c.fields ++ fieldsAll rest

end

mutual

theorem Condition.fields_requalify (table name : String) (c : Condition) :
    (c.requalify table name).fields = c.fields.map (moveColumn table name) := by
  match c with
  | .compare .. | .oneOf .. | .between .. | .isNull .. | .datePart .. | .exists .. | .count .. =>
    simp [Condition.requalify, Condition.fields]
  | .group clauses =>
    simpa only [Condition.requalify, Condition.fields]
      using fieldsAll_requalifyAll table name clauses

theorem fieldsAll_requalifyAll (table name : String) (clauses : List Clause) :
    fieldsAll (requalifyAll table name clauses) =
      (fieldsAll clauses).map (moveColumn table name) := by
  match clauses with
  | [] => rfl
  | ⟨_, c⟩ :: rest =>
    simp only [requalifyAll, fieldsAll, List.map_append, c.fields_requalify table name,
      fieldsAll_requalifyAll table name rest]

end

end RelationalQuery.Sql
