import RelationalQuery.Proofs.Sql.Aliases
import RelationalQuery.Proofs.Sql.Names

/-! Which source a quoted column is one of. A column names the innermost source that is visible
under what stands before its last part, and a table whose name holds points is visible under each
end of that name. -/
namespace RelationalQuery

/-- Cut at its points, a qualified column is the qualifier's parts and the column's. -/
theorem Text.split_qualified (name column : String) :
    split '.' (Sql.qualified name column) = split '.' name ++ split '.' column :=
  split_append rfl name column

namespace Sql

/-- A source is visible under its alias alone, or else under each end of its table's name behind the
schema that the server finds it in. `home` is that schema of a table named without one. -/
def Source.visible (home : String → List String) (s : Source) : List String :=
  match s.asName with
  | some name => [name]
  | none => (if '.' ∈ s.table.toList then [] else home s.table) ++ Text.split '.' s.table

/-- The innermost of some sources that a quoted column is one of. -/
def resolve (home : String → List String) (column : String) (sources : List Source) :
    Option Source :=
  (readName column).bind fun parts => sources.find? (parts.dropLast <:+ ·.visible home)

variable {home : String → List String} {name column : String} {source around : Source}
  {beyond : List Source}

theorem resolve_qualified (h : '.' ∉ column.toList) (sources : List Source) :
    resolve home (quoteIdentifier (qualified name column)) sources =
      sources.find? (Text.split '.' name <:+ ·.visible home) := by
  rw [resolve, readName_quoteIdentifier, Option.bind_some, Text.split_qualified,
    Text.split_of_not_mem h, List.dropLast_concat]

def Source.PlainAlias (s : Source) : Prop := ∀ name ∈ s.asName, '.' ∉ name.toList

theorem Source.PlainAlias.split_name_suffix (h : source.PlainAlias) (home : String → List String) :
    Text.split '.' source.name <:+ source.visible home := by
  unfold Source.name Source.visible
  cases hname : source.asName with
  | none => exact List.suffix_append ..
  | some name => rw [Option.getD_some, Text.split_of_not_mem (h name hname)]

theorem resolve_inner (hsource : source.PlainAlias) (h : '.' ∉ column.toList) :
    resolve home (quoteIdentifier (qualified source.name column)) (source :: beyond) =
      some source := by
  have hvisible := hsource.split_name_suffix home
  rw [resolve_qualified h]
  simp only [List.find?_cons, hvisible, decide_true]

theorem resolve_outer_iff (haround : around.PlainAlias) (hne : source ≠ around)
    (h : '.' ∉ column.toList) :
    resolve home (quoteIdentifier (qualified around.name column)) (source :: around :: beyond) =
        some around ↔
      ¬ Text.split '.' around.name <:+ source.visible home := by
  rw [resolve_qualified h, List.find?_cons]
  by_cases hsuffix : Text.split '.' around.name <:+ source.visible home
  · simp only [hsuffix, decide_true, not_true, Option.some.injEq, hne]
  · have hvisible := haround.split_name_suffix home
    simp only [hsuffix, decide_false, List.find?_cons, hvisible, decide_true, not_false_iff]

theorem Source.sql_eq (s : Source) : s.sql = quoteIdentifier s.table ++
    s.asName.elim "" fun name => " AS " ++ quoteIdentifier name := by
  unfold Source.sql
  cases s.asName with
  | none => exact String.append_empty.symm
  | some name => exact String.append_assoc ..

/-- Names without points are visible under no others. -/
theorem not_split_name_suffix (hsource : '.' ∉ source.name.toList) (hname : '.' ∉ name.toList)
    (hne : source.name ≠ name) : ¬ Text.split '.' name <:+ source.visible home := by
  have hlast : (source.visible home).getLast? = some source.name := by
    unfold Source.visible
    unfold Source.name at hsource ⊢
    cases halias : source.asName with
    | none =>
      rw [halias, Option.getD_none] at hsource
      rw [Text.split_of_not_mem hsource, List.getLast?_concat, Option.getD_none]
    | some other => rfl
  rw [Text.split_of_not_mem hname]
  rintro ⟨front, hfront⟩
  rw [← hfront, List.getLast?_concat] at hlast
  exact hne (Option.some.inj hlast).symm

end Sql
end RelationalQuery
