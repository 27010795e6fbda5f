import RelationalQuery.Proofs.Sql.Glyph
import RelationalQuery.Sql.Literal
import RelationalQuery.Sql.Query

/-! Queries as glyphs: every string that is not fixed stands within one quoted run. Printed, they
are the text of the query with its values in. -/
namespace RelationalQuery.Sql

open Json (Value)

def partGlyphs (part : List Char) : List Glyph :=
  if part = ['*'] then bare "*" else [.quoted '"' part]

def nameGlyphs (name : String) : List Glyph :=
  (bare ".").intercalate ((Text.splitChars '.' name.toList).map partGlyphs)

def literalGlyphs : Value → List Glyph
  | .null => bare "NULL"
  | v => [.quoted '\'' v.plainText.toList]

def Source.glyphs (s : Source) : List Glyph :=
  match s.asName with
  | none => nameGlyphs s.table
  | some name => nameGlyphs s.table ++ bare " AS " ++ nameGlyphs name

def Link.glyphs (l : Link) : List Glyph :=
  nameGlyphs (qualified l.inner l.innerColumn) ++ bare " = " ++
    nameGlyphs (qualified l.outer l.outerColumn)

mutual

def Condition.glyphs : Condition → List Glyph
  | .compare field operator value =>
    nameGlyphs field ++ bare (" " ++ operator ++ " ") ++ literalGlyphs value
  | .oneOf field values negated =>
    if values.isEmpty then bare (if negated then "1 = 1" else "0 = 1")
    else
      nameGlyphs field ++ bare (if negated then " NOT IN (" else " IN (") ++
        (bare ", ").intercalate (values.map literalGlyphs) ++ bare ")"
  | .between field low high negated =>
    nameGlyphs field ++ bare (if negated then " NOT BETWEEN " else " BETWEEN ") ++
      literalGlyphs low ++ bare " AND " ++ literalGlyphs high
  | .isNull field negated =>
    nameGlyphs field ++ bare (if negated then " IS NOT NULL" else " IS NULL")
  | .datePart field part value =>
    bare part.sql.1 ++ nameGlyphs field ++ bare (part.sql.2 ++ " = ") ++ literalGlyphs value
  | .exists subquery negated =>
    bare (if negated then "NOT EXISTS (" else "EXISTS (") ++ subquery.glyphs ++ bare ")"
  | .count subquery operator value negated =>
    bare (if negated then "NOT ((" else "(") ++ subquery.glyphs ++
      bare (") " ++ operator ++ " ") ++ literalGlyphs value ++ bare (if negated then ")" else "")
  | .group clauses => bare "(" ++ clauseGlyphs clauses ++ bare ")"

def clauseGlyphs : List Clause → List Glyph
  | [] => []
  | ⟨_, c⟩ :: rest => c.glyphs ++ joinedGlyphs rest

def joinedGlyphs : List Clause → List Glyph
  | [] => []
  | ⟨join, c⟩ :: rest => bare (" " ++ join.sql ++ " ") ++ c.glyphs ++ joinedGlyphs rest

def Subquery.glyphs : Subquery → List Glyph
  | .related projection source link clauses =>
    bare ("SELECT " ++ projection.sql ++ " FROM ") ++ source.glyphs ++ bare " WHERE " ++
      link.glyphs ++
      (if clauses.isEmpty then [] else bare " AND (" ++ clauseGlyphs clauses ++ bare ")")
  | .verbatim fragment => bare fragment.sql

end

def CountColumn.glyphs (c : CountColumn) : List Glyph :=
  bare "(" ++ c.subquery.glyphs ++ bare ") AS " ++ nameGlyphs (c.relation ++ "_count")

namespace Query

def columnGlyphs (q : Query) : List (List Glyph) :=
  (if q.columns.isEmpty then [nameGlyphs q.model.table ++ bare ".*"]
    else q.columns.map nameGlyphs) ++ q.counts.map CountColumn.glyphs

def whereGlyphs (q : Query) : List Glyph :=
  if q.clauses.isEmpty then [] else bare " WHERE " ++ clauseGlyphs q.clauses

def orderGlyphs (q : Query) : List Glyph :=
  if q.order.isEmpty then []
  else bare " ORDER BY " ++ (bare ", ").intercalate
    (q.order.map fun (field, direction) => nameGlyphs field ++ bare (" " ++ direction.sql))

def windowGlyphs (q : Query) : List Glyph :=
  match q.window with
  | none => []
  | some w =>
    bare " LIMIT " ++ bare (toString w.limit) ++ bare " OFFSET " ++ bare (toString w.offset)

def glyphs (q : Query) : List Glyph :=
  bare "SELECT " ++ (bare ", ").intercalate q.columnGlyphs ++ bare " FROM " ++
    nameGlyphs q.model.table ++ q.whereGlyphs ++ q.orderGlyphs ++ q.windowGlyphs

end Query

/-! ### Printing -/

theorem printAll_intercalate (sep : List Glyph) (gss : List (List Glyph)) :
    printAll (sep.intercalate gss) = (printAll sep).intercalate (gss.map printAll) := by
  induction gss with
  | nil => rfl
  | cons g rest ih =>
    cases rest with
    | nil => simp
    | cons h rest =>
      rw [List.intercalate_cons_cons, printAll_append, printAll_append, ih]
      simp [List.intercalate_cons_cons]

theorem printAll_partGlyphs (part : List Char) : printAll (partGlyphs part) = quotePart part := by
  unfold partGlyphs quotePart
  split
  · rename_i h
    simp [h]
  · simp [printAll, Glyph.print]

@[simp] theorem printAll_nameGlyphs (name : String) :
    printAll (nameGlyphs name) = (quoteIdentifier name).toList := by
  unfold nameGlyphs quoteIdentifier quoteChars
  rw [printAll_intercalate, List.map_map, String.toList_ofList]
  simp [Function.comp_def, printAll_partGlyphs]

@[simp] theorem printAll_literalGlyphs (v : Value) :
    printAll (literalGlyphs v) = (literal v).toList := by
  cases v <;> simp [literalGlyphs, literal, quoteLiteral, printAll, bare, Glyph.print]

@[simp] theorem Source.printAll_glyphs (s : Source) : printAll s.glyphs = s.sql.toList := by
  obtain ⟨table, asName⟩ := s
  cases asName <;> simp [Source.glyphs, Source.sql]

@[simp] theorem Link.printAll_glyphs (l : Link) : printAll l.glyphs = l.sql.toList := by
  simp [Link.glyphs, Link.sql]

theorem printAll_map_literalGlyphs (values : List Value) :
    printAll ((bare ", ").intercalate (values.map literalGlyphs)) =
      (Fragment.join ", " (values.map Fragment.literal)).sql.toList := by
  rw [printAll_intercalate, Fragment.sql_join, String.toList_intercalate]
  simp [Function.comp_def, Fragment.literal]

mutual

theorem Condition.printAll_glyphs (c : Condition) :
    printAll c.glyphs = (c.render Fragment.literal).sql.toList := by
  match c with
  | .compare field operator value =>
    simp [Condition.glyphs, Condition.render, Fragment.literal]
  | .oneOf field values negated =>
    by_cases h : values.isEmpty
    · cases negated <;> simp [Condition.glyphs, Condition.render, h]
    · have hvalues := printAll_map_literalGlyphs values
      cases negated <;> simp [Condition.glyphs, Condition.render, h, hvalues]
  | .between field low high negated =>
    cases negated <;> simp [Condition.glyphs, Condition.render, Fragment.literal]
  | .isNull field negated => cases negated <;> simp [Condition.glyphs, Condition.render]
  | .datePart field part value =>
    simp [Condition.glyphs, Condition.render, Fragment.literal]
  | .exists subquery negated =>
    have hs := Subquery.printAll_glyphs subquery
    cases negated <;> simp [Condition.glyphs, Condition.render, hs]
  | .count subquery operator value negated =>
    have hs := Subquery.printAll_glyphs subquery
    cases negated <;> simp [Condition.glyphs, Condition.render, Fragment.literal, hs]
  | .group clauses =>
    have hcs := printAll_clauseGlyphs clauses
    simp [Condition.glyphs, Condition.render, hcs]

theorem printAll_clauseGlyphs (clauses : List Clause) :
    printAll (clauseGlyphs clauses) = (renderClauses Fragment.literal clauses).sql.toList := by
  match clauses with
  | [] => rfl
  | ⟨join, c⟩ :: rest =>
    have hc := Condition.printAll_glyphs c
    have hrest := printAll_joinedGlyphs rest
    simp [clauseGlyphs, renderClauses, hc, hrest]

theorem printAll_joinedGlyphs (clauses : List Clause) :
    printAll (joinedGlyphs clauses) = (renderJoined Fragment.literal clauses).sql.toList := by
  match clauses with
  | [] => rfl
  | ⟨join, c⟩ :: rest =>
    have hc := Condition.printAll_glyphs c
    have hrest := printAll_joinedGlyphs rest
    simp [joinedGlyphs, renderJoined, hc, hrest]

theorem Subquery.printAll_glyphs (s : Subquery) :
    printAll s.glyphs = (s.render Fragment.literal).sql.toList := by
  match s with
  | .related projection source link clauses =>
    have hcs := printAll_clauseGlyphs clauses
    cases h : clauses.isEmpty <;> simp [Subquery.glyphs, Subquery.render, Fragment.empty, h, hcs]
  | .verbatim fragment => simp [Subquery.glyphs, Subquery.render]

end

namespace Query

theorem printAll_columnGlyphs (q : Query) :
    printAll ((bare ", ").intercalate q.columnGlyphs) =
      (Fragment.join ", " (q.columnFragments Fragment.literal)).sql.toList := by
  have hcount (c : CountColumn) : printAll c.glyphs = (c.render Fragment.literal).sql.toList := by
    simp [CountColumn.glyphs, CountColumn.render, Subquery.printAll_glyphs]
  rw [printAll_intercalate, Fragment.sql_join, String.toList_intercalate]
  unfold columnGlyphs columnFragments
  cases h : q.columns.isEmpty <;> simp [Function.comp_def, hcount]

theorem printAll_orderGlyphs (q : Query) : printAll q.orderGlyphs = q.orderSql.toList := by
  unfold orderGlyphs orderSql
  cases h : q.order.isEmpty
  · simp [printAll_intercalate, String.toList_intercalate, Function.comp_def]
  · simp

theorem printAll_windowGlyphs (q : Query) : printAll q.windowGlyphs = q.windowSql.toList := by
  unfold windowGlyphs windowSql
  cases q.window with
  | none => rfl
  | some w =>
    change _ = (" LIMIT " ++ toString w.limit ++ " OFFSET " ++ toString w.offset).toList
    simp

theorem printAll_glyphs (q : Query) :
    printAll q.glyphs = (q.render Fragment.literal).sql.toList := by
  have hwhere : printAll q.whereGlyphs = (q.whereFragment Fragment.literal).sql.toList := by
    unfold whereGlyphs whereFragment
    cases h : q.clauses.isEmpty <;> simp [printAll_clauseGlyphs, Fragment.empty]
  simp [glyphs, render, core, printAll_columnGlyphs, hwhere, printAll_orderGlyphs,
    printAll_windowGlyphs]

end Query

end RelationalQuery.Sql
