import RelationalQuery.Compile.Spec
import RelationalQuery.Proofs.Sql.Grammar
import RelationalQuery.Proofs.Sql.Inlining
import RelationalQuery.Proofs.Sql.Rendering

/-! What a server reads in the text of a query: a sentence of the grammar. -/
namespace RelationalQuery.Sql

open Json (Value)

theorem listed_intercalate {item : List Glyph → Prop} {gss : List (List Glyph)} (hne : gss ≠ [])
    (h : ∀ g ∈ gss, item g) : Listed item ((bare ", ").intercalate gss) := by
  induction gss with
  | nil => exact absurd rfl hne
  | cons g rest ih =>
    have hg : item g := h g (by simp)
    cases rest with
    | nil => simpa using Listed.one hg
    | cons g' rest =>
      rw [List.intercalate_cons_cons]
      exact .cons hg (ih (by simp) fun g hg => h g (by simp [hg]))

theorem isPart_partGlyphs (part : List Char) : IsPart (partGlyphs part) := by
  unfold partGlyphs
  split
  · exact .star
  · exact .quoted part

theorem isName_nameGlyphs (name : String) : IsName (nameGlyphs name) := by
  unfold nameGlyphs
  have hne := Text.splitChars_ne_nil '.' name.toList
  revert hne
  induction Text.splitChars '.' name.toList with
  | nil => exact fun hne => absurd rfl hne
  | cons part rest ih =>
    intro _
    cases rest with
    | nil => simpa using IsName.part (isPart_partGlyphs part)
    | cons part' rest =>
      rw [List.map_cons, List.map_cons, List.intercalate_cons_cons]
      exact .dot (isPart_partGlyphs part) (ih (by simp))

theorem IsName.star {n : List Glyph} (h : IsName n) : IsName (n ++ bare ".*") := by
  have hstar : bare ".*" = bare "." ++ bare "*" := rfl
  rw [hstar, ← List.append_assoc]
  induction h with
  | part hp => exact .dot hp (.part .star)
  | dot hp _ ih => simpa only [List.append_assoc] using IsName.dot hp ih

theorem isLiteral_literalGlyphs (v : Value) : IsLiteral (literalGlyphs v) := by
  cases v with
  | null => exact .null
  | _ => exact .quoted _

theorem isNumber_repr (n : Nat) : IsNumber (bare n.repr) := by
  unfold bare
  rw [Nat.toList_repr]
  refine .digits ?_ fun d hd => Nat.isDigit_of_mem_toDigits (by decide) (by decide) hd
  exact Nat.toDigits_ne_nil

theorem Source.isSource (s : Source) : IsSource s.glyphs := by
  unfold Source.glyphs
  split
  · exact .table (isName_nameGlyphs _)
  · exact .renamed (isName_nameGlyphs _) (isName_nameGlyphs _)

theorem isCondition_datePart {n v : List Glyph} (part : DatePart) (hn : IsName n)
    (hv : IsLiteral v) :
    IsCondition (bare part.sql.1 ++ n ++ bare (part.sql.2 ++ " = ") ++ v) := by
  have hextract {s : String} (hs : s ∈ ["day", "month", "year"]) := IsCondition.extract hn hs hv
  cases part with
  | date => exact .cast hn (by decide) hv
  | time => exact .cast hn (by decide) hv
  | day => exact hextract (s := "day") (by decide)
  | month => exact hextract (s := "month") (by decide)
  | year => exact hextract (s := "year") (by decide)

mutual

theorem Condition.WellFormed.isCondition {c : Condition} (h : c.WellFormed) :
    IsCondition c.glyphs := by
  match c with
  | .compare field operator value =>
    exact .compare (isName_nameGlyphs field) h (isLiteral_literalGlyphs value)
  | .oneOf field values negated =>
    unfold Condition.glyphs
    split
    · exact .constant (by cases negated <;> decide)
    · rename_i hne
      refine .oneOf (isName_nameGlyphs field) (by cases negated <;> decide) ?_
      refine listed_intercalate (by simpa using hne) fun g hg => ?_
      obtain ⟨v, _, rfl⟩ := List.mem_map.1 hg
      exact isLiteral_literalGlyphs v
  | .between field low high negated =>
    exact .between (isName_nameGlyphs field) (by cases negated <;> decide)
      (isLiteral_literalGlyphs low) (isLiteral_literalGlyphs high)
  | .isNull field negated =>
    exact .isNull (isName_nameGlyphs field) (by cases negated <;> decide)
  | .datePart field part value =>
    exact isCondition_datePart part (isName_nameGlyphs field) (isLiteral_literalGlyphs value)
  | .exists subquery negated =>
    have hs : subquery.WellFormed .rows := h
    exact .exists (Subquery.WellFormed.isSubquery hs) (by cases negated <;> decide)
  | .count subquery operator value negated =>
    obtain ⟨hs, hop⟩ : subquery.WellFormed .count ∧ operator ∈ comparisonOperators := h
    have hsub := Subquery.WellFormed.isSubquery hs
    have hv := isLiteral_literalGlyphs value
    cases negated with
    | false => simpa [Condition.glyphs, bare] using IsCondition.count hsub hop hv
    | true => exact .notCount hsub hop hv
  | .group clauses =>
    obtain ⟨hne, hall⟩ : clauses ≠ [] ∧ WellFormedAll clauses := h
    exact .group (isClauses_clauseGlyphs hne hall)

theorem isClauses_clauseGlyphs {clauses : List Clause} (hne : clauses ≠ [])
    (h : WellFormedAll clauses) : IsClauses (clauseGlyphs clauses) := by
  match clauses with
  | [] => exact absurd rfl hne
  | ⟨join, c⟩ :: [] =>
    obtain ⟨hc, -⟩ : c.WellFormed ∧ True := h
    simpa [clauseGlyphs, joinedGlyphs] using IsClauses.one hc.isCondition
  | ⟨join, c⟩ :: ⟨join', c'⟩ :: rest =>
    obtain ⟨hc, hrest⟩ : c.WellFormed ∧ WellFormedAll (⟨join', c'⟩ :: rest) := h
    have hjoin : " " ++ join'.sql ++ " " ∈ [" AND ", " OR "] := by cases join' <;> decide
    -- The rest printed as a list of its own lacks just the join in front of it.
    have hclauses := IsClauses.cons hc.isCondition hjoin (isClauses_clauseGlyphs (by simp) hrest)
    simpa [clauseGlyphs, joinedGlyphs] using hclauses

theorem Subquery.WellFormed.isSubquery {asked : Projection} {s : Subquery}
    (h : s.WellFormed asked) : IsSubquery asked.sql s.glyphs := by
  match s with
  | .related projection source link clauses =>
    obtain ⟨rfl, hall⟩ : projection = asked ∧ WellFormedAll clauses := h
    have hy : projection.sql ∈ ["*", "count(*)"] := by cases projection <;> decide
    have hlinked := IsLinked.mk hy source.isSource
      (isName_nameGlyphs (qualified link.inner link.innerColumn))
      (isName_nameGlyphs (qualified link.outer link.outerColumn))
    by_cases he : clauses.isEmpty
    · simpa [Subquery.glyphs, Link.glyphs, he] using IsSubquery.all hlinked
    · have hcs := isClauses_clauseGlyphs (by simpa using he) hall
      simpa [Subquery.glyphs, Link.glyphs, he] using IsSubquery.constrained hlinked hcs
  | .verbatim _ => exact h.elim

end

theorem CountColumn.isColumn {c : CountColumn} (h : c.subquery.WellFormed .count) :
    IsColumn c.glyphs :=
  .count (Subquery.WellFormed.isSubquery h) (isName_nameGlyphs _)

theorem perhaps_ite {item : List Glyph → Prop} {b : Bool} {g : List Glyph}
    (h : b = false → item g) : Perhaps item (if b then [] else g) := by
  cases b with
  | false => exact .some (h rfl)
  | true => exact .none

namespace Query

theorem WellFormed.isSentence {q : Query} (h : q.WellFormed) : IsSentence q.glyphs := by
  have hcolumns : Listed IsColumn ((bare ", ").intercalate q.columnGlyphs) := by
    unfold columnGlyphs
    refine listed_intercalate ?_ fun g hg => ?_
    · cases hc : q.columns <;> simp
    · rcases List.mem_append.1 hg with hg | hg
      · split at hg
        · rw [List.mem_singleton.1 hg]
          exact .name (isName_nameGlyphs _).star
        · obtain ⟨column, _, rfl⟩ := List.mem_map.1 hg
          exact .name (isName_nameGlyphs column)
      · obtain ⟨c, hc, rfl⟩ := List.mem_map.1 hg
        exact CountColumn.isColumn (h.counts c hc)
  have hwhere : Perhaps IsWhere q.whereGlyphs := perhaps_ite fun hne =>
    .mk (isClauses_clauseGlyphs (by simpa using hne) h.clauses)
  have horder : Perhaps IsOrder q.orderGlyphs := by
    refine perhaps_ite fun hne => .mk (listed_intercalate (by simpa using hne) fun g hg => ?_)
    obtain ⟨⟨field, direction⟩, _, rfl⟩ := List.mem_map.1 hg
    exact .mk (isName_nameGlyphs field) (by cases direction <;> decide)
  have hwindow : Perhaps IsWindow q.windowGlyphs := by
    unfold windowGlyphs
    split
    · exact .none
    · exact .some (.mk (isNumber_repr _) (isNumber_repr _))
  exact .mk hcolumns (isName_nameGlyphs _) hwhere horder hwindow

/-- The text that is sent is read as the query's own glyphs, and these are a sentence. -/
def SendsSentence (q : Query) : Prop :=
  ∃ text, q.build.inline = .ok text ∧ readGlyphs text = some q.glyphs ∧ IsSentence q.glyphs

theorem WellFormed.sendsSentence {q : Query} (h : q.WellFormed) : q.SendsSentence :=
  ⟨_, (render_fills h).inline_eq,
    readGlyphs_of_printAll h.isSentence.legible (printAll_glyphs q), h.isSentence⟩

/-- However a query is built, and whatever specification is then compiled onto it, nothing that
is not a word of the grammar stands outside quotes. -/
theorem sendsSentence_of_reachable {schema : Schema} {q : Query} (h : Reachable schema q) :
    q.SendsSentence ∧ ∀ spec : Spec, ((run spec.steps).final q).SendsSentence :=
  ⟨h.wellFormed.sendsSentence, fun spec => (h.run spec.steps).wellFormed.sendsSentence⟩

theorem sendsSentence_treeQuery :
    Reachable tree treeQuery ∧ treeQuery.SendsSentence ∧
    ∀ spec : Spec, ((run spec.steps).final treeQuery).SendsSentence :=
  ⟨reachable_treeQuery, sendsSentence_of_reachable reachable_treeQuery⟩

end Query
end RelationalQuery.Sql
