import RelationalQuery.Proofs.Sql.Placeholders
import RelationalQuery.Proofs.Sql.Reachable

/-! What becomes of a query's placeholders: each takes the value that belongs to the condition it
was rendered for, so that filling them in is the same as writing the values in the first place. -/
namespace RelationalQuery.Sql

open Json (Value)

/-! ### Closed texts -/

theorem pass_doubled (quote : Char) (cs : List Char) (h : quote = '\'' ∨ quote = '"') :
    Quoting.pass (some quote) (doubled quote cs) = some (some quote) := by
  have hq : quote ≠ '?' := by
    rcases h with rfl | rfl <;> decide
  induction cs with
  | nil => rfl
  | cons c cs ih =>
    by_cases hc : c = quote
    · subst hc
      simpa [doubled, Quoting.pass, Quoting.after, h, hq] using ih
    · simpa [doubled, Quoting.pass, Quoting.after, hc] using ih

theorem pass_quotePart (part : List Char) : Quoting.pass none (quotePart part) = some none := by
  unfold quotePart
  split
  · rename_i h
    subst h
    decide
  · simp [Quoting.pass, Quoting.after, Quoting.pass_append, pass_doubled]

theorem closed_quoteIdentifier (name : String) : Closed (quoteIdentifier name) := by
  apply closed_ofList
  unfold quoteChars
  induction Text.splitChars '.' name.toList with
  | nil => rfl
  | cons part parts ih =>
    cases parts with
    | nil => simpa using pass_quotePart part
    | cons part' parts =>
      rw [List.map_cons, List.map_cons, List.intercalate_cons_cons, Quoting.pass_append,
        Quoting.pass_append, pass_quotePart]
      simpa [Quoting.pass, Quoting.after] using ih

theorem closed_intercalate {sep : String} (hsep : Closed sep) {texts : List String}
    (h : ∀ s ∈ texts, Closed s) : Closed (sep.intercalate texts) := by
  induction texts with
  | nil => simp [Closed, Quoting.pass]
  | cons s texts ih =>
    cases texts with
    | nil => simpa using h s (by simp)
    | cons t texts =>
      rw [String.intercalate_cons_cons]
      exact ((h s (by simp)).append hsep).append (ih fun t ht => h t (by simp [ht]))

theorem closed_of_mem_comparisonOperators {operator : String}
    (h : operator ∈ comparisonOperators) : Closed operator := by
  have hall : ∀ operator ∈ comparisonOperators, Closed operator := by decide
  exact hall operator h

theorem closed_join (join : Join) : Closed join.sql := by
  cases join <;> decide

theorem closed_repr (n : Nat) : Closed n.repr := by
  have h (cs : List Char) (hcs : ∀ c ∈ cs, c.isDigit) : Quoting.pass none cs = some none := by
    induction cs with
    | nil => rfl
    | cons c cs ih =>
      have hc : c.isDigit := hcs c (by simp)
      have hc' : c ≠ '?' ∧ c ≠ '\'' ∧ c ≠ '"' := by
        refine ⟨?_, ?_, ?_⟩ <;> rintro rfl <;> exact absurd hc (by decide)
      simpa [Quoting.pass, Quoting.after, hc'] using ih fun c hc => hcs c (by simp [hc])
  rw [Closed, Nat.toList_repr]
  exact h _ fun c hc => Nat.isDigit_of_mem_toDigits (by decide) (by decide) hc

theorem closed_window (w : Window) : Closed w.sql := by
  have hlimit : Closed " LIMIT " := by decide
  have hoffset : Closed " OFFSET " := by decide
  exact ((hlimit.append (closed_repr _)).append hoffset).append (closed_repr _)

theorem closed_source (s : Source) : Closed s.sql := by
  unfold Source.sql
  split
  · exact closed_quoteIdentifier _
  · exact ((closed_quoteIdentifier _).append (by decide)).append (closed_quoteIdentifier _)

theorem closed_link (l : Link) : Closed l.sql :=
  ((closed_quoteIdentifier _).append (by decide)).append (closed_quoteIdentifier _)

theorem closed_projection (p : Projection) : Closed p.sql := by
  cases p <;> decide

/-! ### Conditions -/

section
variable (w : Value → String)

def written (v : Value) : Fragment := (w v : Fragment)

variable {w}

theorem fills_map_written (values : List Value) :
    List.Forall₂ (Fills w) (values.map Fragment.placeholder) (values.map (written w)) := by
  induction values with
  | nil => exact .nil
  | cons v values ih => exact .cons (fills_placeholder v) ih

theorem fills_ite {b : Bool} {f f' g g' : Fragment} (hf : Fills w f f') (hg : Fills w g g') :
    Fills w (if b then f else g) (if b then f' else g') := by
  cases b
  · exact hg
  · exact hf

theorem closed_ite {b : Bool} {s t : String} (hs : Closed s) (ht : Closed t) :
    Closed (if b then s else t) := by
  cases b
  · exact ht
  · exact hs

mutual

theorem Condition.fills {c : Condition} (h : c.WellFormed) :
    Fills w (c.render Fragment.placeholder) (c.render (written w)) := by
  match c with
  | .compare field operator value =>
    have hop : Closed operator := closed_of_mem_comparisonOperators h
    have hstart := ((Fills.of_closed (w := w) (closed_quoteIdentifier field)).append_text
      (s := " ") (by decide)).append_text hop
    exact (hstart.append_text (by decide)).append (fills_placeholder value)
  | .oneOf field values negated =>
    simp only [Condition.render]
    split
    · exact fills_ite (.of_closed (by decide)) (.of_closed (by decide))
    · have hvalues : Fills w (Fragment.join ", " (values.map Fragment.placeholder))
          (Fragment.join ", " (values.map (written w))) :=
        .join (by decide) (fills_map_written values)
      have hstart := (Fills.of_closed (w := w) (closed_quoteIdentifier field)).append_text
        (s := if negated then " NOT IN (" else " IN (") (closed_ite (by decide) (by decide))
      exact (hstart.append hvalues).append_text (by decide)
  | .between field low high negated =>
    have hstart := (Fills.of_closed (w := w) (closed_quoteIdentifier field)).append_text
      (s := if negated then " NOT BETWEEN " else " BETWEEN ") (closed_ite (by decide) (by decide))
    exact ((hstart.append (fills_placeholder low)).append_text (by decide)).append
      (fills_placeholder high)
  | .isNull field negated =>
    exact (Fills.of_closed (closed_quoteIdentifier field)).append_text
      (closed_ite (by decide) (by decide))
  | .datePart field part value =>
    have hpart : Closed part.sql.1 ∧ Closed part.sql.2 := by
      cases part <;> decide
    have hcolumn := ((Fills.of_closed (w := w) hpart.1).append_text
      (closed_quoteIdentifier field)).append_text hpart.2
    exact (hcolumn.append_text (by decide)).append (fills_placeholder value)
  | .exists subquery negated =>
    have hs : subquery.WellFormed .rows := h
    have hopen : Fills w (if negated then "NOT EXISTS (" else "EXISTS (")
        (if negated then "NOT EXISTS (" else "EXISTS (") :=
      fills_ite (.of_closed (by decide)) (.of_closed (by decide))
    exact (hopen.append (Subquery.fills hs)).append_text (by decide)
  | .count subquery operator value negated =>
    obtain ⟨hs, hop⟩ : subquery.WellFormed .count ∧ operator ∈ comparisonOperators := h
    have hopen : Fills w (if negated then "NOT ((" else "(") (if negated then "NOT ((" else "(") :=
      fills_ite (.of_closed (by decide)) (.of_closed (by decide))
    have hclose : Fills w (if negated then ")" else "") (if negated then ")" else "") :=
      fills_ite (.of_closed (by decide)) (.of_closed (by decide))
    have hmiddle := ((Fills.of_closed (w := w) (s := ") ") (by decide)).append_text
      (closed_of_mem_comparisonOperators hop)).append_text (s := " ") (by decide)
    exact (((hopen.append (Subquery.fills hs)).append hmiddle).append
      (fills_placeholder value)).append hclose
  | .group clauses =>
    obtain ⟨-, hall⟩ : clauses ≠ [] ∧ WellFormedAll clauses := h
    exact ((Fills.of_closed (by decide)).append (renderClauses_fills hall)).append_text (by decide)

theorem renderClauses_fills {clauses : List Clause} (h : WellFormedAll clauses) :
    Fills w (renderClauses Fragment.placeholder clauses) (renderClauses (written w) clauses) := by
  match clauses with
  | [] => exact .empty
  | ⟨join, c⟩ :: rest =>
    obtain ⟨hc, hrest⟩ : c.WellFormed ∧ WellFormedAll rest := h
    exact (Condition.fills hc).append (renderJoined_fills hrest)

theorem renderJoined_fills {clauses : List Clause} (h : WellFormedAll clauses) :
    Fills w (renderJoined Fragment.placeholder clauses) (renderJoined (written w) clauses) := by
  match clauses with
  | [] => exact .empty
  | ⟨join, c⟩ :: rest =>
    obtain ⟨hc, hrest⟩ : c.WellFormed ∧ WellFormedAll rest := h
    have hjoin := ((Fills.of_closed (w := w) (s := " ") (by decide)).append_text
      (closed_join join)).append_text (s := " ") (by decide)
    exact (hjoin.append (Condition.fills hc)).append (renderJoined_fills hrest)

theorem Subquery.fills {asked : Projection} {s : Subquery} (h : s.WellFormed asked) :
    Fills w (s.render Fragment.placeholder) (s.render (written w)) := by
  match s with
  | .related projection source link clauses =>
    obtain ⟨-, hall⟩ : projection = asked ∧ WellFormedAll clauses := h
    have hselect := (Fills.of_closed (w := w) (s := "SELECT ") (by decide)).append_text
      (closed_projection projection)
    have hsource := (hselect.append_text (s := " FROM ") (by decide)).append_text
      (closed_source source)
    have hlink := (hsource.append_text (s := " WHERE ") (by decide)).append_text
      (closed_link link)
    refine hlink.append (fills_ite .empty ?_)
    exact ((Fills.of_closed (by decide)).append (renderClauses_fills hall)).append_text (by decide)
  | .verbatim _ => exact h.elim

end

/-! ### Queries -/

theorem CountColumn.fills {c : CountColumn} (h : c.subquery.WellFormed .count) :
    Fills w (c.render Fragment.placeholder) (c.render (written w)) := by
  have hname := (Fills.of_closed (w := w) (s := ") AS ") (by decide)).append_text
    (closed_quoteIdentifier (c.relation ++ "_count"))
  exact ((Fills.of_closed (by decide)).append (Subquery.fills h)).append hname

namespace Query

theorem columnFragments_fills {q : Query} (h : q.WellFormed) :
    List.Forall₂ (Fills w) (q.columnFragments Fragment.placeholder)
      (q.columnFragments (written w)) := by
  unfold columnFragments
  refine List.rel_append ?_ ?_
  · split
    · exact .cons ((Fills.of_closed (closed_quoteIdentifier _)).append_text (by decide)) .nil
    · rw [List.forall₂_map_left_iff, List.forall₂_map_right_iff, List.forall₂_same]
      exact fun column _ => .of_closed (closed_quoteIdentifier column)
  · rw [List.forall₂_map_left_iff, List.forall₂_map_right_iff, List.forall₂_same]
    exact fun column hm => CountColumn.fills (h.counts column hm)

theorem core_fills {q : Query} (h : q.WellFormed) :
    Fills w (q.core Fragment.placeholder) (q.core (written w)) := by
  have hcolumns : Fills w (Fragment.join ", " (q.columnFragments Fragment.placeholder))
      (Fragment.join ", " (q.columnFragments (written w))) :=
    .join (by decide) (columnFragments_fills h)
  have hwhere : Fills w (q.whereFragment Fragment.placeholder) (q.whereFragment (written w)) :=
    fills_ite .empty ((Fills.of_closed (by decide)).append (renderClauses_fills h.clauses))
  have htable := (Fills.of_closed (w := w) (s := " FROM ") (by decide)).append_text
    (closed_quoteIdentifier q.model.table)
  exact (((Fills.of_closed (by decide)).append hcolumns).append htable).append hwhere

theorem closed_orderSql (q : Query) : Closed q.orderSql := by
  have hitem (item : String × Direction) :
      Closed (quoteIdentifier item.1 ++ " " ++ item.2.sql) :=
    ((closed_quoteIdentifier item.1).append (by decide)).append (by cases item.2 <;> decide)
  unfold orderSql
  split
  · decide
  · refine Closed.append (by decide) (closed_intercalate (by decide) ?_)
    intro s hs
    obtain ⟨item, _, rfl⟩ := List.mem_map.1 hs
    exact hitem item

theorem render_fills {q : Query} (h : q.WellFormed) :
    Fills w (q.render Fragment.placeholder) (q.render (written w)) := by
  have hwindow : Closed q.windowSql := by
    unfold windowSql
    split
    · decide
    · exact closed_window _
  exact (core_fills h).append
    ((Fills.of_closed (closed_orderSql q)).append_text hwindow)

theorem renderCount_fills {q : Query} (h : q.WellFormed) :
    Fills w (q.renderCount Fragment.placeholder) (q.renderCount (written w)) :=
  ((Fills.of_closed (by decide)).append (core_fills h)).append_text (by decide)

end Query

end

/-- A fragment whose placeholders and bindings fit is inlined to the text with the values in. -/
theorem Fills.inline_eq {f g : Fragment} (h : Fills literal f g) : f.inline = .ok g.sql := by
  unfold Fragment.inline
  rw [inlineSegments_of_fill h.fill_eq, String.ofList_toList]

/-- There are as many placeholders as bindings, and however values are written, writing the
bindings in the place of the placeholders gives what rendering the values in place gives. -/
def EachInPlace (built : Fragment) (render : (Value → Fragment) → Fragment) : Prop :=
  (splitPlaceholders built.sql).count .placeholder = built.bindings.length ∧
  ∀ w : Value → String,
    fill w (splitPlaceholders built.sql) built.bindings = some (render (written w)).sql.toList

theorem EachInPlace.of_fills (render : (Value → Fragment) → Fragment)
    (h : ∀ w, Fills w (render Fragment.placeholder) (render (written w))) :
    EachInPlace (render Fragment.placeholder) render :=
  ⟨count_placeholder_of_fill (h literal).fill_eq, fun w => (h w).fill_eq⟩

namespace Query

/-- Inlining never fails, and puts every value at the place its condition is rendered at. -/
theorem inline_build_eq_render {schema : Schema} {q : Query} (h : Reachable schema q) :
    q.build.inline = .ok (q.render Fragment.literal).sql ∧
    q.buildCount.inline = .ok (q.renderCount Fragment.literal).sql ∧
    EachInPlace q.build q.render ∧ EachInPlace q.buildCount q.renderCount := by
  have hq := h.wellFormed
  exact ⟨(render_fills hq).inline_eq, (renderCount_fills hq).inline_eq,
    .of_fills q.render fun _ => render_fills hq,
    .of_fills q.renderCount fun _ => renderCount_fills hq⟩

theorem inline_build_treeQuery :
    Reachable tree treeQuery ∧
    treeQuery.build.inline = .ok (treeQuery.render Fragment.literal).sql ∧
    treeQuery.buildCount.inline = .ok (treeQuery.renderCount Fragment.literal).sql ∧
    EachInPlace treeQuery.build treeQuery.render ∧
    EachInPlace treeQuery.buildCount treeQuery.renderCount :=
  ⟨reachable_treeQuery, inline_build_eq_render reachable_treeQuery⟩

end Query
end RelationalQuery.Sql
