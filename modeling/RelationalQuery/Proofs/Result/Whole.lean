import RelationalQuery.Proofs.Result.Texts

/-! Results without pages. They count the rows of a query without its window and show those within
it, so that they cover every row only where the window does. -/
namespace RelationalQuery.Sql

open Json (Value)

/-! ### The rows of a text -/

def Window.shown (w : Window) (rows : List Value) : List Value :=
  (rows.drop w.offset.toNat).take w.limit.toNat

namespace Query

def coreText (q : Query) : String := (q.core Fragment.literal).sql

def orderedText (q : Query) : String := q.coreText ++ q.orderSql

def wholeText (q : Query) : String := q.orderedText ++ q.windowSql

/-- No row is outside the window, if there are so many. -/
def ShowsAll (q : Query) (rows : Nat) : Prop :=
  ∀ w ∈ q.window, rows = 0 ∨ w.offset = 0 ∧ rows ≤ w.limit.toNat

structure Meaning (q : Query) (rowsOf : String → List Value) : Prop where
  order : (rowsOf q.orderedText).Perm (rowsOf q.coreText)
  window : ∀ w ∈ q.window, rowsOf q.wholeText = w.shown (rowsOf q.orderedText)

def shownLength (q : Query) (rows : Nat) : Nat :=
  q.window.elim rows fun w => min w.limit.toNat (rows - w.offset.toNat)

variable {q : Query} {rowsOf : String → List Value}

theorem shownLength_eq_iff {rows : Nat} : q.shownLength rows = rows ↔ q.ShowsAll rows := by
  unfold shownLength ShowsAll
  cases q.window with
  | none => simp
  | some w =>
    have hoffset : w.offset = 0 ↔ w.offset.toNat = 0 := UInt64.toNat_inj.symm
    simp only [Option.elim_some, Option.mem_def, Option.some.injEq, forall_eq', hoffset]
    omega

theorem Meaning.length_wholeText (h : q.Meaning rowsOf) :
    (rowsOf q.wholeText).length = q.shownLength (rowsOf q.coreText).length := by
  have hordered := h.order.length_eq
  cases hwindow : q.window with
  | none =>
    have htext : q.wholeText = q.orderedText := by
      rw [wholeText, windowSql, hwindow, String.append_empty]
    rw [htext, hordered, shownLength, hwindow]
    rfl
  | some w =>
    rw [h.window w hwindow, Window.shown, List.length_take, List.length_drop, hordered,
      shownLength, hwindow]
    rfl

end Query

/-! ### Attaching keeps the rows -/

section
variable {σ : Type} {fetch : Query → Asking σ (List Value)} {q : Query} {rows out : List Value}
  {s t : σ}

theorem length_of_loadRelation {load : Load}
    (h : Asking.outcome (loadRelation fetch q load rows) s = (.ok out, t)) :
    out.length = rows.length := by
  obtain ⟨columns, lookup, hload, -⟩ := exists_lookup fetch q load
  rw [hload] at h
  obtain ⟨give, u, -, h⟩ := Asking.outcome_bind_eq_ok.1 h
  obtain ⟨rfl, -⟩ := Asking.outcome_pure_eq_ok.1 h
  exact List.length_map ..

theorem length_of_loadAll {loads : List Load}
    (h : Asking.outcome (loadAll fetch q loads rows) s = (.ok out, t)) :
    out.length = rows.length := by
  induction loads generalizing rows s with
  | nil =>
    obtain ⟨rfl, -⟩ := Asking.outcome_pure_eq_ok.1 h
    rfl
  | cons load rest ih =>
    obtain ⟨between, u, hfirst, hrest⟩ := Asking.outcome_bind_eq_ok.1 h
    exact (ih hrest).trans (length_of_loadRelation hfirst)

theorem attached_of_no_loads {server : Server (StateM σ)} (h : q.loads = []) (rows : List Value) :
    attached server q rows = pure rows := by
  rw [attached, h, loadAll, ite_self]

theorem length_of_attached {server : Server (StateM σ)}
    (h : Asking.outcome (attached server q rows) s = (.ok out, t)) :
    out.length = rows.length := by
  unfold attached at h
  split at h
  · obtain ⟨rfl, -⟩ := Asking.outcome_pure_eq_ok.1 h
    rfl
  · exact length_of_loadAll h

end

/-! ### All rows from a server -/

/-- The server answers with the rows of what is fetched and with the number of those of the
core. -/
structure Answers {σ : Type} (server : Server (StateM σ)) (q : Query)
    (rowsOf : String → List Value) : Prop where
  meaning : q.Meaning rowsOf
  rows : ∀ s, ∃ t, Asking.outcome (server.rows (rowsSql q.wholeText)) s =
    (.ok (rowsOf q.wholeText), t)
  count : ∀ s, ∃ t, Asking.outcome (server.count (countSql q.coreText)) s =
    (.ok (rowsOf q.coreText).length, t)

theorem Query.fetchSql_partSql (q : Query) :
    fetchSql (partSql q.coreText q.order q.window) = rowsSql q.wholeText := by
  rw [partSql, q.orderText_order, q.windowText_window]
  rfl

section
variable {σ : Type} {server : Server (StateM σ)} {q : Query} {rowsOf : String → List Value}

/-- As many rows are told as there are without the window, and those within it are shown. There is
a result unless a relation cannot be loaded. -/
theorem outcome_allRows (hq : q.WellFormed) (h : Answers server q rowsOf) (s : σ) : ∃ told t,
      Asking.outcome (server.rows (rowsSql q.wholeText)) s = (.ok (rowsOf q.wholeText), t) ∧
      ((∃ error u, Asking.outcome (attached server q (rowsOf q.wholeText)) t = (.error error, u) ∧
        Asking.outcome (PagePolicy.allRows (executor server q)) s = (.error error, u)) ∨
      ∃ items u v, Asking.outcome (attached server q (rowsOf q.wholeText)) t = (.ok items, u) ∧
        Asking.outcome (PagePolicy.allRows (executor server q)) s =
          (.ok (wholeResult items (rowsOf q.coreText).length.toUInt64 told), v)) := by
  obtain ⟨counted, fetched, told, htexts⟩ := Query.partTexts hq q.window
  obtain ⟨t, ht⟩ := h.rows s
  refine ⟨told, t, ht, ?_⟩
  have hall := allRows_eq server htexts
  obtain ⟨text, htext, rfl, rfl⟩ := htexts.sends
  obtain rfl : q.coreText = text :=
    Except.ok.inj ((Query.core_fills (w := literal) hq).inline_eq.symm.trans htext)
  rw [hall, q.fetchSql_partSql, Asking.outcome_bind, ht]
  simp only [Asking.outcome_bind]
  cases hattached : Asking.outcome (attached server q (rowsOf q.wholeText)) t with
  | mk result u =>
    cases result with
    | error error => exact .inl ⟨error, u, rfl, rfl⟩
    | ok items =>
      obtain ⟨v, hv⟩ := h.count u
      refine .inr ⟨items, u, v, rfl, ?_⟩
      simp only [hv]
      rfl

end

/-- The rows shown are as many as are told in every place. -/
structure CoversRows (r : QueryResult) : Prop where
  total : r.items.length = r.envelope.total.toNat
  limit : r.envelope.limit = r.envelope.total
  last : r.envelope.last = some r.envelope.total

theorem coversRows_wholeResult {q : Query} {items : List Value} {rows : Nat} (query : String)
    (hrows : rows < 2 ^ 63) (hitems : items.length = q.shownLength rows) :
    (wholeResult items rows.toUInt64 query).envelope.total.toNat = rows ∧
    (CoversRows (wholeResult items rows.toUInt64 query) ↔ q.ShowsAll rows) := by
  have htotal : rows.toUInt64.toNat = rows := UInt64.toNat_ofNat_of_lt' (hrows.trans (by decide))
  refine ⟨htotal, fun h => ?_, fun h => ⟨?_, rfl, rfl⟩⟩
  · have htold : items.length = rows.toUInt64.toNat := h.total
    rwa [htotal, hitems, Query.shownLength_eq_iff] at htold
  · change items.length = rows.toUInt64.toNat
    rw [htotal, hitems, Query.shownLength_eq_iff.2 h]

/-- Without a limit the rows within the query's window are shown and all rows are counted. So a
result covers every row exactly if none is outside the window. There is a result unless a relation
cannot be loaded. -/
theorem result_of_answers {schema : Schema} {q : Query} {σ : Type} {server : Server (StateM σ)}
    {rowsOf : String → List Value} (hq : Query.Reachable schema q) (h : Answers server q rowsOf)
    (hrows : (rowsOf q.coreText).length < 2 ^ 63) (p : PagePolicy) (limit : Option UInt64)
    (hlimit : ∀ l ∈ limit, l = 0) (page : Value) (s : σ) :
    ∃ t, Asking.outcome (server.rows (rowsSql q.wholeText)) s = (.ok (rowsOf q.wholeText), t) ∧
      ((∃ error u, Asking.outcome (attached server q (rowsOf q.wholeText)) t = (.error error, u) ∧
        Asking.outcome (p.result (executor server q) limit page) s = (.error error, u)) ∨
      ∃ r u v, Asking.outcome (attached server q (rowsOf q.wholeText)) t = (.ok r.items, u) ∧
        Asking.outcome (p.result (executor server q) limit page) s = (.ok r, v) ∧
        r.envelope.total.toNat = (rowsOf q.coreText).length ∧
        r.items.length = q.shownLength (rowsOf q.coreText).length ∧
        (CoversRows r ↔ q.ShowsAll (rowsOf q.coreText).length)) := by
  rw [p.result_none _ hlimit]
  obtain ⟨told, t, ht, hrefused | ⟨items, u, v, hattached, hresult⟩⟩ :=
    outcome_allRows hq.wellFormed h s
  · exact ⟨t, ht, .inl hrefused⟩
  · have hitems := (length_of_attached hattached).trans h.meaning.length_wholeText
    obtain ⟨htotal, hcovers⟩ := coversRows_wholeResult told hrows hitems
    exact ⟨t, ht, .inr ⟨_, u, v, hattached, hresult, htotal, hitems, hcovers⟩⟩

/-! ### A server with one table -/

def tableRows (q : Query) (rows : List Value) (text : String) : List Value :=
  if text = q.wholeText then q.window.elim rows (·.shown rows) else rows

def tableServer (q : Query) (rows : List Value) : Server (StateM Unit) where
  rows text := pure (if text = rowsSql q.wholeText then tableRows q rows q.wholeText else [])
  count text := pure (if text = countSql q.coreText then rows.length else 0)

theorem tableRows_of_length_le {q : Query} {text : String}
    (h : text.length ≤ q.orderedText.length) (rows : List Value) :
    tableRows q rows text = rows := by
  unfold tableRows
  split
  · rename_i htext
    rw [htext] at h
    cases hwindow : q.window with
    | none => rfl
    | some w =>
      have hlength : q.wholeText.length = q.orderedText.length + w.sql.length := by
        rw [Query.wholeText, Query.windowSql, hwindow, String.length_append]
      have hlimit : 0 < (toString " LIMIT ").length := by decide
      simp only [Window.sql, String.length_append] at hlength
      omega
  · rfl

theorem tableRows_coreText (q : Query) (rows : List Value) :
    tableRows q rows q.coreText = rows := by
  refine tableRows_of_length_le ?_ rows
  rw [Query.orderedText, String.length_append]
  omega

theorem answers_tableServer (q : Query) (rows : List Value) :
    Answers (tableServer q rows) q (tableRows q rows) := by
  have hcore := tableRows_coreText q rows
  have hordered : tableRows q rows q.orderedText = rows := tableRows_of_length_le le_rfl rows
  refine ⟨⟨?_, fun w hw => ?_⟩, fun s => ⟨s, ?_⟩, fun s => ⟨s, ?_⟩⟩
  · rw [hcore, hordered]
  · rw [hordered, tableRows, if_pos rfl, hw]
    rfl
  · simp only [tableServer, if_pos]
    rfl
  · simp only [tableServer, if_pos, hcore]
    rfl

def userRows : List Value :=
  [.obj [("id", .num (.int 1))], .obj [("id", .num (.int 2))], .obj [("id", .num (.int 3))]]

/-- Without a window all three rows are shown. -/
theorem result_allAuthors :
    Query.Reachable authors allAuthors ∧
    Answers (tableServer allAuthors userRows) allAuthors (tableRows allAuthors userRows) ∧
    (tableRows allAuthors userRows allAuthors.coreText).length < 2 ^ 63 ∧
    (∀ l ∈ some (0 : UInt64), l = 0) ∧
    ∃ r v, Asking.outcome (PagePolicy.result {} (executor (tableServer allAuthors userRows)
        allAuthors) (some 0) .null) () = (.ok r, v) ∧ r.items.length = 3 ∧ CoversRows r := by
  have hanswers := answers_tableServer allAuthors userRows
  have hrows : (tableRows allAuthors userRows allAuthors.coreText).length = 3 := by
    rw [tableRows_coreText]
    rfl
  have hlimit : ∀ l ∈ some (0 : UInt64), l = 0 := fun l hl => (Option.some.inj hl).symm
  obtain ⟨t, -, ⟨error, u, hattached, -⟩ | ⟨r, u, v, -, hresult, -, hitems, hcovers⟩⟩ :=
    result_of_answers reachable_allAuthors hanswers (by rw [hrows]; decide) {} (some 0) hlimit
      .null ()
  · rw [attached_of_no_loads rfl] at hattached
    cases hattached
  · rw [hrows] at hitems hcovers
    refine ⟨reachable_allAuthors, hanswers, by rw [hrows]; decide, hlimit, r, v, hresult, hitems,
      hcovers.2 ?_⟩
    intro w hw
    cases hw

/-- With a window set before only two of three rows are shown. -/
theorem not_coversRows_paginate :
    Query.Reachable authors (allAuthors.paginate 1 2) ∧
    Answers (tableServer (allAuthors.paginate 1 2) userRows) (allAuthors.paginate 1 2)
      (tableRows (allAuthors.paginate 1 2) userRows) ∧
    ∃ r v, Asking.outcome (PagePolicy.result {}
        (executor (tableServer (allAuthors.paginate 1 2) userRows) (allAuthors.paginate 1 2))
        none .null) () = (.ok r, v) ∧
      r.items.length = 2 ∧ r.envelope.total = 3 ∧ ¬ CoversRows r := by
  have hreachable := Query.Reachable.paginate 1 2 reachable_allAuthors
  have hanswers := answers_tableServer (allAuthors.paginate 1 2) userRows
  obtain ⟨told, t, -, ⟨error, u, hattached, -⟩ | ⟨items, u, v, hattached, hresult⟩⟩ :=
    outcome_allRows hreachable.wellFormed hanswers ()
  · rw [attached_of_no_loads rfl] at hattached
    cases hattached
  · have hitems := (length_of_attached hattached).trans hanswers.meaning.length_wholeText
    rw [tableRows_coreText] at hresult hitems
    have hcovers := (coversRows_wholeResult told (by decide) hitems).2
    refine ⟨hreachable, hanswers, _, v, hresult, hitems, rfl, ?_⟩
    rw [hcovers]
    intro hall
    obtain hnone | ⟨-, hle⟩ := hall _ rfl
    · exact absurd hnone (by decide)
    · exact absurd hle (by decide)

end RelationalQuery.Sql
