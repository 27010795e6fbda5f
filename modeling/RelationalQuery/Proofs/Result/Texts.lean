import RelationalQuery.Proofs.Loading.Columns
import RelationalQuery.Proofs.Result.Pages
import RelationalQuery.Proofs.Sql.Inlining
import RelationalQuery.Sql.Executor

/-! The texts behind a result. What is counted, what is fetched and what is told about a page are
made of one core with one list of bindings. -/
namespace RelationalQuery.Sql

open Json (Value)

/-! ### Texts for people -/

theorem readableSegments_of_fill {xs : List Segment} {values : List Value} {cs : List Char}
    (h : fill readableValue xs values = some cs) :
    readableSegments xs values = String.ofList cs := by
  induction xs generalizing values cs with
  | nil =>
    cases values with
    | nil =>
      cases h
      rfl
    | cons v values => cases h
  | cons x xs ih =>
    cases x with
    | text piece =>
      obtain ⟨rest, hrest, rfl⟩ := Option.map_eq_some_iff.1 h
      rw [readableSegments, ih hrest, String.ofList_append]
    | placeholder =>
      cases values with
      | nil => cases h
      | cons v values =>
        obtain ⟨rest, hrest, rfl⟩ := Option.map_eq_some_iff.1 h
        rw [readableSegments, ih hrest, String.ofList_append, String.ofList_toList]

theorem readable_of_fill {sql told : String} {bindings : List Value}
    (h : fill readableValue (splitPlaceholders sql) bindings = some told.toList) :
    readable sql bindings = told := by
  rw [readable, readableSegments_of_fill h, String.ofList_toList]

/-! ### The core and the texts around it -/

def columnTexts (q : Query) : List String :=
  (if q.columns.isEmpty then [quoteIdentifier q.model.table ++ ".*"]
    else q.columns.map quoteIdentifier) ++
  q.counts.map fun c =>
    "(" ++ (c.subquery.render Fragment.placeholder).sql ++ ") AS " ++
      quoteIdentifier (c.relation ++ "_count")

def conditionText (q : Query) : String :=
  if q.clauses.isEmpty then ""
  else " WHERE " ++ (renderClauses Fragment.placeholder q.clauses).sql

/-- What is selected, from where and under which conditions, and nothing else. -/
structure IsCore (q : Query) (core : Fragment) : Prop where
  sql : core.sql = "SELECT " ++ ", ".intercalate (columnTexts q) ++ " FROM " ++
    quoteIdentifier q.model.table ++ conditionText q
  bindings : core.bindings =
    (q.counts.flatMap fun c => (c.subquery.render Fragment.placeholder).bindings) ++
      (renderClauses Fragment.placeholder q.clauses).bindings

def countSql (sql : String) : String :=
  "SELECT count(*) FROM (" ++ sql ++ ") AS \"aggregate_table\""

def fetchSql (sql : String) : String := "SELECT to_jsonb(q) AS data FROM (" ++ sql ++ ") AS q"

def orderItem : String × Direction → String
  | (field, .asc) => quoteIdentifier field ++ " ASC"
  | (field, .desc) => quoteIdentifier field ++ " DESC"

def orderText (order : List (String × Direction)) : String :=
  if order.isEmpty then "" else " ORDER BY " ++ ", ".intercalate (order.map orderItem)

def windowText : Option Window → String
  | none => ""
  | some w => " LIMIT " ++ toString w.limit ++ " OFFSET " ++ toString w.offset

/-- Pages count from one and page zero is the first. An offset that is too large is the greatest
there is. -/
def pageWindow (page perPage : UInt64) : Window where
  limit := perPage
  offset := .ofNat (min ((page.toNat - 1) * perPage.toNat) (UInt64.size - 1))

def partSql (sql : String) (order : List (String × Direction)) (window : Option Window) : String :=
  sql ++ orderText order ++ windowText window

/-- The texts for one part of the rows: what is counted and fetched for it and what is told about
it. -/
structure PartTexts (core : Fragment) (order : List (String × Direction)) (window : Option Window)
    (counted fetched told : String) : Prop where
  counts : Fragment.inline ⟨countSql core.sql, core.bindings⟩ = .ok counted
  fetches : Fragment.inline ⟨partSql core.sql order window, core.bindings⟩ = .ok fetched
  /-- Each placeholder takes its value and no value is left over. -/
  tells : fill readableValue (splitPlaceholders (partSql core.sql order window)) core.bindings =
    some told.toList
  /-- The server is sent the same core for both. -/
  sends : ∃ text, core.inline = .ok text ∧ counted = countSql text ∧
    fetched = partSql text order window

section
variable {w : Value → String} {f g : Fragment} {s : String}

theorem Fills.after_text (h : Fills w f g) (hs : Closed s) :
    Fills w ⟨s ++ f.sql, f.bindings⟩ ⟨s ++ g.sql, g.bindings⟩ :=
  (Fills.of_closed hs).append h

theorem Fills.before_text (h : Fills w f g) (hs : Closed s) :
    Fills w ⟨f.sql ++ s, f.bindings⟩ ⟨g.sql ++ s, g.bindings⟩ := by
  have hfills := h.append_text hs
  rwa [← List.append_nil f.bindings, ← List.append_nil g.bindings]

theorem closed_windowText (window : Option Window) : Closed (windowText window) := by
  cases window with
  | none => decide
  | some w => exact closed_window w

theorem Fills.counted (h : Fills w f g) :
    Fills w ⟨countSql f.sql, f.bindings⟩ ⟨countSql g.sql, g.bindings⟩ :=
  (h.after_text (by decide)).before_text (by decide)

theorem Fills.part {order : List (String × Direction)} (h : Fills w f g)
    (horder : Closed (orderText order)) (window : Option Window) :
    Fills w ⟨partSql f.sql order window, f.bindings⟩ ⟨partSql g.sql order window, g.bindings⟩ :=
  (h.before_text horder).before_text (closed_windowText window)

end

namespace Query
variable (q : Query)

theorem orderText_order : orderText q.order = q.orderSql := by
  unfold orderText orderSql
  split
  · rfl
  · congr 2
    refine List.map_congr_left fun item _ => ?_
    obtain ⟨field, direction⟩ := item
    cases direction <;> simp only [orderItem, Direction.sql, String.append_assoc] <;> rfl

theorem windowText_window : windowText q.window = q.windowSql := by
  unfold windowText windowSql
  cases q.window with
  | none => rfl
  | some w => rfl

theorem ofPage_eq_pageWindow (page perPage : UInt64) :
    Window.ofPage page perPage = pageWindow page perPage := by
  have hoffset : (Window.ofPage page perPage).offset = (pageWindow page perPage).offset := by
    rw [pageWindow, ← Window.toNat_offset, UInt64.ofNat_toNat]
  exact congrArg (Window.mk perPage) hoffset

theorem sql_columnFragments :
    (q.columnFragments Fragment.placeholder).map Fragment.sql = columnTexts q := by
  have hcounts : (q.counts.map (·.render Fragment.placeholder)).map Fragment.sql =
      q.counts.map fun c => "(" ++ (c.subquery.render Fragment.placeholder).sql ++ ") AS " ++
        quoteIdentifier (c.relation ++ "_count") := by
    rw [List.map_map]
    exact List.map_congr_left fun c _ => (String.append_assoc ..).symm
  rw [columnFragments, List.map_append, hcounts, columnTexts]
  congr 1
  split
  · rfl
  · exact List.map_map

theorem bindings_columnFragments :
    (q.columnFragments Fragment.placeholder).flatMap Fragment.bindings =
      q.counts.flatMap fun c => (c.subquery.render Fragment.placeholder).bindings := by
  rw [columnFragments, List.flatMap_append]
  -- Columns bind nothing, and so does the name of a count.
  have hcolumns : ((if q.columns.isEmpty then [(quoteIdentifier q.model.table ++ ".*" : Fragment)]
      else q.columns.map fun column => (quoteIdentifier column : Fragment)).flatMap
        Fragment.bindings) = [] := by
    split
    · rfl
    · rw [List.flatMap_map]
      exact List.flatMap_eq_nil_iff.2 fun column _ => rfl
  rw [hcolumns, List.flatMap_map]
  exact List.flatMap_congr fun c _ => List.append_nil _

theorem isCore_core : IsCore q (q.core Fragment.placeholder) := by
  have hwhere : (q.whereFragment Fragment.placeholder).sql = conditionText q ∧
      (q.whereFragment Fragment.placeholder).bindings =
        (renderClauses Fragment.placeholder q.clauses).bindings := by
    unfold whereFragment conditionText
    cases q.clauses with
    | nil => exact ⟨rfl, rfl⟩
    | cons clause rest => exact ⟨rfl, rfl⟩
  refine ⟨?_, ?_⟩
  · rw [core, Fragment.sql_append, Fragment.sql_append, Fragment.sql_append, Fragment.sql_join,
      sql_columnFragments, hwhere.1]
    exact congrArg (· ++ conditionText q) (String.append_assoc ..).symm
  · rw [core, Fragment.bindings_append, Fragment.bindings_append, Fragment.bindings_append,
      Fragment.bindings_join, bindings_columnFragments, hwhere.2]
    exact congrArg (· ++ _) (List.append_nil _)

theorem build_eq : q.build =
    ⟨partSql (q.core Fragment.placeholder).sql q.order q.window,
      (q.core Fragment.placeholder).bindings⟩ := by
  rw [partSql, orderText_order, windowText_window, String.append_assoc,
    ← List.append_nil (q.core Fragment.placeholder).bindings]
  rfl

theorem buildCount_eq : q.buildCount =
    ⟨countSql (q.core Fragment.placeholder).sql, (q.core Fragment.placeholder).bindings⟩ := by
  rw [← List.append_nil (q.core Fragment.placeholder).bindings]
  rfl

theorem build_paginate (page perPage : UInt64) : (q.paginate page perPage).build =
    ⟨partSql (q.core Fragment.placeholder).sql q.order (some (pageWindow page perPage)),
      (q.core Fragment.placeholder).bindings⟩ := by
  rw [← ofPage_eq_pageWindow]
  exact (q.paginate page perPage).build_eq

theorem bindings_build : q.build.bindings = (q.core Fragment.placeholder).bindings :=
  List.append_nil _

theorem partTexts {q : Query} (h : q.WellFormed) (window : Option Window) :
    ∃ counted fetched told,
      PartTexts (q.core Fragment.placeholder) q.order window counted fetched told := by
  have hcore := core_fills (w := literal) h
  have hreadable := core_fills (w := readableValue) h
  have horder : Closed (orderText q.order) := q.orderText_order ▸ closed_orderSql q
  exact ⟨_, _, _, hcore.counted.inline_eq, (hcore.part horder window).inline_eq,
    (hreadable.part horder window).fill_eq, _, hcore.inline_eq, rfl, rfl⟩

end Query

/-! ### What the executor sends -/

section
variable {m : Type → Type} [Monad m]

def attached (server : Server m) (q : Query) (rows : List Value) :
    ExceptT QueryError m (List Value) :=
  if rows.isEmpty then pure rows else loadAll (fetchRows server (loadDepth - 1)) q q.loads rows

def wholeResult (items : List Value) (count : UInt64) (query : String) : QueryResult where
  items
  envelope := {
    page := 1, lastPage := none, first := some 1, last := some count, limit := count,
    total := count, hasMorePages := false, isFirstPage := true, query }

variable (server : Server m) {q : Query} {text counted fetched told : String} {p : PagePolicy}
  {limit page : UInt64}

theorem attached_window (q : Query) (window : Option Window) :
    attached server { q with window } = attached server q := by
  have hplace : Query.SamePlace q { q with window } := ⟨rfl, rfl, rfl, rfl⟩
  funext rows
  rw [attached, loadAll_of_samePlace hplace]
  rfl

theorem pageResult_window (q : Query) (window : Option Window) (perPage page : UInt64)
    (found : Page) : pageResult (executor server { q with window }) perPage page found =
      pageResult (executor server q) perPage page found := by
  have hbindings : ({ q with window } : Query).build.bindings = q.build.bindings :=
    (Query.bindings_build _).trans (Query.bindings_build q).symm
  simp only [pageResult, executor, hbindings, Query.paginate]

theorem query_pageResult
    (h : PartTexts (q.core Fragment.placeholder) q.order (some (pageWindow page (p.grant limit)))
      counted fetched told) (found : Page) :
    (pageResult (executor server q) (p.grant limit) page found).envelope.query = told := by
  change readable (q.paginate page (p.grant limit)).build.sql q.build.bindings = told
  rw [Query.build_paginate, Query.bindings_build]
  exact readable_of_fill h.tells

variable [LawfulMonad m]

theorem fetch_eq (h : q.build.inline = .ok text) :
    fetch server q = server.rows (fetchSql text) >>= attached server q := by
  change ((ExceptT.mk (pure q.build.inline) : ExceptT QueryError m String) >>= fun sql =>
    server.rows (fetchSql sql) >>= attached server q) = _
  rw [h]
  exact pure_bind ..

theorem countRows_eq (h : q.buildCount.inline = .ok text) :
    countRows server q = server.count text >>= fun n => pure n.toNat.toUInt64 := by
  rw [countRows, h]
  exact pure_bind ..

theorem onePage_eq
    (h : PartTexts (q.core Fragment.placeholder) q.order (some (pageWindow page (p.grant limit)))
      counted fetched told) :
    p.onePage (executor server q) limit page = do
      let n ← server.count counted
      let rows ← server.rows (fetchSql fetched)
      let items ← attached server q rows
      return pageResult (executor server q) (p.grant limit) page
        { items, total := n.toNat.toUInt64 } := by
  have hcounted : q.buildCount.inline = .ok counted := by rw [Query.buildCount_eq, h.counts]
  have hfetched : (q.paginate page (p.grant limit)).build.inline = .ok fetched := by
    rw [Query.build_paginate, h.fetches]
  have hattached : attached server (q.paginate page (p.grant limit)) = attached server q :=
    attached_window server q _
  change (executor server q).paginate (p.grant limit) page >>= (fun found =>
    pure (pageResult (executor server q) (p.grant limit) page found)) = _
  simp only [executor, countRows_eq server hcounted, fetch_eq server hfetched, hattached,
    bind_assoc, pure_bind]

theorem allRows_eq
    (h : PartTexts (q.core Fragment.placeholder) q.order q.window counted fetched told) :
    PagePolicy.allRows (executor server q) = do
      let rows ← server.rows (fetchSql fetched)
      let items ← attached server q rows
      let n ← server.count counted
      return wholeResult items n.toNat.toUInt64 told := by
  have hcounted : q.buildCount.inline = .ok counted := by rw [Query.buildCount_eq, h.counts]
  have hfetched : q.build.inline = .ok fetched := by rw [Query.build_eq, h.fetches]
  have htold : readable q.build.sql q.build.bindings = told := by
    rw [Query.build_eq]
    exact readable_of_fill h.tells
  simp only [PagePolicy.allRows, executor, countRows_eq server hcounted,
    fetch_eq server hfetched, bind_assoc, pure_bind, htold, wholeResult]

end

/-! ### One query -/

section
variable {m : Type → Type} [Monad m]

/-- A page of a query comes from these texts, whatever window the query has. -/
structure PageFrom (server : Server m) (q : Query) (p : PagePolicy) (limit page : UInt64)
    (counted fetched told : String) : Prop where
  found : p.onePage (executor server q) limit page = do
    let n ← server.count counted
    let rows ← server.rows (fetchSql fetched)
    let items ← attached server q rows
    return pageResult (executor server q) (p.grant limit) page { items, total := n.toNat.toUInt64 }
  query : ∀ found,
    (pageResult (executor server q) (p.grant limit) page found).envelope.query = told
  window : ∀ window, p.onePage (executor server { q with window }) limit page =
    p.onePage (executor server q) limit page

variable [LawfulMonad m] (server : Server m) {q : Query} {p : PagePolicy} {limit page : UInt64}
  {counted fetched told : String}

theorem PartTexts.pageFrom
    (h : PartTexts (q.core Fragment.placeholder) q.order (some (pageWindow page (p.grant limit)))
      counted fetched told) : PageFrom server q p limit page counted fetched told where
  found := onePage_eq server h
  query := query_pageResult server h
  window window := by
    have hwindow := onePage_eq server (q := { q with window }) h
    simp only [hwindow, onePage_eq server h, attached_window, pageResult_window]

end

/-- One core with one list of values serves every page, whatever window the query has: by it the
page is counted, fetched and told, with the same values in the same places. All rows together are
told by the text by which they are fetched. -/
theorem one_query_of_reachable {schema : Schema} {q : Query} (h : Query.Reachable schema q) :
    ∃ core, IsCore q core ∧
      (∀ (p : PagePolicy) (limit page : UInt64), ∃ counted fetched told,
        PartTexts core q.order (some (pageWindow page (p.grant limit))) counted fetched told ∧
        ∀ {m : Type → Type} [Monad m] [LawfulMonad m] (server : Server m),
          PageFrom server q p limit page counted fetched told) ∧
      ∃ counted fetched told, PartTexts core q.order q.window counted fetched told ∧
        ∀ {m : Type → Type} [Monad m] [LawfulMonad m] (server : Server m),
          PagePolicy.allRows (executor server q) = do
            let rows ← server.rows (fetchSql fetched)
            let items ← attached server q rows
            let n ← server.count counted
            return wholeResult items n.toNat.toUInt64 told := by
  refine ⟨q.core Fragment.placeholder, q.isCore_core, fun p limit page => ?_, ?_⟩
  · obtain ⟨counted, fetched, told, htexts⟩ :=
      Query.partTexts h.wellFormed (some (pageWindow page (p.grant limit)))
    exact ⟨counted, fetched, told, htexts, fun server => htexts.pageFrom server⟩
  · obtain ⟨counted, fetched, told, htexts⟩ := Query.partTexts h.wellFormed q.window
    exact ⟨counted, fetched, told, htexts, fun server => allRows_eq server htexts⟩

theorem reachable_allAuthors : Query.Reachable authors allAuthors :=
  @Query.Reachable.ofModel authors "User" allAuthors rfl

def namedAuthors : Query :=
  ((Query.run [.filter .and (.compare "name" "=" (.str "it's?")), .orderBy "id" .desc]).final
    allAuthors).paginate 2 10

/-- Page 3 in another size. -/
theorem one_query_namedAuthors :
    Query.Reachable authors namedAuthors ∧
    ∀ {m : Type → Type} [Monad m] [LawfulMonad m] (server : Server m),
      PageFrom server namedAuthors ⟨some 5⟩ 7 3
        ("SELECT count(*) FROM (SELECT \"users\".* FROM \"users\" WHERE \"name\" = 'it''s?'" ++
          ") AS \"aggregate_table\"")
        ("SELECT \"users\".* FROM \"users\" WHERE \"name\" = 'it''s?'" ++
          " ORDER BY \"id\" DESC LIMIT 5 OFFSET 10")
        ("SELECT \"users\".* FROM \"users\" WHERE \"name\" = 'it's?'" ++
          " ORDER BY \"id\" DESC LIMIT 5 OFFSET 10") := by
  have hreachable : Query.Reachable authors namedAuthors :=
    .paginate 2 10 (reachable_allAuthors.run _)
  obtain ⟨⟨sql, bindings⟩, hcore, hpages, -⟩ := one_query_of_reachable hreachable
  obtain ⟨counted, fetched, told, htexts, hfrom⟩ := hpages ⟨some 5⟩ 7 3
  obtain rfl : sql = "SELECT \"users\".* FROM \"users\" WHERE \"name\" = ?" :=
    hcore.sql.trans rfl
  obtain rfl : bindings = [.str "it's?"] := hcore.bindings.trans rfl
  have hinline : Fragment.inline ⟨"SELECT \"users\".* FROM \"users\" WHERE \"name\" = ?",
      [.str "it's?"]⟩ = .ok "SELECT \"users\".* FROM \"users\" WHERE \"name\" = 'it''s?'" :=
    rfl
  have hpart : ∀ sql, partSql sql namedAuthors.order (some (pageWindow 3 5)) =
      sql ++ " ORDER BY \"id\" DESC LIMIT 5 OFFSET 10" := by
    have hbehind : orderText namedAuthors.order ++ windowText (some (pageWindow 3 5)) =
        " ORDER BY \"id\" DESC LIMIT 5 OFFSET 10" := rfl
    intro sql
    rw [partSql, String.append_assoc, hbehind]
  have htold := readable_of_fill htexts.tells
  obtain ⟨text, htext, rfl, rfl⟩ := htexts.sends
  obtain rfl := Except.ok.inj (hinline.symm.trans htext)
  obtain rfl : "SELECT \"users\".* FROM \"users\" WHERE \"name\" = 'it's?'" ++
      " ORDER BY \"id\" DESC LIMIT 5 OFFSET 10" = told := by
    rw [← htold]
    rfl
  rw [← hpart]
  exact ⟨hreachable, fun server => hfrom server⟩

end RelationalQuery.Sql
