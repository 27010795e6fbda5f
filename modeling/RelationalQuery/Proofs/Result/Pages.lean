import Mathlib.Algebra.Order.Floor.Div
import RelationalQuery.Result.Paging

/-! Pages of a result. They partition the rows, and what is told about a page agrees with the rows
on it, as far as the position of its first row fits a word of 64 bits. -/
namespace RelationalQuery

open Json (Value)

/-! ### Windows -/

namespace Sql

theorem toNat_saturatingMul (a b : UInt64) :
    (saturatingMul a b).toNat = min (a.toNat * b.toNat) (UInt64.size - 1) := by
  unfold saturatingMul
  split
  · rename_i h
    rw [UInt64.toNat_mul, min_eq_left (by omega)]
    exact Nat.mod_eq_of_lt h
  · rw [min_eq_right (by omega)]
    rfl

theorem ceilDiv_eq_div_add (total limit : Nat) (h : 0 < limit) :
    total ⌈/⌉ limit = total / limit + if total % limit = 0 then 0 else 1 := by
  have hdiv := Nat.div_add_mod total limit
  have hmod := Nat.mod_lt total h
  rw [Nat.ceilDiv_eq_add_pred_div]
  refine Nat.div_eq_of_lt_le ?_ ?_
  · rw [Nat.add_mul, Nat.mul_comm (total / limit)]
    split <;> omega
  · rw [Nat.add_mul, Nat.add_mul, Nat.mul_comm (total / limit)]
    split <;> omega

namespace Window
variable {page perPage total : UInt64}

theorem toNat_max_one_sub_one (page : UInt64) : (max page 1 - 1).toNat = page.toNat - 1 := by
  have hone : (1 : UInt64) ≤ max page 1 := by
    rw [UInt64.le_iff_toNat_le, UInt64.toNat_max]
    exact le_max_right ..
  rw [UInt64.toNat_sub_of_le _ _ hone, UInt64.toNat_max]
  change max page.toNat 1 - 1 = page.toNat - 1
  omega

theorem toNat_offset (page perPage : UInt64) : (ofPage page perPage).offset.toNat =
    min ((page.toNat - 1) * perPage.toNat) (UInt64.size - 1) := by
  rw [ofPage, toNat_saturatingMul, toNat_max_one_sub_one]

theorem toNat_offset_ofPage (h : (page.toNat - 1) * perPage.toNat < UInt64.size) :
    (ofPage page perPage).offset.toNat = (page.toNat - 1) * perPage.toNat := by
  rw [toNat_offset, min_eq_left (by omega)]

theorem toNat_totalPages {w : Window} (h : 0 < w.limit.toNat) :
    (w.totalPages total).toNat = max 1 (total.toNat ⌈/⌉ w.limit.toNat) := by
  have hlimit : w.limit ≠ 0 := by
    rintro hzero
    simp [hzero] at h
  have hexact : total % w.limit = 0 ↔ total.toNat % w.limit.toNat = 0 := by
    rw [← UInt64.toNat_inj, UInt64.toNat_mod]
    rfl
  -- The quotient that is rounded up fits a word because the dividend does.
  have hfits : total.toNat / w.limit.toNat + (if total.toNat % w.limit.toNat = 0 then 0 else 1) ≤
      total.toNat := by
    have hdiv := Nat.div_add_mod total.toNat w.limit.toNat
    have hle := Nat.le_mul_of_pos_left (total.toNat / w.limit.toNat) h
    split <;> omega
  have hround : (total / w.limit + if total % w.limit = 0 then 0 else 1).toNat =
      total.toNat ⌈/⌉ w.limit.toNat := by
    rw [ceilDiv_eq_div_add _ _ h, UInt64.toNat_add, UInt64.toNat_div]
    have hif : (if total % w.limit = 0 then 0 else 1 : UInt64).toNat =
        if total.toNat % w.limit.toNat = 0 then 0 else 1 := by
      simp only [hexact]
      split <;> rfl
    rw [hif]
    exact Nat.mod_eq_of_lt (hfits.trans_lt total.toNat_lt)
  rw [totalPages, if_neg hlimit, UInt64.toNat_max, hround, max_comm]
  rfl

/-- The current page fits a word because it is none behind the page asked for. -/
theorem toNat_currentPage_eq (hsize : 0 < perPage.toNat) :
    (ofPage page perPage).currentPage.toNat =
      (ofPage page perPage).offset.toNat / perPage.toNat + 1 := by
  have hlimit : perPage ≠ 0 := by
    rintro hzero
    simp [hzero] at hsize
  have hcurrent : (ofPage page perPage).currentPage =
      (ofPage page perPage).offset / perPage + 1 := if_neg hlimit
  have hquotient : (ofPage page perPage).offset.toNat / perPage.toNat ≤ page.toNat - 1 := by
    rw [toNat_offset]
    exact Nat.div_le_of_le_mul ((min_le_left ..).trans_eq (Nat.mul_comm ..))
  have hpage := page.toNat_lt
  rw [hcurrent, UInt64.toNat_add, UInt64.toNat_div]
  refine Nat.mod_eq_of_lt ?_
  change _ + 1 < 2 ^ 64
  omega

theorem toNat_currentPage (hpage : 1 ≤ page.toNat) (hsize : 0 < perPage.toNat)
    (h : (page.toNat - 1) * perPage.toNat < UInt64.size) :
    (ofPage page perPage).currentPage.toNat = page.toNat := by
  rw [toNat_currentPage_eq hsize, toNat_offset_ofPage h, Nat.mul_div_cancel _ hsize,
    Nat.sub_add_cancel hpage]

theorem hasNext_iff {w : Window} :
    w.hasNext total = true ↔ w.currentPage.toNat < (w.totalPages total).toNat := by
  rw [hasNext, decide_eq_true_iff, UInt64.lt_iff_toNat_lt]

theorem hasPrevious_iff {w : Window} : w.hasPrevious = true ↔ 0 < w.offset.toNat := by
  rw [hasPrevious, decide_eq_true_iff, UInt64.lt_iff_toNat_lt]
  rfl

theorem exists_positions {w : Window} {rows : UInt64} (hrows : 0 < rows.toNat)
    (h : w.offset.toNat + 1 + rows.toNat < UInt64.size) :
    ∃ first last, w.first? rows = some first ∧ w.last? rows = some last ∧
      first.toNat = w.offset.toNat + 1 ∧ last.toNat = w.offset.toNat + rows.toNat := by
  have hpositive : 0 < rows := UInt64.lt_iff_toNat_lt.2 hrows
  have hfirst : w.first? rows = some (w.offset + 1) := if_pos hpositive
  have hfirstNat : (w.offset + 1).toNat = w.offset.toNat + 1 := by
    rw [UInt64.toNat_add]
    exact Nat.mod_eq_of_lt ((Nat.le_add_right _ _).trans_lt h)
  have hsum : (w.offset + 1 + rows).toNat = w.offset.toNat + 1 + rows.toNat := by
    rw [UInt64.toNat_add, hfirstNat]
    exact Nat.mod_eq_of_lt h
  refine ⟨w.offset + 1, w.offset + 1 + rows - 1, hfirst, by rw [last?, hfirst]; rfl,
    hfirstNat, ?_⟩
  have hone : (1 : UInt64) ≤ w.offset + 1 + rows := by
    rw [UInt64.le_iff_toNat_le, hsum]
    change 1 ≤ _
    omega
  rw [UInt64.toNat_sub_of_le _ _ hone, hsum]
  change w.offset.toNat + 1 + rows.toNat - 1 = _
  omega

end Window
end Sql

/-! ### Pages of a list -/

def pageItems (rows : List Value) (perPage k : Nat) : List Value :=
  (rows.drop ((k - 1) * perPage)).take perPage

def lastPageOf (total perPage : Nat) : Nat := max 1 (total ⌈/⌉ perPage)

section
variable {rows : List Value} {perPage k : Nat}

theorem flatMap_pageItems (rows : List Value) (perPage last : Nat) :
    (List.range' 1 last).flatMap (pageItems rows perPage) = rows.take (last * perPage) := by
  induction last with
  | zero => simp
  | succ last ih =>
    have hlast : pageItems rows perPage (1 + last) = (rows.drop (last * perPage)).take perPage := by
      rw [pageItems, Nat.add_sub_cancel_left]
    rw [List.range'_1_concat, List.flatMap_append, ih, List.flatMap_singleton, hlast,
      Nat.add_one_mul, List.take_add]

theorem lt_lastPageOf_iff (hsize : 0 < perPage) (hk : 1 ≤ k) (total : Nat) :
    k < lastPageOf total perPage ↔ k * perPage < total := by
  have hceil : k < total ⌈/⌉ perPage ↔ k * perPage < total := by
    rw [← not_le, ceilDiv_le_iff_le_mul hsize, not_le, Nat.mul_comm]
  rw [lastPageOf, lt_max_iff, hceil]
  omega

/-- Nothing is behind the last page. -/
theorem le_lastPageOf_mul (hsize : 0 < perPage) (total : Nat) :
    total ≤ lastPageOf total perPage * perPage := by
  have hone : 1 ≤ lastPageOf total perPage := le_max_left ..
  exact not_lt.1 fun h => lt_irrefl _ ((lt_lastPageOf_iff hsize hone total).2 h)

theorem pageItems_eq_nil (hsize : 0 < perPage) (h : lastPageOf rows.length perPage < k) :
    pageItems rows perPage k = [] := by
  have hlast := le_lastPageOf_mul hsize rows.length
  have hle : lastPageOf rows.length perPage * perPage ≤ (k - 1) * perPage :=
    Nat.mul_le_mul_right _ (by omega)
  rw [pageItems, List.drop_eq_nil_of_le (hlast.trans hle), List.take_nil]

theorem length_pageItems_add_le (h : pageItems rows perPage k ≠ []) :
    (k - 1) * perPage + (pageItems rows perPage k).length ≤ rows.length := by
  have hlength : (pageItems rows perPage k).length =
      min perPage (rows.length - (k - 1) * perPage) := by
    rw [pageItems, List.length_take, List.length_drop]
  have hpos : 0 < (pageItems rows perPage k).length := List.length_pos_iff.2 h
  omega

theorem head?_pageItems (hsize : 0 < perPage) :
    (pageItems rows perPage k).head? = rows[(k - 1) * perPage]? := by
  rw [pageItems, List.head?_take, if_neg hsize.ne', List.head?_drop]

theorem getLast?_pageItems (h : pageItems rows perPage k ≠ []) :
    (pageItems rows perPage k).getLast? =
      rows[(k - 1) * perPage + (pageItems rows perPage k).length - 1]? := by
  have hpos : 0 < (pageItems rows perPage k).length := List.length_pos_iff.2 h
  have hlt : (pageItems rows perPage k).length - 1 < perPage := by
    have hle : (pageItems rows perPage k).length ≤ perPage := List.length_take_le ..
    omega
  have hget (i : Nat) (hi : i < perPage) :
      (pageItems rows perPage k)[i]? = rows[(k - 1) * perPage + i]? := by
    rw [pageItems, List.getElem?_take_of_lt hi, List.getElem?_drop]
  rw [List.getLast?_eq_getElem?, hget _ hlt, Nat.add_sub_assoc hpos]

end

/-! ### Results -/

/-- A result is page `k` of the rows, and its envelope tells where the page stands among them. -/
structure ShowsPage (rows : List Value) (perPage k : Nat) (r : QueryResult) : Prop where
  items : r.items = pageItems rows perPage k
  page : r.envelope.page.toNat = k
  nowhere : r.items = [] → r.envelope.first = none ∧ r.envelope.last = none
  /-- Positions count from one. -/
  somewhere : r.items ≠ [] → ∃ first last, r.envelope.first = some first ∧
    r.envelope.last = some last ∧ first.toNat = (k - 1) * perPage + 1 ∧
    last.toNat = (k - 1) * perPage + r.items.length ∧
    rows[first.toNat - 1]? = r.items.head? ∧ rows[last.toNat - 1]? = r.items.getLast?
  more : r.envelope.hasMorePages = true ↔ k < lastPageOf rows.length perPage
  remaining : r.envelope.hasMorePages = true ↔ rows.drop (k * perPage) ≠ []
  isFirst : r.envelope.isFirstPage = true ↔ k = 1

section
variable {m : Type → Type}

/-- The pages that an executor finds are those of a list: where the number of the rows in front
fits a word, they are skipped and as many as were asked for are taken. -/
def Executor.Serves [Monad m] (e : Executor m) (rows : List Value) : Prop :=
  ∀ perPage page : UInt64, ∃ items,
    e.paginate perPage page = pure { items, total := rows.length.toUInt64 } ∧
      ((page.toNat - 1) * perPage.toNat < UInt64.size →
        items = pageItems rows perPage.toNat page.toNat)

def pageResult (e : Executor m) (perPage page : UInt64) (found : Page) : QueryResult :=
  let window := Sql.Window.ofPage page perPage
  let rows := found.items.length.toUInt64
  { items := found.items
    envelope := {
      page := window.currentPage
      lastPage := some (window.totalPages found.total)
      first := window.first? rows
      last := window.last? rows
      limit := perPage
      total := found.total
      hasMorePages := window.hasNext found.total
      isFirstPage := !window.hasPrevious
      query := Sql.readable (e.pageSql perPage page) e.bindings } }

theorem PagePolicy.onePage_eq_pure [Monad m] [LawfulMonad m] {p : PagePolicy} {e : Executor m}
    {limit page : UInt64} {found : Page} (h : e.paginate (p.grant limit) page = pure found) :
    p.onePage e limit page = pure (pageResult e (p.grant limit) page found) := by
  have hbind : p.onePage e limit page = e.paginate (p.grant limit) page >>= fun found =>
      pure (pageResult e (p.grant limit) page found) := rfl
  rw [hbind, h, pure_bind]

variable {e : Executor m} {rows : List Value} {perPage page : UInt64}

theorem toNat_toUInt64_length {items : List Value} (h : items.length < 2 ^ 63) :
    items.length.toUInt64.toNat = items.length :=
  UInt64.toNat_ofNat_of_lt' (h.trans (by decide))

theorem toNat_totalPages_ofPage (hsize : 0 < perPage.toNat) (hrows : rows.length < 2 ^ 63) :
    ((Sql.Window.ofPage page perPage).totalPages rows.length.toUInt64).toNat =
      lastPageOf rows.length perPage.toNat := by
  have hlimit : 0 < (Sql.Window.ofPage page perPage).limit.toNat := hsize
  rw [Sql.Window.toNat_totalPages hlimit, toNat_toUInt64_length hrows]
  rfl

theorem showsPage_pageResult (hsize : 0 < perPage.toNat) (hpage : 1 ≤ page.toNat)
    (hfits : (page.toNat - 1) * perPage.toNat < UInt64.size) (hrows : rows.length < 2 ^ 63) :
    ShowsPage rows perPage.toNat page.toNat (pageResult e perPage page
      { items := pageItems rows perPage.toNat page.toNat, total := rows.length.toUInt64 }) := by
  have hcurrent := Sql.Window.toNat_currentPage hpage hsize hfits
  have hoffset := Sql.Window.toNat_offset_ofPage hfits
  have hmore : (Sql.Window.ofPage page perPage).hasNext rows.length.toUInt64 = true ↔
      page.toNat < lastPageOf rows.length perPage.toNat := by
    rw [Sql.Window.hasNext_iff, hcurrent, toNat_totalPages_ofPage hsize hrows]
  refine ⟨rfl, hcurrent, ?_, ?_, hmore, ?_, ?_⟩
  · intro hempty
    have hlength : (pageItems rows perPage.toNat page.toNat).length.toUInt64 = 0 :=
      congrArg (fun items : List Value => items.length.toUInt64) hempty
    exact ⟨by rw [pageResult, hlength]; rfl, by rw [pageResult, hlength]; rfl⟩
  · intro hne
    have hle := length_pageItems_add_le hne
    have hlength : (pageItems rows perPage.toNat page.toNat).length.toUInt64.toNat =
        (pageItems rows perPage.toNat page.toNat).length := toNat_toUInt64_length (by omega)
    have hpositive := List.length_pos_iff.2 hne
    have hword : (Sql.Window.ofPage page perPage).offset.toNat + 1 +
        (pageItems rows perPage.toNat page.toNat).length.toUInt64.toNat < UInt64.size := by
      rw [hoffset, hlength]
      change _ < 2 ^ 64
      omega
    obtain ⟨first, last, hfirst, hlast, hfirstNat, hlastNat⟩ := Sql.Window.exists_positions
      (w := Sql.Window.ofPage page perPage) (by rw [hlength]; exact hpositive) hword
    rw [hoffset] at hfirstNat hlastNat
    rw [hlength] at hlastNat
    refine ⟨first, last, hfirst, hlast, hfirstNat, hlastNat, ?_, ?_⟩
    · rw [hfirstNat, Nat.add_sub_cancel]
      exact (head?_pageItems hsize).symm
    · rw [hlastNat]
      exact (getLast?_pageItems hne).symm
  · rw [ne_eq, List.drop_eq_nil_iff, not_le, ← lt_lastPageOf_iff hsize hpage]
    exact hmore
  · change (!(Sql.Window.ofPage page perPage).hasPrevious) = true ↔ _
    rw [Bool.not_eq_true', ← Bool.not_eq_true, Sql.Window.hasPrevious_iff, hoffset, Nat.not_lt,
      Nat.le_zero, Nat.mul_eq_zero]
    omega

/-! ### All pages -/

theorem PagePolicy.toNat_grant (p : PagePolicy) (limit : UInt64) :
    (p.grant limit).toNat = p.cap.elim limit.toNat fun cap => min limit.toNat cap.toNat := by
  obtain ⟨cap⟩ := p
  cases cap with
  | none => rfl
  | some cap => exact UInt64.toNat_min ..

theorem PagePolicy.toNat_grant_pos {p : PagePolicy} {limit : UInt64}
    (hcap : ∀ cap ∈ p.cap, 0 < cap) (hlimit : 0 < limit) : 0 < (p.grant limit).toNat := by
  have hlimit : 0 < limit.toNat := UInt64.lt_iff_toNat_lt.1 hlimit
  rw [toNat_grant]
  obtain ⟨cap⟩ := p
  cases cap with
  | none => exact hlimit
  | some cap =>
    have hcap : 0 < cap.toNat := UInt64.lt_iff_toNat_lt.1 (hcap cap rfl)
    exact lt_min hlimit hcap

theorem PagePolicy.result_some [Monad m] (p : PagePolicy) (e : Executor m) {limit : UInt64}
    (hlimit : 0 < limit) (value : Value) :
    p.result e (some limit) value = p.onePage e limit (normalizePage value) := by
  have hfilter : (some limit).filter (0 < ·) = some limit := by simp [hlimit]
  rw [result, hfilter]

theorem PagePolicy.result_none [Monad m] (p : PagePolicy) (e : Executor m) {limit : Option UInt64}
    (hlimit : ∀ l ∈ limit, l = 0) (value : Value) : p.result e limit value = allRows e := by
  have hfilter : limit.filter (0 < ·) = none := by
    cases limit with
    | none => rfl
    | some l =>
      rw [hlimit l rfl]
      rfl
  rw [result, hfilter]

theorem mapM_eq_pure {α β : Type} {n : Type → Type} [Monad n] [LawfulMonad n] {f : α → n β}
    {g : α → β} {xs : List α} (h : ∀ x ∈ xs, f x = pure (g x)) : xs.mapM f = pure (xs.map g) := by
  induction xs with
  | nil => rfl
  | cons x xs ih =>
    rw [List.mapM_cons, h x (by simp), ih fun y hy => h y (by simp [hy]), pure_bind, pure_bind,
      List.map_cons]

/-- The last page starts within the rows, so its number and the position of its first row fit. -/
theorem fits_of_le_lastPageOf {k perPage : Nat} (hsize : 0 < perPage) (hpage : 1 ≤ k)
    (hlast : k ≤ lastPageOf rows.length perPage) (hrows : rows.length < 2 ^ 63) :
    k < UInt64.size ∧ (k - 1) * perPage < UInt64.size := by
  obtain rfl | hk := hpage.eq_or_lt
  · exact ⟨by decide, by simp⟩
  · have hbefore : k - 1 < lastPageOf rows.length perPage := by omega
    have hskip := (lt_lastPageOf_iff hsize (by omega) rows.length).1 hbefore
    have hle := Nat.le_mul_of_pos_right (k - 1) hsize
    have hword : (2 : Nat) ^ 63 < UInt64.size := by decide
    omega

/-- Behind the last page nothing is shown and nothing follows. -/
theorem pageResult_of_lastPageOf_lt (hsize : 0 < perPage.toNat)
    (hlast : lastPageOf rows.length perPage.toNat < page.toNat)
    (hfits : (page.toNat - 1) * perPage.toNat < UInt64.size) (hrows : rows.length < 2 ^ 63)
    {r : QueryResult} (hr : r = pageResult e perPage page
      { items := pageItems rows perPage.toNat page.toNat, total := rows.length.toUInt64 }) :
    r.items = [] ∧ r.envelope.page.toNat = page.toNat ∧ r.envelope.first = none ∧
      r.envelope.last = none ∧ r.envelope.hasMorePages = false := by
  subst hr
  have hpage : 1 ≤ page.toNat := by omega
  have hshows := showsPage_pageResult (e := e) hsize hpage hfits hrows
  have hempty := pageItems_eq_nil hsize hlast
  obtain ⟨hfirst, hlast'⟩ := hshows.nowhere hempty
  refine ⟨hempty, hshows.page, hfirst, hlast', ?_⟩
  rw [← Bool.not_eq_true, hshows.more]
  omega

section
variable [Monad m] [LawfulMonad m] {p : PagePolicy} {limit : UInt64}

theorem PagePolicy.onePage_of_serves (hserves : e.Serves rows)
    (hfits : (page.toNat - 1) * (p.grant limit).toNat < UInt64.size) :
    p.onePage e limit page = pure (pageResult e (p.grant limit) page
      { items := pageItems rows (p.grant limit).toNat page.toNat,
        total := rows.length.toUInt64 }) := by
  obtain ⟨items, hfound, hitems⟩ := hserves (p.grant limit) page
  rw [onePage_eq_pure hfound, hitems hfits]

/-- Every page up to the last fits, so its rows are those that are served. -/
theorem PagePolicy.items_of_allPages (hserves : e.Serves rows)
    (hsize : 0 < (p.grant limit).toNat) (hrows : rows.length < 2 ^ 63) :
    ∃ results, ((List.range' 1 (lastPageOf rows.length (p.grant limit).toNat)).mapM
        fun k => p.onePage e limit (UInt64.ofNat k)) = pure results ∧
      results.flatMap (·.items) = rows := by
  have hpages : ∀ k ∈ List.range' 1 (lastPageOf rows.length (p.grant limit).toNat),
      p.onePage e limit (UInt64.ofNat k) =
        pure (pageResult e (p.grant limit) (UInt64.ofNat k)
          { items := pageItems rows (p.grant limit).toNat k, total := rows.length.toUInt64 }) := by
    intro k hk
    obtain ⟨hk, hlast⟩ := List.mem_range'_1.1 hk
    obtain ⟨hword, hfits⟩ := fits_of_le_lastPageOf hsize hk (by omega) hrows
    have hnat : (UInt64.ofNat k).toNat = k := UInt64.toNat_ofNat_of_lt' hword
    have hpage := onePage_of_serves hserves (by rwa [hnat])
    rwa [hnat] at hpage
  refine ⟨_, mapM_eq_pure hpages, ?_⟩
  have hrange := flatMap_pageItems rows (p.grant limit).toNat
    (lastPageOf rows.length (p.grant limit).toNat)
  rw [List.take_of_length_le (le_lastPageOf_mul hsize rows.length)] at hrange
  rw [List.flatMap_map]
  exact hrange

end

/-- The pages of an executor that serves a list have as many rows as were asked for and the policy
grants. Together, from the first to the last, they are the list. Each tells where it stands; a page
behind the last is empty. -/
theorem pages_partition [Monad m] [LawfulMonad m] (p : PagePolicy) (e : Executor m)
    (rows : List Value) (limit : UInt64) (hcap : ∀ cap ∈ p.cap, 0 < cap) (hlimit : 0 < limit)
    (hrows : rows.length < 2 ^ 63) (hserves : e.Serves rows) :
    (p.grant limit).toNat = (p.cap.elim limit.toNat fun cap => min limit.toNat cap.toNat) ∧
    (∃ results, ((List.range' 1 (lastPageOf rows.length (p.grant limit).toNat)).mapM
          fun k => p.onePage e limit (UInt64.ofNat k)) = pure results ∧
        results.flatMap (·.items) = rows) ∧
    ∀ (value : Value) (k : Nat), (normalizePage value).toNat = k →
      p.result e (some limit) value = p.onePage e limit (UInt64.ofNat k) ∧
      ∃ r, p.result e (some limit) value = pure r ∧
        r.envelope.lastPage.map UInt64.toNat =
          some (max 1 (rows.length ⌈/⌉ (p.grant limit).toNat)) ∧
        (1 ≤ k → k ≤ lastPageOf rows.length (p.grant limit).toNat →
          ShowsPage rows (p.grant limit).toNat k r) ∧
        (lastPageOf rows.length (p.grant limit).toNat < k →
          (k - 1) * (p.grant limit).toNat < 2 ^ 64 →
          r.items = [] ∧ r.envelope.page.toNat = k ∧ r.envelope.first = none ∧
            r.envelope.last = none ∧ r.envelope.hasMorePages = false) := by
  have hsize := PagePolicy.toNat_grant_pos hcap hlimit
  refine ⟨p.toNat_grant limit, PagePolicy.items_of_allPages hserves hsize hrows, ?_⟩
  rintro value k rfl
  have hresult := p.result_some e hlimit value
  obtain ⟨items, hfound, hitems⟩ := hserves (p.grant limit) (normalizePage value)
  refine ⟨by rw [hresult, UInt64.ofNat_toNat], _,
    hresult.trans (PagePolicy.onePage_eq_pure hfound), ?_, ?_, ?_⟩
  · exact congrArg some (toNat_totalPages_ofPage hsize hrows)
  · intro hpage hlast
    obtain ⟨-, hfits⟩ := fits_of_le_lastPageOf hsize hpage hlast hrows
    rw [hitems hfits]
    exact showsPage_pageResult hsize hpage hfits hrows
  · intro hlast hfits
    exact pageResult_of_lastPageOf_lt hsize hlast hfits hrows (by rw [hitems hfits])

end

/-! ### Three rows on two pages -/

def listExecutor (rows : List Value) : Executor Id where
  paginate perPage page :=
    pure { items := pageItems rows perPage.toNat page.toNat, total := rows.length.toUInt64 }
  get := pure rows
  count := pure rows.length.toUInt64
  sql := "rows"
  pageSql perPage page := "rows" ++ (Sql.Window.ofPage page perPage).sql
  bindings := []

theorem serves_listExecutor (rows : List Value) : (listExecutor rows).Serves rows :=
  fun _ _ => ⟨_, rfl, fun _ => rfl⟩

def threeRows : List Value := [.bool true, .bool false, .bool true]

/-- Five rows are asked for, two are granted, and null stands for the first page. -/
theorem pages_threeRows :
    (∀ cap ∈ (some 2 : Option UInt64), 0 < cap) ∧ (0 : UInt64) < 5 ∧
    threeRows.length < 2 ^ 63 ∧ (listExecutor threeRows).Serves threeRows ∧
    (∃ results, ([1, 2].mapM fun k =>
        (PagePolicy.mk (some 2)).onePage (listExecutor threeRows) 5 (UInt64.ofNat k)) =
          pure results ∧ results.flatMap (·.items) = threeRows) ∧
    ∃ r, (PagePolicy.mk (some 2)).result (listExecutor threeRows) (some 5) .null = pure r ∧
      ShowsPage threeRows 2 1 r := by
  have hcap : ∀ cap ∈ (some 2 : Option UInt64), 0 < cap := by
    intro cap hc
    rw [← Option.some.inj hc]
    decide
  have hlast : lastPageOf threeRows.length 2 = 2 := by
    rw [lastPageOf, Nat.ceilDiv_eq_add_pred_div]
    rfl
  obtain ⟨-, hall, hone⟩ := pages_partition ⟨some 2⟩ (listExecutor threeRows) threeRows 5 hcap
    (by decide) (by decide) (serves_listExecutor threeRows)
  have hgrant : ((PagePolicy.mk (some 2)).grant 5).toNat = 2 := by decide
  rw [hgrant, hlast] at hall
  obtain ⟨-, r, hr, -, hshows, -⟩ := hone .null 1 rfl
  rw [hgrant, hlast] at hshows
  exact ⟨hcap, by decide, by decide, serves_listExecutor threeRows, hall, r, hr,
    hshows (by decide) (by decide)⟩

end RelationalQuery
